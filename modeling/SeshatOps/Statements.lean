/-
This file models the SQL statements of the record processor, one definition for each
function of the source that issues one.

A statement refuses a text parameter that its column cannot hold, then a row that a
check constraint forbids, then a key that is taken. `SELECT .. FOR UPDATE` locks the
row it finds and nothing when it finds none; an insert reserves its key. The errors
are those of the source: the step that failed under `ErrTransient`, with the server's
reason.
-/

import SeshatOps.Program
import SeshatOps.Schema

namespace SeshatOps

open Relational

/-! ### Errors and actions -/

/-- The step of the processor that an error names. -/
inductive Stage
  | begin
  | lockInbox
  | upsertInbox
  | lockProjection
  | insertProjection
  | updateProjection
  | lockLineage
  | lineageSourceEvent
  | insertLineage (kind : HopKind)
  | selectGap
  | upsertFailure
  | commit
  deriving DecidableEq, Repr

/-- The errors of the record processor. -/
inductive ProcessError
  /-- `ErrTransient: <stage>: <cause>` -/
  | transient (stage : Stage) (cause : SqlError)
  /-- `ErrTransient: content hash: <cause>` -/
  | contentHash (cause : Event.EventError)
  /-- `ErrTransient: canonical bytes: <cause>` -/
  | canonicalBytes (cause : Event.EventError)
  /-- An error of the event contract, passed on. -/
  | event (cause : Event.EventError)
  /-- `platform: redrive parse <event_id>: <cause>` -/
  | redriveParse (eventID : Bytes) (cause : Event.EventError)
  /-- `ErrTransient: gap redrive: <cause>` -/
  | gapRedrive (cause : ProcessError)
  /-- The re-drive loop was cut off before it ended; the source has no such error. -/
  | unfinished
  deriving DecidableEq

/-- What `notifyApplied` tells the readers of the projection. -/
structure AppliedUpdate where
  tenantID : Bytes
  itemID : Bytes
  quantityOnHand : Int
  aggregateVersion : Int
  eventID : Bytes
  deriving DecidableEq

/-- A function of the processor. -/
abbrev Action := Program Database Lock AppliedUpdate ProcessError

/-- A statement with the given text parameters. -/
def statement {Answer : Type} (texts : List Bytes) (locks : Database → List Lock)
    (execute : Nat → Database → Except SqlError (Answer × (Database → Database))) :
    Statement Database Lock Answer where
  locks _ := locks
  execute choice db := if texts.all storable then execute choice db else .error .domain

/-- A query that reads one answer off the database. -/
def query {Answer : Type} (texts : List Bytes) (locks : Database → List Lock)
    (answer : Nat → Database → Answer) : Statement Database Lock Answer :=
  statement texts locks fun choice db => .ok (answer choice db, id)

/-- A write to the platform schema that a check on the database may refuse. -/
def command (texts : List Bytes) (locks : Database → List Lock)
    (refusal : Database → Option SqlError) (change : Platform → Platform) :
    Statement Database Lock Unit :=
  statement texts locks fun _ db =>
    match refusal db with
    | some error => .error error
    | none => .ok ((), Database.onPlatform change)

section Executed

variable {Answer : Type} {texts : List Bytes} {locks : Database → List Lock} {choice : Nat}
  {db : Database} {change : Database → Database}

theorem query_executed {read : Nat → Database → Answer} {answer : Answer}
    (executed : (query texts locks read).execute choice db = .ok (answer, change)) :
    texts.all storable = true ∧ answer = read choice db ∧ change = id := by
  simp only [query, statement] at executed
  split_ifs at executed with fit
  simp only [Except.ok.injEq, Prod.mk.injEq] at executed
  exact ⟨fit, executed.1.symm, executed.2.symm⟩

theorem query_refused {read : Nat → Database → Answer} {error : SqlError}
    (executed : (query texts locks read).execute choice db = .error error) :
    texts.all storable = false ∧ error = .domain := by
  simp only [query, statement] at executed
  split_ifs at executed with fit
  exact ⟨Bool.eq_false_of_not_eq_true fit, (Except.error.inj executed).symm⟩

theorem command_executed {refusal : Database → Option SqlError} {update : Platform → Platform}
    {answer : Unit}
    (executed : (command texts locks refusal update).execute choice db = .ok (answer, change)) :
    texts.all storable = true ∧ change = Database.onPlatform update := by
  simp only [command, statement] at executed
  split_ifs at executed with fit
  cases refused : refusal db with
  | some error => simp [refused] at executed
  | none =>
    simp only [refused, Except.ok.injEq, Prod.mk.injEq] at executed
    exact ⟨fit, executed.2.symm⟩

end Executed

section Rules

variable {Answer Value : Type} {mayFail : Bool} {cause : Prop} {base view : Database}
  {notes : List AppliedUpdate} {post : Value → Program.Session Database AppliedUpdate → Prop}

/-- A query, in a transaction or outside of one, that is answered or fails for one of two
reasons. -/
theorem ensures_query {Note Failure : Type} {session : Program.Session Database Note}
    {ends : Except Failure Value → Program.Session Database Note → Prop}
    (texts : List Bytes) (locks : Database → List Lock) (answer : Nat → Database → Answer)
    (failure : SqlError → Failure)
    (continuation : Answer → Program Database Lock Note Failure Value)
    (lost : mayFail = true → ends (.error (failure .unavailable)) session)
    (refused : texts.all storable = false → ends (.error (failure .domain)) session)
    (answered : texts.all storable = true → ∀ choice,
      Program.Ensures mayFail (continuation (answer choice session.view)) session ends) :
    Program.Ensures mayFail (Program.exec (query texts locks answer) failure >>= continuation)
      session ends := by
  refine Program.ensures_exec _ _ _ lost ?_ ?_
  · intro choice found change executed
    obtain ⟨fit, rfl, rfl⟩ := query_executed executed
    rw [Program.Session.write_id]
    exact answered fit choice
  · intro choice error executed
    obtain ⟨unfit, rfl⟩ := query_refused executed
    exact refused unfit

/-- A query inside a transaction fails only for a text that cannot be a parameter. -/
theorem runs_query {Failure : Type} (texts : List Bytes) (locks : Database → List Lock)
    (answer : Nat → Database → Answer) (failure : SqlError → Failure)
    (continuation : Answer → Program Database Lock AppliedUpdate Failure Value)
    (refused : texts.all storable = false → cause)
    (answered : texts.all storable = true → ∀ choice,
      Program.Runs mayFail cause (continuation (answer choice view)) base view notes post) :
    Program.Runs mayFail cause
      (Program.exec (query texts locks answer) failure >>= continuation) base view notes post := by
  intro session within
  refine ensures_query _ _ _ _ _ (fun may => ⟨within.rollback_eq, Or.inl may⟩)
    (fun unfit => ⟨within.rollback_eq, Or.inr (refused unfit)⟩) fun fit choice => ?_
  rw [within.view_eq]
  exact answered fit choice session within

/-- A write inside a transaction whose row the constraints allow. -/
theorem runs_command {Failure : Type} (texts : List Bytes) (locks : Database → List Lock)
    (refusal : Database → Option SqlError) (change : Platform → Platform)
    (failure : SqlError → Failure)
    (continuation : Unit → Program Database Lock AppliedUpdate Failure Value)
    (allowed : refusal view = none) (refused : texts.all storable = false → cause)
    (written : texts.all storable = true →
      Program.Runs mayFail cause (continuation ()) base (view.onPlatform change) notes post) :
    Program.Runs mayFail cause
      (Program.exec (command texts locks refusal change) failure >>= continuation)
      base view notes post := by
  refine Program.Runs.exec _ _ _ ?_ ?_
  · intro choice error executed
    cases fit : texts.all storable with
    | true => simp [command, statement, fit, allowed] at executed
    | false => exact refused fit
  · intro choice found change executed
    obtain ⟨fit, rfl⟩ := command_executed executed
    exact written fit

end Rules

/-! ### The inbox -/

/-- `SELECT .. FROM platform.inbox .. FOR UPDATE`. -/
def lockInboxStatement (eventID : Bytes) : Statement Database Lock (Option InboxRow) :=
  query [eventID]
    (fun db => if (db.platform.inbox.find? eventID).isSome then [.inbox eventID] else [])
    fun _ db => db.platform.inbox.find? eventID

def lockInbox (eventID : Bytes) : Action (Option InboxRow) :=
  .exec (lockInboxStatement eventID) (.transient .lockInbox)

/-- `nullBytes`: an empty byte slice is stored as `NULL`. -/
def nullBytes (bytes : Bytes) : Option Bytes := if bytes.isEmpty then none else some bytes

/-- The row that `INSERT .. ON CONFLICT DO UPDATE` leaves: every column is the new one, but a
conflict keeps the hash that was there. -/
def mergeInbox (row : InboxRow) : Option InboxRow → InboxRow
  | none => row
  | some existing =>
      if row.disposition = .quarantinedConflict then
        { row with contentHash := existing.contentHash }
      else row

def storeInbox (row : InboxRow) (platform : Platform) : Platform :=
  { platform with
    inbox := platform.inbox.store (mergeInbox row (platform.inbox.find? row.eventID)) }

def upsertInboxStatement (row : InboxRow) : Statement Database Lock Unit :=
  command [row.eventID, row.tenantID, row.contentHash, row.aggregateType, row.aggregateID]
    (fun _ => [.inbox row.eventID])
    (fun _ => if row.aggregateVersion < 1 then some .constraint else none) (storeInbox row)

def upsertInbox (row : InboxRow) : Action Unit :=
  .exec (upsertInboxStatement row) (.transient .upsertInbox)

/-! ### The inventory projection -/

def lockProjectionStatement (tenantID itemID : Bytes) :
    Statement Database Lock (Option ProjectionRow) :=
  query [tenantID, itemID]
    (fun db => if (db.platform.projection.find? (tenantID, itemID)).isSome then
      [.projection (tenantID, itemID)] else [])
    fun _ db => db.platform.projection.find? (tenantID, itemID)

def lockProjection (tenantID itemID : Bytes) : Action (Option ProjectionRow) :=
  .exec (lockProjectionStatement tenantID itemID) (.transient .lockProjection)

def storeProjection (row : ProjectionRow) (platform : Platform) : Platform :=
  { platform with projection := platform.projection.store row }

/-- The check constraints of a projection row. -/
def ProjectionRow.allowed (row : ProjectionRow) : Bool :=
  0 ≤ row.quantityOnHand && 0 ≤ row.aggregateVersion

def insertProjectionStatement (row : ProjectionRow) : Statement Database Lock Unit :=
  command [row.tenantID, row.itemID] (fun _ => [.projection row.key])
    (fun db => if !row.allowed then some .constraint
      else if (db.platform.projection.find? row.key).isSome then some .unique else none)
    (storeProjection row)

def insertProjection (row : ProjectionRow) : Action Unit :=
  .exec (insertProjectionStatement row) (.transient .insertProjection)

/-- `UPDATE platform.inventory_projection`, which changes nothing where there is no row. -/
def updateProjectionStatement (row : ProjectionRow) : Statement Database Lock Unit :=
  command [row.tenantID, row.itemID]
    (fun db => if (db.platform.projection.find? row.key).isSome then [.projection row.key] else [])
    (fun db => if !row.allowed && (db.platform.projection.find? row.key).isSome then
      some .constraint else none)
    fun platform =>
      if (platform.projection.find? row.key).isSome then storeProjection row platform else platform

def updateProjection (row : ProjectionRow) : Action Unit :=
  .exec (updateProjectionStatement row) (.transient .updateProjection)

/-! ### The lineage tables -/

/-- `lineageLockQuery`: the row of a hop, locked. -/
def lockLineageStatement (key : HopKind × Bytes × Bytes) :
    Statement Database Lock (Option LineageRow) :=
  query [key.2.1, key.2.2]
    (fun db => if (db.platform.lineage.find? key).isSome then [.lineage key] else [])
    fun _ db => db.platform.lineage.find? key

def lockLineageVersion (key : HopKind × Bytes × Bytes) : Action (Option Int) := do
  let found ← Program.exec (lockLineageStatement key) (.transient .lockLineage)
  return found.map LineageRow.aggregateVersion

/-- `lineageSourceEventQuery`, which locks nothing. -/
def lineageSourceEventStatement (key : HopKind × Bytes × Bytes) :
    Statement Database Lock (Option Bytes) :=
  query [key.2.1, key.2.2] (fun _ => []) fun _ db =>
    (db.platform.lineage.find? key).map LineageRow.sourceEventID

def lineageSourceEventID (key : HopKind × Bytes × Bytes) : Action (Option Bytes) :=
  .exec (lineageSourceEventStatement key) (.transient .lineageSourceEvent)

/-- The texts of a lineage row. -/
def LineageRow.texts (row : LineageRow) : List Bytes :=
  [row.hop.tenantID, row.hop.hopID, row.hop.parentID, row.hop.itemID, row.hop.orderID,
    row.sourceEventID, row.occurredAt, row.recordedAt, row.correlationID, row.traceID] ++
    row.causationID.toList

/-- A row that the unique constraints keep out. -/
def Platform.hasClash (platform : Platform) (hop : Hop) : Bool :=
  platform.lineage.rows.any fun other => hop.clashes other.hop

def storeLineage (row : LineageRow) (platform : Platform) : Platform :=
  if platform.hasClash row.hop then platform
  else { platform with lineage := platform.lineage.store row }

/-- The keys an inserted row reserves in the indexes of its table. -/
def Hop.lineageLocks (hop : Hop) : List Lock :=
  [.lineage hop.key] ++
    (if hop.kind = .supplier then []
      else [.lineageParent (hop.kind, hop.tenantID, hop.parentID)]) ++
    (if hop.kind = .shipment then [.lineageOrder (hop.tenantID, hop.orderID)] else [])

/-- `INSERT .. ON CONFLICT DO NOTHING`: whether a row was inserted. -/
def insertLineageStatement (row : LineageRow) : Statement Database Lock Bool :=
  statement row.texts (fun _ => row.hop.lineageLocks) fun _ db =>
    if row.aggregateVersion < 1 then .error .constraint
    else .ok (!db.platform.hasClash row.hop, Database.onPlatform (storeLineage row))

/-! ### Gaps -/

/-- The rows that may be re-driven: retained gaps of the aggregate at the version after the
projection's. The join is by tenant and identifier only. -/
def eligibleGaps (platform : Platform) (tenantID aggregateType aggregateID : Bytes) :
    List InboxRow :=
  match platform.projection.find? (tenantID, aggregateID) with
  | none => []
  | some current => platform.inbox.rows.filter fun row =>
      row.tenantID == tenantID && row.aggregateType == aggregateType &&
        row.aggregateID == aggregateID && row.disposition == .quarantinedGap &&
        row.aggregateVersion == current.aggregateVersion + 1 && row.eventBytes.isSome

/-- `ORDER BY i.aggregate_version LIMIT 1`. All eligible rows have one version, so the server
may return any of them. -/
def selectGapStatement (tenantID aggregateType aggregateID : Bytes) :
    Statement Database Lock (Option InboxRow) :=
  query [tenantID, aggregateType, aggregateID] (fun _ => []) fun choice db =>
    let eligible := eligibleGaps db.platform tenantID aggregateType aggregateID
    eligible[choice % eligible.length]?

def selectGap (tenantID aggregateType aggregateID : Bytes) : Action (Option InboxRow) :=
  .exec (selectGapStatement tenantID aggregateType aggregateID) (.transient .selectGap)

/-! ### Failures -/

/-- The row that the upsert leaves: a second failure at one position only counts up and takes
the new codes. -/
def mergeFailure (row : FailureRow) : Option FailureRow → FailureRow
  | none => row
  | some existing =>
      { existing with
        attemptCount := existing.attemptCount + 1
        diagnosticCode := row.diagnosticCode
        failureCategory := row.failureCategory }

def storeFailure (row : FailureRow) (platform : Platform) : Platform :=
  { platform with
    failures := platform.failures.store (mergeFailure row (platform.failures.find? row.source)) }

/-- The texts of a failure row. -/
def FailureRow.texts (row : FailureRow) : List Bytes :=
  row.eventID.toList ++ row.tenantID.toList ++ row.aggregateType.toList ++
    row.aggregateID.toList ++ row.eventType.toList ++ row.contentHash.toList ++
    [row.receivedBytesHash, row.source.topic]

def upsertFailureStatement (row : FailureRow) : Statement Database Lock Unit :=
  command row.texts (fun _ => [.failure row.source])
    (fun db => if (mergeFailure row (db.platform.failures.find? row.source)).attemptCount >
      maxInteger then some .domain else none)
    (storeFailure row)

def upsertFailure (row : FailureRow) : Action Unit :=
  .exec (upsertFailureStatement row) (.transient .upsertFailure)

/-- `commitWithHook`. -/
def commitWithHook : Action Unit := .commitOr (.transient .commit)

end SeshatOps
