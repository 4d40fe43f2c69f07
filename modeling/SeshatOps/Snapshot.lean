/-
This file models `loadSnapshot` of the API server beside calls of `ProcessRecord`.

The items of a snapshot and its checksum are read by two statements outside of a
transaction, and each sees what is committed when it runs. A call that commits between
them changes the rows that are hashed but not the rows that were listed. Where nothing
changes the rows of the tenant in between, the checksum is that of the listed items.
-/

import SeshatOps.ChecksumText
import SeshatOps.Concurrent
import SeshatOps.Live
import SeshatOps.RelyGuarantee

namespace SeshatOps

open Relational Event

/-! ### The rows that calls write -/

/-- Every row of the projection is one that the contract lets through. -/
def Registered (db : Database) : Prop := ∀ row ∈ db.platform.projection.rows, row.Identified

theorem Registered.projectionRows {db : Database} (registered : Registered db)
    (tenantID : Bytes) : ProjectionRows (db.platform.tenantProjection tenantID) where
  identified _ member := registered _ (List.mem_of_mem_filter member)
  distinct := (List.filter_sublist.map _).nodup db.platform.projection.unique

/-- Whatever else is committed meanwhile, the program keeps the rows registered. -/
def Registers {Value : Type} (program : Action Value) : Prop :=
  ∀ ends : Except ProcessError Value → Prop, (∀ result, ends result) →
    Program.Keeps Registered (fun _ => True) ends program

section Registering

variable {Answer Value Result : Type} {program : Action Value}
  {continuation : Value → Action Result}

theorem registers_done (result : Except ProcessError Value) : Registers (.done result) :=
  fun _ all => all result

theorem Registers.bind (first : Registers program)
    (rest : ∀ value, Registers (continuation value)) : Registers (program >>= continuation) := by
  intro ends all
  refine Program.keeps_bind _ _ (first _ fun result => ?_)
  cases result with
  | ok value => exact rest value ends all
  | error failure => exact all _

theorem Registers.attempt (first : Registers program) :
    Registers (Program.attempt program : Action (Except ProcessError Value)) :=
  fun _ all => Program.keeps_attempt program (first _ fun _ => all _)

theorem Registers.inTransaction (failure : SqlError → ProcessError) (inside : Registers program) :
    Registers (Program.inTransaction failure program) :=
  fun ends all => Program.keeps_inTransaction _ _ (fun _ => all _) (inside ends all)

theorem registers_commit : Registers commitWithHook := fun _ all => ⟨all _, all _⟩

theorem registers_exec {statement : Statement Database Lock Answer}
    (failure : SqlError → ProcessError)
    (keeps : ∀ choice db answer change, statement.execute choice db = .ok (answer, change) →
      ∀ store, Registered store → Registered (change store)) :
    Registers (Program.exec statement failure) :=
  fun _ all => ⟨all _, fun choice db _ =>
    ⟨fun answer change executed => ⟨keeps choice db answer change executed, all _⟩,
      fun _ _ => all _⟩⟩

theorem registers_query (texts : List Bytes) (locks : Database → List Lock)
    (read : Nat → Database → Answer) (failure : SqlError → ProcessError) :
    Registers (Program.exec (query texts locks read) failure) := by
  refine registers_exec failure fun choice db answer change executed store registered => ?_
  rw [(query_executed executed).2.2]
  exact registered

theorem registers_command (texts : List Bytes) (locks : Database → List Lock)
    (refusal : Database → Option SqlError) (update : Platform → Platform)
    (failure : SqlError → ProcessError)
    (keeps : ∀ platform, (∀ row ∈ platform.projection.rows, row.Identified) →
      ∀ row ∈ (update platform).projection.rows, row.Identified) :
    Registers (Program.exec (command texts locks refusal update) failure) := by
  refine registers_exec failure fun choice db answer change executed store registered => ?_
  rw [(command_executed executed).2]
  exact keeps store.platform registered

theorem registers_record (row : InboxRow) : Registers (record row) :=
  .bind (registers_command _ _ _ _ _ fun _ registered => registered) fun _ => registers_done _

theorem registers_failure (row : FailureRow) : Registers (upsertFailure row) :=
  registers_command _ _ _ _ _ fun _ registered => registered

theorem registers_recordAndCommit (env : Envelope) (row : InboxRow) :
    Registers (recordAndCommit env row) :=
  (registers_record row).bind fun _ => registers_commit.bind fun _ => registers_done _

theorem registers_storeProjection {row : ProjectionRow} (identified : row.Identified)
    (platform : Platform) (registered : ∀ row ∈ platform.projection.rows, row.Identified) :
    ∀ other ∈ (storeProjection row platform).projection.rows, other.Identified :=
  Table.forall_mem_store registered identified

end Registering

/-! ### What a call writes -/

section Calls

variable {env : Envelope}

/-- The row that a validated event writes to the projection. -/
theorem identified_of_validated (passed : validate env = .ok ()) {quantity : QuantityDecremented}
    (carried : asQuantityDecremented env = some quantity) :
    (projectionRow env quantity).Identified := by
  obtain ⟨payload, valid⟩ := validate_ok env passed
  obtain rfl : payload = .quantityDecremented quantity := by
    simp only [asQuantityDecremented, valid.carried] at carried
    cases payload with
    | quantityDecremented own => rw [Option.some.inj carried]
    | _ => cases carried
  have numbers := valid.fits.numbers
  simp only [Payload.numbers, List.forall_mem_cons] at numbers
  have positive := valid.version.1
  exact ⟨valid.tenantID, validate_tenantID env passed, validate_canonicalID env passed,
    numbers.2.2.1.1, show 0 ≤ env.aggregateVersion by omega⟩

theorem registers_applyProjection (passed : validate env = .ok ()) (hash canonical : Bytes) :
    Registers (applyProjection env hash canonical) := by
  rw [applyProjection]
  cases carried : asQuantityDecremented env with
  | none => exact registers_done _
  | some quantity =>
    have identified := identified_of_validated passed carried
    refine (registers_query _ _ _ _).bind fun found => ?_
    cases found with
    | none =>
      dsimp only
      split_ifs with later
      · exact registers_record _
      · have first : env.aggregateVersion = 1 := not_not.mp later
        refine Registers.bind (registers_command _ _ _ _ _ ?_) fun _ => registers_record _
        rw [projectionRow, first] at identified
        exact registers_storeProjection identified
    | some current =>
      dsimp only
      split_ifs
      · exact registers_record _
      · exact registers_record _
      · exact registers_record _
      · exact registers_record _
      · refine Registers.bind (registers_command _ _ _ _ _ ?_) fun _ => registers_record _
        intro platform registered
        split_ifs
        · exact registers_storeProjection identified platform registered
        · exact registered

theorem registers_insertLineageHop (kind : HopKind) :
    Registers (insertLineageHop kind env) := by
  rw [insertLineageHop]
  split
  · split_ifs
    · refine registers_exec _ fun choice db answer change executed store registered => ?_
      simp only [insertLineageStatement, statement] at executed
      split_ifs at executed
      simp only [Except.ok.injEq, Prod.mk.injEq] at executed
      rw [← executed.2]
      show ∀ row ∈ (storeLineage _ store.platform).projection.rows, row.Identified
      rw [storeLineage]
      split_ifs
      · exact registered
      · exact registered
    · exact registers_done _
  · exact registers_done _

theorem registers_applyLineage (kind : HopKind) (hash canonical : Bytes) :
    Registers (applyLineage kind env hash canonical) := by
  rw [applyLineage]
  refine Registers.bind ((registers_query _ _ _ _).bind fun _ => registers_done _) fun found => ?_
  cases found with
  | some current =>
    have recorded : ∀ own : Option Bytes, Registers (if own = some env.eventID then
        record (inboxRow env hash .duplicateNoop)
      else record (versionedRow env hash (lineageExistingDisposition current env.aggregateVersion)
        (current + 1) (gapBytes (lineageExistingDisposition current env.aggregateVersion)
          canonical))) := by
      intro own
      split_ifs
      · exact registers_record _
      · exact registers_record _
    dsimp only
    split_ifs
    · exact (registers_query _ _ _ _).bind recorded
    · exact (registers_done _).bind recorded
  | none =>
    dsimp only
    split_ifs
    · exact registers_record _
    · refine (registers_insertLineageHop kind).bind fun inserted => ?_
      split_ifs
      · exact registers_record _
      · refine (registers_query _ _ _ _).bind fun own => ?_
        split_ifs
        · exact registers_record _
        · exact registers_record _

theorem registers_applyAndCommit (passed : validate env = .ok ()) (hash canonical : Bytes) :
    Registers (applyAndCommit env hash canonical) := by
  have applies : Registers (applyEvent env hash canonical) := by
    rw [applyEvent]
    split_ifs
    · exact registers_applyProjection passed hash canonical
    · split
      · exact registers_applyLineage _ hash canonical
      · exact registers_done _
  rw [applyAndCommit]
  refine applies.bind fun disposition => registers_commit.bind fun _ => ?_
  split_ifs
  · split
    · exact registers_done _
    · exact fun ends all => ⟨trivial, all _⟩
  · exact registers_done _

theorem registers_checked {Value : Type} (failure : EventError → ProcessError)
    (result : Checked Value) : Registers (checked failure result) := by
  cases result with
  | ok | error => exact registers_done _

theorem registers_processValidated (passed : validate env = .ok ()) :
    Registers (processValidated env) := by
  rw [processValidated]
  refine (registers_checked _ _).bind fun hash => (registers_checked _ _).bind fun canonical => ?_
  refine Registers.inTransaction _ ((registers_query _ _ _ _).bind fun found => ?_)
  cases found with
  | none => exact registers_applyAndCommit passed hash canonical
  | some existing =>
    dsimp only
    split_ifs
    · exact registers_recordAndCommit env _
    · exact registers_recordAndCommit env _
    · exact registers_applyAndCommit passed hash canonical
    · exact registers_commit.bind fun _ => registers_done _

theorem registers_quarantineInbox (disposition : Disposition) (expected received : Option Int) :
    Registers (quarantineInbox env disposition expected received) :=
  .inTransaction _ (registers_recordAndCommit env _)

theorem registers_redriveGaps (tenantID aggregateType aggregateID : Bytes) (fuel : Nat) :
    Registers (redriveGaps tenantID aggregateType aggregateID fuel) := by
  induction fuel with
  | zero => exact registers_done _
  | succ fuel hypothesis =>
    rw [redriveGaps]
    refine (registers_query _ _ _ _).bind fun found => ?_
    cases found with
    | none => exact registers_done _
    | some gap =>
      dsimp only
      split
      · exact registers_done _
      · rename_i env parsed
        refine (registers_checked _ _).bind fun hash => ?_
        split_ifs
        · exact (registers_quarantineInbox _ _ _).bind fun _ => hypothesis
        · refine (registers_processValidated (parse_valid _ env parsed)).bind fun result => ?_
          split_ifs
          · exact registers_done _
          · exact hypothesis

theorem Registers.settle {action : Action Result} (inside : Registers action) :
    Registers (settle action) := by
  refine inside.attempt.bind fun result => ?_
  cases result with
  | ok | error => exact registers_done _

/-- A call writes no row to the projection that the contract does not let through. -/
theorem registers_processRecord (fuel : Nat) (key value : Bytes) (pos : SourcePosition) :
    Registers (processRecord fuel key value pos) := by
  have failure : ∀ pos error, Registers (persistParseFailure value pos error) := fun pos error =>
    .inTransaction _ ((registers_failure _).bind fun _ =>
      registers_commit.bind fun _ => registers_done _)
  rw [processRecord]
  split
  · exact (failure _ _).settle
  · rename_i env parsed
    have passed := parse_valid value env parsed
    by_cases foreign : (!isProjectionFamily env.eventType) = true
    · rw [if_pos foreign]
      exact Registers.settle (.inTransaction _ ((registers_failure _).bind fun _ =>
        registers_commit.bind fun _ => registers_done _))
    · rw [if_neg foreign]
      split
      · exact (failure _ _).settle
      · split_ifs
        · exact (registers_quarantineInbox _ _ _).settle
        · rw [processKeyed]
          refine (registers_processValidated passed).attempt.bind fun result => ?_
          cases result with
          | error error => exact registers_done _
          | ok result =>
            dsimp only
            split_ifs
            · refine (registers_redriveGaps _ _ _ fuel).attempt.bind fun drained => ?_
              cases drained with
              | error | ok => exact registers_done _
            · exact registers_done _

end Calls

namespace Live

/-! ### The snapshot -/

/-- The errors of `loadSnapshot`. -/
inductive SnapshotError
  | listProjection (cause : SqlError)
  | checksumQuery (cause : SqlError)
  deriving DecidableEq

/-- The query of `ListTenantProjection`. -/
def listProjectionStatement (orders : TextOrders) (tenantID : Bytes) :
    Statement Database Lock (List InventoryItem) :=
  query [Strings.toLower tenantID] (fun _ => []) fun _ db =>
    listTenantProjection orders db.platform.projection tenantID

/-- The query of `ChecksumTenant`. -/
def checksumStatement (tenantID : Bytes) : Statement Database Lock (List ProjectionRow) :=
  query [Strings.toLower tenantID] (fun _ => []) fun _ db =>
    db.platform.tenantProjection (Strings.toLower tenantID)

def loadSnapshot (orders : TextOrders) (tenantID observedAt : Bytes) :
    Program Database Lock AppliedUpdate SnapshotError InventorySnapshot := do
  let items ← .exec (listProjectionStatement orders tenantID) .listProjection
  let rows ← .exec (checksumStatement tenantID) .checksumQuery
  return ⟨tenantID, items, digest (projectionText rows), observedAt⟩

/-- The rows that the items of a snapshot were listed from. -/
def itemRows (tenantID : Bytes) (items : List InventoryItem) : List ProjectionRow :=
  items.map fun item =>
    ⟨Strings.toLower tenantID, item.itemID, item.quantityOnHand, item.aggregateVersion⟩

/-- The checksum of a snapshot is that of its items. -/
def Describes (snapshot : InventorySnapshot) : Prop :=
  snapshot.checksum = digest (projectionText (itemRows snapshot.tenantID snapshot.items))

/-! ### Beside calls -/

/-- What a client returns: the outcome of a call, or the result of a request for a snapshot. -/
abbrev Response := Outcome ⊕ Except SnapshotError InventorySnapshot

def snapshotRequest (orders : TextOrders) (tenantID observedAt : Bytes) :
    SeshatOps.Action Response := do
  let result ← (loadSnapshot orders tenantID observedAt).attempt
  return .inr result

def recordRequest (call : Call) : SeshatOps.Action Response := do
  let outcome ← processRecord call.fuel call.key call.value call.pos
  return .inl outcome

/-- A request for a snapshot beside calls of the processor, on empty tables. -/
def serving {Worker : Type} (erp : Erp) (calls : Worker → Call) (orders : TextOrders)
    (tenantID observedAt : Bytes) :
    Program.System (Option Worker) Database Lock AppliedUpdate ProcessError Response where
  committed := ⟨erp, .empty⟩
  clients
    | none => ⟨snapshotRequest orders tenantID observedAt, none, []⟩
    | some worker => ⟨recordRequest (calls worker), none, []⟩

/-- The second half of the request: the items are listed, and their rows are to be hashed. -/
def hashing (tenantID observedAt : Bytes) (items : List InventoryItem) :
    SeshatOps.Action Response :=
  .ask (checksumStatement tenantID) fun
    | .ok rows => .done (.ok (.inr (.ok
        ⟨tenantID, items, digest (projectionText rows), observedAt⟩)))
    | .error error => .done (.ok (.inr (.error (.checksumQuery error))))

theorem snapshotRequest_eq (orders : TextOrders) (tenantID observedAt : Bytes) :
    snapshotRequest orders tenantID observedAt =
      .ask (listProjectionStatement orders tenantID) fun
        | .ok items => hashing tenantID observedAt items
        | .error error => .done (.ok (.inr (.error (.listProjection error)))) := by
  refine congrArg (Program.ask (listProjectionStatement orders tenantID)) ?_
  funext answer
  cases answer with
  | error error => rfl
  | ok items =>
    refine congrArg (Program.ask (checksumStatement tenantID)) ?_
    funext answer
    cases answer with
    | error error => rfl
    | ok rows => rfl

/-- Every client of the server keeps the rows of the projection registered. -/
theorem serving_keeping {Worker : Type} (erp : Erp) (calls : Worker → Call) (orders : TextOrders)
    (tenantID observedAt : Bytes) (index : Option Worker) :
    ((serving erp calls orders tenantID observedAt).clients index).Keeping Registered
      (fun _ => True) fun _ => True := by
  refine ⟨?_, fun write pending => ?_⟩
  · cases index with
    | none =>
      show Program.Keeps _ _ _ (snapshotRequest orders tenantID observedAt)
      rw [snapshotRequest_eq]
      refine ⟨trivial, fun choice db _ => ⟨fun items change executed => ?_, fun _ _ => trivial⟩⟩
      rw [(query_executed executed).2.2]
      refine ⟨fun _ registered => registered, trivial, fun choice db _ =>
        ⟨fun rows change executed => ?_, fun _ _ => trivial⟩⟩
      rw [(query_executed executed).2.2]
      exact ⟨fun _ registered => registered, trivial⟩
    | some worker =>
      have registers : Registers (recordRequest (calls worker)) :=
        (registers_processRecord _ _ _ _).bind fun _ => registers_done _
      exact registers _ fun _ => trivial
  · cases index <;> cases pending

/-! ### The two reads -/

section Reads

variable {Worker : Type} [DecidableEq Worker] [Fintype Worker] {orders : TextOrders}
  {tenantID observedAt : Bytes}
  {system : Program.System (Option Worker) Database Lock AppliedUpdate ProcessError Response}

/-- The rows of the tenant that a statement reads at some point of a run. -/
def rowsIn (tenantID : Bytes)
    (system : Program.System (Option Worker) Database Lock AppliedUpdate ProcessError Response) :
    List ProjectionRow :=
  system.committed.platform.tenantProjection (Strings.toLower tenantID)

/-- The items that are listed have the rows of the tenant. -/
theorem itemRows_listed (orders : TextOrders) (tenantID : Bytes) (db : Database) :
    (itemRows tenantID (listTenantProjection orders db.platform.projection tenantID)).Perm
      (db.platform.tenantProjection (Strings.toLower tenantID)) := by
  have sorted := List.perm_insertionSort
    (fun first second : ProjectionRow => orders.collation first.itemID second.itemID = true)
    (db.platform.tenantProjection (Strings.toLower tenantID))
  refine List.Perm.trans ?_ sorted
  rw [itemRows, listTenantProjection, List.map_map]
  refine (List.map_congr_left fun row member => ?_).trans (List.map_id _) ▸ List.Perm.refl _
  have tenant := List.of_mem_filter (sorted.subset member)
  rw [decide_eq_true_eq] at tenant
  show (⟨Strings.toLower tenantID, _, _, _⟩ : ProjectionRow) = row
  rw [← tenant]

/-- A read of the request is served, or it fails. -/
theorem query_step {Answer : Type} {texts : List Bytes} {read : Nat → Database → Answer}
    {next : Except SqlError Answer → SeshatOps.Action Response}
    (asks : system.clients none = ⟨.ask (query texts (fun _ => []) read) next, none, []⟩)
    (reply : Reply) :
    (∃ choice, reply = .served choice ∧ texts.all storable = true ∧
      system.step none reply = ⟨system.committed, Function.update system.clients none
        ⟨next (.ok (read choice system.committed)), none, []⟩, system.notes⟩) ∨
    ((texts.all storable = true → reply = .lost) ∧
      ∃ error, ((system.step none reply).clients none).program = next (.error error)) := by
  rw [Program.System.step_of_unblocked (by cases reply <;> simp [Program.System.Blocked,
    Program.Client.wants, asks, query, statement])]
  cases reply with
  | lost => exact Or.inr ⟨fun _ => rfl, .unavailable, by simp [asks, Program.Client.advance]⟩
  | served choice =>
    simp only [asks, Program.Client.advance, Program.Client.view, query, statement]
    by_cases fit : texts.all storable = true
    · exact Or.inl ⟨choice, rfl, fit, by simp [fit]⟩
    · exact Or.inr ⟨fun fits => absurd fits fit, .domain, by simp [fit]⟩

theorem listing_served
    (asks : system.clients none = ⟨snapshotRequest orders tenantID observedAt, none, []⟩)
    (fit : [Strings.toLower tenantID].all storable = true) (choice : Nat) :
    system.step none (.served choice) = ⟨system.committed, Function.update system.clients none
      ⟨hashing tenantID observedAt
        (listTenantProjection orders system.committed.platform.projection tenantID), none, []⟩,
      system.notes⟩ := by
  rw [snapshotRequest_eq] at asks
  rcases query_step asks (.served choice) with ⟨_, -, -, stepped⟩ | ⟨lost, -⟩
  · exact stepped
  · cases lost fit

theorem listing_step
    (asks : system.clients none = ⟨snapshotRequest orders tenantID observedAt, none, []⟩)
    (reply : Reply) :
    (system.step none reply).clients none = ⟨hashing tenantID observedAt
      (listTenantProjection orders system.committed.platform.projection tenantID), none, []⟩ ∨
    ∃ error, ((system.step none reply).clients none).program =
      .done (.ok (.inr (.error (.listProjection error)))) := by
  rw [snapshotRequest_eq] at asks
  refine (query_step asks reply).imp ?_ And.right
  rintro ⟨choice, -, -, stepped⟩
  simp only [stepped, Function.update_self]

theorem hashing_step {items : List InventoryItem}
    (asks : system.clients none = ⟨hashing tenantID observedAt items, none, []⟩) (reply : Reply) :
    ((system.step none reply).clients none).program = .done (.ok (.inr (.ok
      ⟨tenantID, items, digest (projectionText (rowsIn tenantID system)), observedAt⟩))) ∨
    ∃ error, ((system.step none reply).clients none).program =
      .done (.ok (.inr (.error (.checksumQuery error)))) := by
  refine (query_step asks reply).imp ?_ And.right
  rintro ⟨choice, -, -, stepped⟩
  simp only [stepped, Function.update_self, rowsIn]

theorem hashing_served {items : List InventoryItem}
    (asks : system.clients none = ⟨hashing tenantID observedAt items, none, []⟩)
    (fit : [Strings.toLower tenantID].all storable = true) (choice : Nat) :
    ((system.step none (.served choice)).clients none).program = .done (.ok (.inr (.ok
      ⟨tenantID, items, digest (projectionText (rowsIn tenantID system)), observedAt⟩))) := by
  rcases query_step asks (.served choice) with ⟨_, -, -, stepped⟩ | ⟨lost, -⟩
  · simp only [stepped, Function.update_self, rowsIn]
  · cases lost fit

/-- Both reads are served, and other requests run between them. -/
theorem reads_served
    (asks : system.clients none = ⟨snapshotRequest orders tenantID observedAt, none, []⟩)
    (fit : [Strings.toLower tenantID].all storable = true)
    (between : List (Option Worker × Reply)) (others : ∀ turn ∈ between, turn.1 ≠ none) :
    ((system.run ((none, .served 0) :: between ++ [(none, .served 0)])).clients none).program =
      .done (.ok (.inr (.ok ⟨tenantID,
        listTenantProjection orders system.committed.platform.projection tenantID,
        digest (projectionText (rowsIn tenantID ((system.step none (.served 0)).run between))),
        observedAt⟩))) := by
  have listed := listing_served asks fit 0
  have waits : ((system.step none (.served 0)).run between).clients none =
      ⟨hashing tenantID observedAt
        (listTenantProjection orders system.committed.platform.projection tenantID), none, []⟩ := by
    rw [Program.System.run_others others]
    simp only [listed, Function.update_self]
  rw [Program.System.run_append]
  exact hashing_served waits fit 0

/-- What a client has returned stays. -/
theorem returned_stays {index : Option Worker} {result : Except ProcessError Response}
    (returned : (system.clients index).program = .done result)
    (schedule : List (Option Worker × Reply)) :
    ((system.run schedule).clients index).program = .done result := by
  refine Program.System.run_client (fun client => client.program = .done result) ?_ system returned
    schedule
  intro client db reply ended
  obtain ⟨program, pending, held⟩ := client
  cases ended
  rfl

/-- The snapshot that the request returns: the items of its first read, under the checksum of
its second. -/
theorem returned_eq (erp : Erp) (calls : Worker → Call)
    {early between late : List (Option Worker × Reply)} {first second : Reply}
    (elsewhere : ∀ turn ∈ early ++ between, turn.1 ≠ none) {snapshot : InventorySnapshot}
    (returned : (((serving erp calls orders tenantID observedAt).run
      (early ++ (none, first) :: between ++ (none, second) :: late)).clients none).program =
        .done (.ok (.inr (.ok snapshot)))) :
    snapshot = ⟨tenantID, listTenantProjection orders
      ((serving erp calls orders tenantID observedAt).run early).committed.platform.projection
        tenantID,
      digest (projectionText (rowsIn tenantID ((serving erp calls orders tenantID observedAt).run
        (early ++ (none, first) :: between)))), observedAt⟩ := by
  have waits : ((serving erp calls orders tenantID observedAt).run early).clients none =
      ⟨snapshotRequest orders tenantID observedAt, none, []⟩ :=
    Program.System.run_others fun turn member =>
      elsewhere turn (List.mem_append_left between member)
  have others : ∀ turn ∈ between, turn.1 ≠ none := fun turn member =>
    elsewhere turn (List.mem_append_right early member)
  simp only [Program.System.run_append] at returned ⊢
  generalize (serving erp calls orders tenantID observedAt).run early = listing at waits returned ⊢
  have listed : listing.run ((none, first) :: between) =
      (listing.step none first).run between := rfl
  rw [listed] at returned ⊢
  have ended : ∀ {system : Program.System (Option Worker) Database Lock AppliedUpdate ProcessError
      Response} {result : Except SnapshotError InventorySnapshot}
      {schedule : List (Option Worker × Reply)},
      (system.clients none).program = .done (.ok (.inr result)) →
      ((system.run schedule).clients none).program = .done (.ok (.inr (.ok snapshot))) →
      result = .ok snapshot := by
    intro system result schedule done later
    rw [returned_stays done schedule] at later
    cases later
    rfl
  rcases listing_step waits first with asks | ⟨error, failed⟩
  · have stays : ((listing.step none first).run between).clients none = _ :=
      (Program.System.run_others others).trans asks
    generalize (listing.step none first).run between = middle at returned stays ⊢
    have hashed : middle.run ((none, second) :: late) = (middle.step none second).run late := rfl
    rw [hashed] at returned
    rcases hashing_step stays second with done | ⟨error, failed⟩
    · exact (Except.ok.inj (ended done returned)).symm
    · cases ended failed returned
  · cases ended (returned_stays failed between) returned

end Reads

/-- For every schedule of a request for a snapshot beside calls, by the turns of the two reads:
the checksum of the returned snapshot is that of its items when the second read finds the
rows of the first, and only then where the digest does not collide on the two texts. -/
theorem snapshot_describes_iff_same_rows {Worker : Type} [DecidableEq Worker] [Fintype Worker]
    (erp : Erp) (calls : Worker → Call) (orders : TextOrders) (tenantID observedAt : Bytes)
    (early between late : List (Option Worker × Reply)) (first second : Reply)
    (elsewhere : ∀ turn ∈ early ++ between, turn.1 ≠ none) (snapshot : InventorySnapshot)
    (returned : (((serving erp calls orders tenantID observedAt).run
      (early ++ (none, first) :: between ++ (none, second) :: late)).clients none).program =
        .done (.ok (.inr (.ok snapshot)))) :
    let listed := rowsIn tenantID ((serving erp calls orders tenantID observedAt).run early)
    let hashed := rowsIn tenantID ((serving erp calls orders tenantID observedAt).run
      (early ++ (none, first) :: between))
    ((∀ row, row ∈ listed ↔ row ∈ hashed) → Describes snapshot) ∧
    ((digest (projectionText hashed) = digest (projectionText listed) →
        projectionText hashed = projectionText listed) →
      Describes snapshot → ∀ row, row ∈ listed ↔ row ∈ hashed) := by
  have registered : ∀ schedule, ProjectionRows (rowsIn tenantID
      ((serving erp calls orders tenantID observedAt).run schedule)) := by
    intro schedule
    have start : Registered (serving erp calls orders tenantID observedAt).committed :=
      fun _ member => absurd member List.not_mem_nil
    exact Registered.projectionRows (Program.System.run_keeping
      (serving_keeping erp calls orders tenantID observedAt) start schedule) _
  have texts := (registered early).text_eq_iff (registered (early ++ (none, first) :: between))
  have described : Describes snapshot ↔
      digest (projectionText (rowsIn tenantID ((serving erp calls orders tenantID observedAt).run
        (early ++ (none, first) :: between)))) =
      digest (projectionText (rowsIn tenantID
        ((serving erp calls orders tenantID observedAt).run early))) := by
    rw [returned_eq erp calls elsewhere returned, Describes,
      (registered early).text_perm (itemRows_listed orders tenantID _)]
  refine ⟨fun same => described.mpr ?_, fun collisionFree describes => texts.mp ?_⟩
  · rw [texts.mpr same]
  · exact (collisionFree (described.mp describes)).symm

/-! ### A call before the two reads, and one between them -/

section Between

variable {call : Call} {tenantID observedAt : Bytes}
  {system : Program.System (Option Unit) Database Lock AppliedUpdate ProcessError Response}

theorem replicate_elsewhere (turns : Nat) :
    ∀ turn ∈ List.replicate turns (some (), Reply.served 0), turn.1 ≠ none := by
  intro turn member
  rw [List.eq_of_mem_replicate member]
  exact Option.some_ne_none ()

/-- While the request waits, a call runs to its end. -/
theorem call_finishes (served : call.replies = []) (fresh : system.notes = [])
    (asks : system.clients (some ()) = ⟨recordRequest call, none, []⟩)
    (idle : (system.clients none).held = []) :
    ∃ turns : Nat, (system.run (List.replicate turns (some (), .served 0))).committed =
      call.after system.committed := by
  have finishes : system.CanFinish (some ())
      ((recordRequest call).run [] (system.session (some ()))) := by
    refine Program.System.canFinish _ system (by rw [asks]) (fun _ => by rw [asks]) ?_
    intro other different
    cases other with
    | none => exact idle
    | some worker => exact absurd rfl different
  obtain ⟨turns, last, ran, -⟩ := finishes
  refine ⟨turns, ?_⟩
  rw [ran, Program.System.session, asks, fresh, recordRequest, Program.run_bind, Call.after,
    Call.session, served]
  rcases (processRecord call.fuel call.key call.value call.pos).run [] ⟨system.committed, none, []⟩
    with ⟨failure | outcome, replies, session⟩
  · rfl
  · rfl

/-- A call that commits between the two reads puts its rows under the checksum of the items that
were there before. -/
theorem snapshot_between (served : call.replies = [])
    (fit : [Strings.toLower tenantID].all storable = true) (erp : Erp) (orders : TextOrders) :
    ∃ schedule : List (Option Unit × Reply),
      (((serving erp (fun _ => call) orders tenantID observedAt).run schedule).clients
        none).program = .done (.ok (.inr (.ok ⟨tenantID,
          listTenantProjection orders Platform.empty.projection tenantID,
          digest (projectionText ((call.after ⟨erp, .empty⟩).platform.tenantProjection
            (Strings.toLower tenantID))), observedAt⟩))) := by
  have finishes : ∃ turns : Nat, (((serving erp (fun _ : Unit => call) orders tenantID
      observedAt).step none (.served 0)).run
        (List.replicate turns (some (), .served 0))).committed = call.after ⟨erp, .empty⟩ := by
    rw [listing_served rfl fit 0]
    exact call_finishes served rfl rfl rfl
  obtain ⟨turns, committed⟩ := finishes
  have asks : (serving erp (fun _ : Unit => call) orders tenantID observedAt).clients none =
      ⟨snapshotRequest orders tenantID observedAt, none, []⟩ := rfl
  have hashed := reads_served asks fit _ (replicate_elsewhere turns)
  rw [rowsIn, committed] at hashed
  exact ⟨_, hashed⟩

end Between

theorem sampleDecrement_rows :
    ((ownCall (sampleDecrement sampleTenant sampleEvent 1 10)).after
      ⟨.empty, .empty⟩).platform.projection.rows = [⟨sampleTenant, ascii "flour", 9, 1⟩] := by
  have empty : (⟨.empty, .empty⟩ : Database) = .empty := rfl
  rw [empty, sampleDecrement_first.2]
  rfl

/-- The call commits before the two reads: the snapshot lists its row, under the checksum of that
row. -/
theorem snapshot_describes_iff_same_rows_listed :
    ∃ (turns : Nat) (snapshot : InventorySnapshot),
      (((serving .empty (fun _ : Unit => ownCall (sampleDecrement sampleTenant sampleEvent 1 10))
        plainOrders sampleTenant []).run (List.replicate turns (some (), .served 0) ++
          (none, .served 0) :: [] ++ (none, .served 0) :: [])).clients none).program =
            .done (.ok (.inr (.ok snapshot))) ∧
      snapshot.items = [⟨ascii "flour", 9, 1⟩] ∧ Describes snapshot := by
  have fit : [Strings.toLower sampleTenant].all storable = true := by decide +kernel
  obtain ⟨turns, committed⟩ : ∃ turns : Nat, ((serving .empty (fun _ : Unit =>
      ownCall (sampleDecrement sampleTenant sampleEvent 1 10)) plainOrders sampleTenant []).run
        (List.replicate turns (some (), .served 0))).committed =
          (ownCall (sampleDecrement sampleTenant sampleEvent 1 10)).after ⟨.empty, .empty⟩ :=
    call_finishes rfl rfl rfl rfl
  have waits : ((serving .empty (fun _ : Unit =>
      ownCall (sampleDecrement sampleTenant sampleEvent 1 10)) plainOrders sampleTenant []).run
        (List.replicate turns (some (), .served 0))).clients none =
          ⟨snapshotRequest plainOrders sampleTenant [], none, []⟩ :=
    Program.System.run_others (replicate_elsewhere turns)
  have returned := reads_served waits fit [] (by simp)
  rw [← Program.System.run_append, ← List.append_assoc] at returned
  refine ⟨turns, _, returned, ?_, (snapshot_describes_iff_same_rows .empty _ plainOrders
    sampleTenant [] _ [] [] (.served 0) (.served 0) ?_ _ returned).1 fun row => ?_⟩
  · show listTenantProjection plainOrders _ sampleTenant = _
    rw [committed, listTenantProjection, sampleDecrement_rows]
    decide +kernel
  · rw [List.append_nil]
    exact replicate_elsewhere turns
  · rw [rowsIn, rowsIn, Program.System.run_append]
    rw [show Program.System.run _ [(none, Reply.served 0)] = Program.System.step _ none (.served 0)
      from rfl, listing_served waits fit 0]

/-- The call commits between the two reads: the snapshot has no items, under the checksum of a
table with one row. -/
theorem snapshot_of_two_states :
    ¬ ∀ (erp : Erp) (calls : Unit → Call) (orders : TextOrders) (tenantID observedAt : Bytes)
      (schedule : List (Option Unit × Reply)) (snapshot : InventorySnapshot),
      (((serving erp calls orders tenantID observedAt).run schedule).clients none).program =
        .done (.ok (.inr (.ok snapshot))) → Describes snapshot := by
  intro describes
  have served : (ownCall (sampleDecrement sampleTenant sampleEvent 1 10)).replies = [] := rfl
  have fit : [Strings.toLower sampleTenant].all storable = true := by decide +kernel
  obtain ⟨schedule, returned⟩ := snapshot_between served fit .empty plainOrders
  have described := describes _ _ _ _ [] schedule _ returned
  have differs : digest (projectionText ([⟨sampleTenant, ascii "flour", 9, 1⟩].filter
      fun row : ProjectionRow => row.tenantID = Strings.toLower sampleTenant)) ≠
        digest (projectionText []) := by decide +kernel
  rw [Describes, Platform.tenantProjection, sampleDecrement_rows] at described
  exact differs described

end Live

end SeshatOps
