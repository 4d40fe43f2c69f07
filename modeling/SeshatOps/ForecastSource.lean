/-
This file models `LoadTenantForecastSourceAtCutoff`, which reads the inventory history of a
tenant up to a cutoff from the retained events.

Three queries in one transaction read the projection, the outbox rows up to the cutoff
with their inbox rows, and the inbox rows. Each event is checked against its two rows, the
accepted ones are replayed item by item, and the end of the replay is compared with the
projection. Whatever does not fit is a reason for the source to be stale or incomplete.
Cutoffs and the times of events are nanoseconds; a column of the server keeps
microseconds. The order in which Go ranges over a map is open.
-/

import SeshatOps.Calendar
import SeshatOps.Rebuild

namespace SeshatOps

open Relational Event

/-! ### Times -/

/-- The instant of a clock, in nanoseconds since 1 January 1970. -/
def Time.Clock.instant (clock : Time.Clock) : Int :=
  (((clock.epochDays * 24 + clock.hour) * 60 + clock.minute) * 60 + clock.second) * 1000000000 +
    clock.nanosecond

/-- `time.Parse(time.RFC3339Nano, value)` for a value that ends in `Z`. -/
def Time.parseClock (value : Bytes) : Option Time.Clock :=
  if Utf8.validString value then (Time.readClock false value).filter Time.Clock.inRange else none

/-- The day of a clock, as a text. -/
def Time.Clock.dateText (clock : Time.Clock) : Bytes :=
  Calendar.Date.padded 4 clock.year ++ [0x2D] ++ Calendar.Date.padded 2 clock.month ++ [0x2D] ++
    Calendar.Date.padded 2 clock.day

namespace Forecast

/-- The zero `time.Time`, 1 January of the year 1. -/
def zeroTime : Int := -62135596800000000000

/-- A `time.Time` as the server receives it. -/
def microseconds (instant : Int) : Int := instant / 1000

/-! ### The source -/

structure Observation where
  tenantID : Bytes
  itemID : Bytes
  asOfDate : Bytes
  quantityOnHand : Int
  deriving DecidableEq

structure SourceBoundary where
  historyChecksum : Bytes := []
  projectionChecksum : Bytes := []
  maxRecordedAt : Bytes := []
  sourceCutoffDate : Bytes := []
  appliedEventCount : Int := 0
  deriving DecidableEq

inductive SnapshotStatus
  | complete
  | stale
  | incomplete
  | insufficient
  deriving DecidableEq, Repr

structure ForecastSource where
  history : List Observation
  boundary : SourceBoundary
  status : SnapshotStatus
  statusReasons : List Bytes
  deriving DecidableEq

inductive ForecastError
  /-- `platform: forecast source: tenant_id required` -/
  | tenantRequired
  /-- `platform: forecast source: cutoff required` -/
  | cutoffRequired
  /-- `platform: forecast source begin: <cause>` -/
  | begin (cause : SqlError)
  /-- `platform: forecast projection query: <cause>` -/
  | projectionQuery (cause : SqlError)
  /-- `platform: forecast event query: <cause>` -/
  | eventQuery (cause : SqlError)
  /-- `platform: forecast inbox query: <cause>` -/
  | inboxQuery (cause : SqlError)
  /-- `platform: forecast source commit: <cause>` -/
  | commit (cause : SqlError)
  deriving DecidableEq

/-- An event that the source accepts. -/
structure SourceEvent where
  env : Envelope
  contentHash : Bytes
  recordedAt : Time.Clock
  deriving DecidableEq

/-! ### Ranging over maps -/

/-- The order in which a map is ranged over: an arrangement of its keys. -/
structure Ranging (Key : Type) where
  arrange : Finset Key → List Key
  nodup : ∀ keys, (arrange keys).Nodup
  mem : ∀ keys key, key ∈ arrange keys ↔ key ∈ keys

section Visiting

variable {Key : Type} [DecidableEq Key]

/-- The keys of a map, in the order in which they are visited. -/
def Ranging.visit (ranging : Ranging Key) (keys : List Key) : List Key :=
  ranging.arrange keys.toFinset

theorem Ranging.mem_visit (ranging : Ranging Key) (keys : List Key) (wanted : Key) :
    wanted ∈ ranging.visit keys ↔ wanted ∈ keys := by
  rw [Ranging.visit, ranging.mem, List.mem_toFinset]

theorem Ranging.nodup_visit (ranging : Ranging Key) (keys : List Key) :
    (ranging.visit keys).Nodup := ranging.nodup _

end Visiting

/-- The orders of the two loops of `compareForecastProjection`. -/
structure CompareOrder where
  projection : Ranging Bytes
  replayed : Ranging Bytes

/-! ### The events -/

/-- The text of a disposition. -/
def dispositionText : Disposition → Bytes
  | .applied => ascii "applied"
  | .duplicateNoop => ascii "duplicate_noop"
  | .quarantinedConflict => ascii "quarantined_conflict"
  | .quarantinedGap => ascii "quarantined_gap"
  | .quarantinedStale => ascii "quarantined_stale"
  | .quarantinedInvalid => ascii "quarantined_invalid"
  | .quarantinedMismatch => ascii "quarantined_mismatch"
  | .quarantinedTransition => ascii "quarantined_transition"

/-- What the loop over the rows makes of one of them. -/
inductive Verdict
  | skipped
  | refused (reason : Bytes)
  | accepted (event : SourceEvent)
  deriving DecidableEq

/-- An event with its outbox row, against its inbox row. -/
def judgeInbox (tenantID : Bytes) (row : OutboxRow) (event : SourceEvent) :
    Option InboxRow → Verdict
  | none =>
      if row.status = .quarantined then
        .refused (ascii "incomplete:inventory event has no platform disposition " ++ row.eventID)
      else .refused (ascii "stale:inventory event not applied " ++ row.eventID)
  | some inbox =>
      if Strings.toLower inbox.tenantID ≠ tenantID ∨ inbox.aggregateType ≠ row.aggregateType ∨
          inbox.aggregateID ≠ row.aggregateID ∨ inbox.aggregateVersion ≠ row.aggregateVersion then
        .refused (ascii "incomplete:inbox event identity mismatch " ++ row.eventID)
      else if Strings.toLower inbox.contentHash ≠ Strings.toLower row.contentHash then
        .refused (ascii "incomplete:inbox content hash mismatch " ++ row.eventID)
      else if inbox.disposition.settled then .accepted event
      else
        .refused (ascii "incomplete:inventory event disposition " ++
          dispositionText inbox.disposition ++ ascii " " ++ row.eventID)

/-- An event against its outbox row. -/
def judgeEvent (tenantID : Bytes) (row : OutboxRow) (inbox : Option InboxRow) (env : Envelope) :
    Verdict :=
  if env.eventType ≠ eventTypeQuantityDecremented then .skipped
  else if env.eventID ≠ row.eventID ∨ env.tenantID ≠ tenantID ∨
      Strings.toLower row.tenantID ≠ tenantID ∨ env.aggregateType ≠ row.aggregateType ∨
      env.aggregateID ≠ row.aggregateID ∨ env.aggregateVersion ≠ row.aggregateVersion then
    .refused (ascii "incomplete:event identity or tenant mismatch " ++ row.eventID)
  else
    match contentHash env with
    | .error _ => .refused (ascii "incomplete:event hash unavailable " ++ row.eventID)
    | .ok hash =>
        if Strings.toLower hash ≠ Strings.toLower row.contentHash then
          .refused (ascii "incomplete:outbox content hash mismatch " ++ row.eventID)
        else
          match Time.parseClock env.recordedAt with
          | none => .refused (ascii "incomplete:recorded_at mismatch " ++ row.eventID)
          | some clock =>
              if clock.instant ≠ row.recordedAt * 1000 then
                .refused (ascii "incomplete:recorded_at mismatch " ++ row.eventID)
              else judgeInbox tenantID row ⟨env, hash, clock⟩ inbox

def judge (tenantID : Bytes) (row : OutboxRow) (inbox : Option InboxRow) : Verdict :=
  match parse row.eventBytes with
  | .error _ => .refused (ascii "incomplete:malformed retained event " ++ row.eventID)
  | .ok env => judgeEvent tenantID row inbox env

/-- `FROM erp.outbox o LEFT JOIN platform.inbox i .. ORDER BY ..`, with the filters. -/
def eventRows (collation : Collation) (tenantID : Bytes) (cutoff : Int) (db : Database) :
    List (OutboxRow × Option InboxRow) :=
  ((db.erp.outbox.rows.filter fun row => row.tenantID = tenantID ∧
      row.recordedAt ≤ microseconds cutoff ∧ row.aggregateType = aggregateTypeInventoryItem
    ).insertionSort fun first second => collation.precedes first second = true).map fun row =>
      (row, (db.platform.inbox.find? row.eventID).filter fun inbox => inbox.tenantID = tenantID)

/-- The loop of `loadForecastEvents`, with the identifiers seen so far. -/
def loadEvents (tenantID : Bytes) :
    List Bytes → List (OutboxRow × Option InboxRow) → List SourceEvent × List Bytes
  | _, [] => ([], [])
  | seen, (row, inbox) :: rest =>
      match judge tenantID row inbox with
      | .skipped => loadEvents tenantID seen rest
      | .refused reason =>
          let (events, reasons) := loadEvents tenantID seen rest
          (events, reason :: reasons)
      | .accepted event =>
          if event.env.eventID ∈ seen then
            let (events, reasons) := loadEvents tenantID seen rest
            (events, (ascii "incomplete:duplicate retained event " ++ row.eventID) :: reasons)
          else
            let (events, reasons) := loadEvents tenantID (event.env.eventID :: seen) rest
            (event :: events, reasons)

/-! ### The inbox -/

/-- `FROM platform.inbox i LEFT JOIN erp.outbox o ..`, with the filters. -/
def inboxRows (tenantID : Bytes) (cutoff : Int) (db : Database) : List InboxRow :=
  db.platform.inbox.rows.filter fun inbox => inbox.tenantID = tenantID ∧
    inbox.aggregateType = aggregateTypeInventoryItem ∧
    ((db.erp.outbox.find? inbox.eventID).filter fun row => row.tenantID = tenantID).all
      fun row => row.recordedAt ≤ microseconds cutoff

/-- The reasons that `detectForecastInboxHistoryGaps` finds in a row. -/
def inboxReasons (known : List Bytes) (inbox : InboxRow) : List Bytes :=
  (if inbox.eventID ∈ known then [] else
    [ascii "incomplete:inventory inbox event missing retained outbox " ++ inbox.eventID]) ++
  if inbox.disposition = .quarantinedGap ∨ inbox.disposition = .quarantinedStale then
    [ascii "incomplete:inventory inbox disposition " ++ dispositionText inbox.disposition ++
      ascii " " ++ inbox.eventID]
  else []

/-! ### The replay -/

/-- The last event of an item that fits. -/
structure ReplayState where
  observation : Observation
  version : Int
  deriving DecidableEq

/-- The variables of the loop over the events of an item. -/
structure ReplayLoop where
  current : Int := 0
  expected : Int := 1
  byDate : Table Observation.asOfDate := .empty
  lastValid : Option ReplayState := none
  reasons : List Bytes := []

/-- One event of an item. -/
def replayEvent (item : Bytes) (loop : ReplayLoop) (record : SourceEvent) : ReplayLoop :=
  let refuse (reason : Bytes) : ReplayLoop := { loop with reasons := loop.reasons ++ [reason] }
  match asQuantityDecremented record.env with
  | none => refuse (ascii "incomplete:inventory payload mismatch " ++ record.env.eventID)
  | some payload =>
      if record.env.aggregateVersion ≠ loop.expected then
        refuse (ascii "incomplete:aggregate version gap " ++ item ++ ascii " expected " ++
          Json.formatInt loop.expected ++ ascii " received " ++
          Json.formatInt record.env.aggregateVersion)
      else if record.env.aggregateVersion ≠ 1 ∧ payload.quantityBefore ≠ loop.current then
        refuse (ascii "incomplete:quantity transition mismatch " ++ record.env.eventID)
      else if payload.quantityBefore - payload.quantityDecremented ≠ payload.quantityAfter ∨
          payload.quantityAfter < 0 then
        -- The first version has already set the current quantity.
        { refuse (ascii "incomplete:quantity arithmetic mismatch " ++ record.env.eventID) with
          current := if record.env.aggregateVersion = 1 then payload.quantityBefore
            else loop.current }
      else
        let observation : Observation :=
          ⟨record.env.tenantID, item, record.recordedAt.dateText, payload.quantityAfter⟩
        { current := payload.quantityAfter
          expected := loop.expected + 1
          byDate := loop.byDate.store observation
          lastValid := some ⟨observation, record.env.aggregateVersion⟩
          reasons := loop.reasons }

/-- `aggregate_version`, then `event_id`. -/
def seriesLe (first second : SourceEvent) : Bool :=
  if first.env.aggregateVersion ≠ second.env.aggregateVersion then
    first.env.aggregateVersion ≤ second.env.aggregateVersion
  else !Strings.less second.env.eventID first.env.eventID

/-- The events of an item in their order. -/
def seriesOf (events : List SourceEvent) (item : Bytes) : List SourceEvent :=
  (events.filter fun record => record.env.aggregateID = item).insertionSort
    fun first second => seriesLe first second = true

def replaySeries (events : List SourceEvent) (item : Bytes) : ReplayLoop :=
  (seriesOf events item).foldl (replayEvent item) {}

/-- The items of the events, sorted. -/
def itemsOf (events : List SourceEvent) : List Bytes :=
  sortRows (fun item => [item]) (events.map fun record => record.env.aggregateID).dedup

/-- The state that the replay leaves for an item. -/
def replayState (events : List SourceEvent) (item : Bytes) : Option ReplayState :=
  if item ∈ itemsOf events then (replaySeries events item).lastValid else none

def replayHistory (events : List SourceEvent) : List Observation :=
  sortRows (fun observation => [observation.tenantID, observation.itemID, observation.asOfDate])
    ((itemsOf events).flatMap fun item => (replaySeries events item).byDate.rows)

def replayReasons (events : List SourceEvent) : List Bytes :=
  (itemsOf events).flatMap fun item => (replaySeries events item).reasons

/-! ### The comparison with the projection -/

/-- The map of `loadForecastProjection`: a later row of an item replaces an earlier one. -/
def projectionMap (rows : List ProjectionRow) : Table ProjectionRow.itemID :=
  rows.foldl (fun found row => found.store row) .empty

/-- The reasons of one projected item. -/
def projectionReasons (replay : Option ReplayState) (row : ProjectionRow) : List Bytes :=
  match replay with
  | none => [ascii "incomplete:projection item missing retained history " ++ row.itemID]
  | some replay =>
      (if replay.observation.quantityOnHand ≠ row.quantityOnHand then
        [ascii "incomplete:projection quantity differs from replay " ++ row.itemID] else []) ++
      if replay.version ≠ row.aggregateVersion then
        [ascii "incomplete:projection version differs from replay " ++ row.itemID] else []

/-- `compareForecastProjection`, over both maps in the given orders. -/
def compareProjection (order : CompareOrder) (projection : Table ProjectionRow.itemID)
    (events : List SourceEvent) : List Bytes :=
  ((order.projection.visit (projection.rows.map ProjectionRow.itemID)).flatMap fun item =>
    ((projection.find? item).map (projectionReasons (replayState events item))).getD []) ++
  (order.replayed.visit ((itemsOf events).filter fun item =>
    (replayState events item).isSome)).flatMap fun item =>
      if (projection.find? item).isSome then [] else
        [ascii "incomplete:replayed item missing projection " ++ item]

/-! ### The boundary -/

/-- The order of `checksumForecastEvents`. -/
def checksumLe (first second : SourceEvent) : Bool :=
  if first.env.aggregateID ≠ second.env.aggregateID then
    Strings.less first.env.aggregateID second.env.aggregateID
  else seriesLe first second

def checksumEvents (tenantID : Bytes) (events : List SourceEvent) : Bytes :=
  digest ((events.insertionSort fun first second => checksumLe first second = true).flatMap
    fun record => checksumLine [tenantID, record.env.aggregateID,
      Json.formatInt record.env.aggregateVersion, record.env.eventID, record.contentHash,
      record.env.recordedAt])

/-- The latest event, the first of several. -/
def latest : Option SourceEvent → List SourceEvent → Option SourceEvent
  | found, [] => found
  | none, record :: rest => latest (some record) rest
  | some found, record :: rest =>
      if found.recordedAt.instant < record.recordedAt.instant then latest (some record) rest
      else latest (some found) rest

def boundaryOf (tenantID : Bytes) (projection : List ProjectionRow) (events : List SourceEvent) :
    SourceBoundary where
  historyChecksum := checksumEvents tenantID events
  projectionChecksum := digest (projectionText projection)
  maxRecordedAt := ((latest none events).map fun record => record.env.recordedAt).getD []
  sourceCutoffDate := (((latest none events).filter fun record =>
    record.recordedAt.instant ≠ zeroTime).map fun record => record.recordedAt.dateText).getD []
  appliedEventCount := events.length

/-! ### The loader -/

/-- `uniqueSortedReasons`. -/
def uniqueSortedReasons (reasons : List Bytes) : List Bytes :=
  sortRows (fun reason => [reason]) (reasons.filter fun reason => !Strings.isBlank reason).dedup

def hasOnlyStaleReasons (reasons : List Bytes) : Bool :=
  !reasons.isEmpty && reasons.all fun reason => (ascii "stale:").isPrefixOf reason

def statusOf (reasons : List Bytes) : SnapshotStatus :=
  if reasons.isEmpty then .complete
  else if hasOnlyStaleReasons reasons then .stale
  else .incomplete

/-- `FROM platform.inventory_projection WHERE tenant_id = $1 ORDER BY item_id`. -/
def projectionRows (collation : Collation) (tenantID : Bytes) (db : Database) :
    List ProjectionRow :=
  ((db.platform.tenantProjection tenantID).insertionSort fun first second =>
    collation.le first.itemID second.itemID = true).map ProjectionRow.lowered

/-- What the loader makes of the rows of the three queries. -/
def sourceOf (order : CompareOrder) (tenantID : Bytes) (projection : List ProjectionRow)
    (rows : List (OutboxRow × Option InboxRow)) (inbox : List InboxRow) : ForecastSource :=
  let (events, loadReasons) := loadEvents tenantID [] rows
  let known := events.map fun record => record.env.eventID
  let reasons := uniqueSortedReasons
    (loadReasons ++ inbox.flatMap (inboxReasons known) ++ replayReasons events) ++
      compareProjection order (projectionMap projection) events
  { history := replayHistory events
    boundary := boundaryOf tenantID projection events
    status := statusOf reasons
    statusReasons := reasons }

/-- A function that reads for the forecasts. -/
abbrev Reading := Program Database Lock Empty ForecastError

def loadTenantForecastSourceAtCutoff (collation : Collation) (order : CompareOrder)
    (tenantID : Bytes) (cutoff : Int) : Reading ForecastSource :=
  let tenantID := Strings.toLower (Strings.trimSpace tenantID)
  if tenantID.isEmpty then .fail .tenantRequired
  else if cutoff = zeroTime then .fail .cutoffRequired
  else
    .inTransaction .begin do
      let projection ← .exec (query [tenantID] (fun _ => [])
        fun _ db => projectionRows collation tenantID db) .projectionQuery
      let rows ← .exec (query [tenantID] (fun _ => [])
        fun _ db => eventRows collation tenantID cutoff db) .eventQuery
      let inbox ← .exec (query [tenantID] (fun _ => [])
        fun _ db => inboxRows tenantID cutoff db) .inboxQuery
      .commitOr .commit
      return sourceOf order tenantID projection rows inbox

/-! ### What the loader returns -/

/-- What the call returns on a database. -/
def loadedSource (collation : Collation) (order : CompareOrder) (tenantID : Bytes) (cutoff : Int)
    (db : Database) (replies : List Reply) : Except ForecastError ForecastSource :=
  ((loadTenantForecastSourceAtCutoff collation order tenantID cutoff).run replies ⟨db, none, []⟩).1

/-- The source of a tenant in the state of a database. -/
def sourceIn (collation : Collation) (order : CompareOrder) (tenantID : Bytes) (cutoff : Int)
    (db : Database) : ForecastSource :=
  sourceOf order tenantID (projectionRows collation tenantID db)
    (eventRows collation tenantID cutoff db) (inboxRows tenantID cutoff db)

/-- The arguments that the loader takes. -/
structure Askable (tenantID : Bytes) (cutoff : Int) : Prop where
  given : Strings.toLower (Strings.trimSpace tenantID) ≠ []
  stored : storable (Strings.toLower (Strings.trimSpace tenantID)) = true
  dated : cutoff ≠ zeroTime

/-- The result when no request is lost. -/
theorem loadedSource_served (collation : Collation) (order : CompareOrder) (tenantID : Bytes)
    (cutoff : Int) (db : Database) {replies : List Reply} (served : Reply.lost ∉ replies) :
    loadedSource collation order tenantID cutoff db replies =
      if (Strings.toLower (Strings.trimSpace tenantID)).isEmpty then .error .tenantRequired
      else if cutoff = zeroTime then .error .cutoffRequired
      else if storable (Strings.toLower (Strings.trimSpace tenantID)) then
        .ok (sourceIn collation order (Strings.toLower (Strings.trimSpace tenantID)) cutoff db)
      else .error (.projectionQuery .domain) := by
  suffices ensures : Program.Ensures false
      (loadTenantForecastSourceAtCutoff collation order tenantID cutoff) ⟨db, none, []⟩
      fun result _ => result = _ from ensures replies fun _ => served
  rw [loadTenantForecastSourceAtCutoff]
  split_ifs with empty zero stored
  · exact Program.ensures_done _ rfl
  · exact Program.ensures_done _ rfl
  · refine Program.ensures_inTransaction _ _ (by simp) ?_
    refine ensures_query _ _ _ _ _ (by simp) (by simp [stored]) fun _ _ => ?_
    refine ensures_query _ _ _ _ _ (by simp) (by simp [stored]) fun _ _ => ?_
    refine ensures_query _ _ _ _ _ (by simp) (by simp [stored]) fun _ _ => ?_
    exact Program.ensures_commitOr _ _ (by simp) (Program.ensures_done _ rfl)
  · refine Program.ensures_inTransaction _ _ (by simp) ?_
    refine ensures_query _ _ _ _ _ (by simp) (fun _ => rfl) fun fit => ?_
    exact absurd (by simpa using fit) stored

end Forecast

end SeshatOps
