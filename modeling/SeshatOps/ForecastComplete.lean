/-
This file says what `LoadTenantForecastSourceAtCutoff` makes of the tables that the source
and the processor leave, and when it calls the source of a fully applied history complete.

In such a state an outbox row is accepted when its event is in effect and its time is a
whole number of microseconds, which is all that the column keeps. The accepted events of an
item, in the order of their versions, are the log of the item once all of them are
accepted; the replay then takes every event and ends where the projection is.
-/

import SeshatOps.Convergence
import SeshatOps.ForecastSource
import SeshatOps.Sorting

namespace SeshatOps

open Relational Event Source

/-! ### Times -/

theorem Time.parseClock_of_parseTimeZ {value : Bytes} {instant : Int}
    (parsed : Time.parseTimeZ value = some instant) :
    ∃ clock, Time.parseClock value = some clock ∧ clock.microseconds = instant := by
  unfold Time.parseTimeZ at parsed
  split_ifs at parsed with valid
  cases read : Time.readClock false value with
  | none => simp [read] at parsed
  | some clock =>
    simp only [read, Option.ite_none_right_eq_some, Option.some.injEq] at parsed
    exact ⟨clock, by simp [Time.parseClock, valid, read, parsed.1], parsed.2⟩

/-! ### Logs -/

section Logs

variable {known : Envelope → Prop} {key : Bytes × Bytes} {events : List Envelope}

/-- The start of a log. -/
theorem Consecutive.front {more : List Envelope}
    (consecutive : Consecutive known key (events ++ more)) :
    Consecutive known key events := by
  have kept : ∀ {index : Nat} {env : Envelope}, events[index]? = some env →
      (events ++ more)[index]? = some env := by
    intro index env found
    rw [List.getElem?_append_left (List.getElem?_eq_some_iff.mp found).1]
    exact found
  have member : ∀ env ∈ events, env ∈ events ++ more :=
    fun env member => List.mem_append_left _ member
  exact ⟨fun env old => consecutive.known env (member env old),
    fun env old => consecutive.tenantID env (member env old),
    fun env old => consecutive.aggregateType env (member env old),
    fun env old => consecutive.aggregateID env (member env old),
    fun env old => consecutive.valid env (member env old),
    fun index env found => consecutive.versions index env (kept found),
    fun index first second foundFirst foundSecond =>
      consecutive.chained index first second (kept foundFirst) (kept foundSecond)⟩

theorem Consecutive.rising (consecutive : Consecutive known key events) :
    events.Pairwise fun first second => first.aggregateVersion < second.aggregateVersion := by
  rw [List.pairwise_iff_getElem]
  intro first second firstInside secondInside before
  rw [consecutive.versions first _ (List.getElem?_eq_getElem firstInside),
    consecutive.versions second _ (List.getElem?_eq_getElem secondInside)]
  omega

theorem Consecutive.version_le (consecutive : Consecutive known key events) {env : Envelope}
    (listed : env ∈ events) : env.aggregateVersion ≤ events.length := by
  obtain ⟨index, inside, found⟩ := List.mem_iff_getElem.mp listed
  rw [consecutive.versions index env (List.getElem?_eq_some_iff.mpr ⟨inside, found⟩)]
  omega

/-- What an event leaves of its item. -/
def quantityLeft (env : Envelope) : Int :=
  (asQuantityDecremented env).elim 0 QuantityDecremented.quantityAfter

/-- The quantities of a log go down. -/
theorem Consecutive.falling (consecutive : Consecutive known key events)
    (passed : ∀ env ∈ events, validate env = .ok ()) :
    events.Pairwise fun first second => quantityLeft second < quantityLeft first := by
  have trans : Trans (fun first second : Envelope => quantityLeft second < quantityLeft first)
      (fun first second => quantityLeft second < quantityLeft first)
      fun first second => quantityLeft second < quantityLeft first :=
    ⟨fun above below => lt_trans below above⟩
  rw [← List.isChain_iff_pairwise, List.isChain_iff_getElem]
  intro index inside
  have member := List.getElem_mem inside
  obtain ⟨quantity, valid⟩ := consecutive.valid _ member
  have chained := consecutive.chained index _ _ (List.getElem?_eq_getElem (by omega))
    (List.getElem?_eq_getElem inside)
  rw [asQuantityDecremented_of_valid valid, Option.map_some, eq_comm, Option.map_eq_some_iff]
    at chained
  obtain ⟨earlier, carried, same⟩ := chained
  rw [quantityLeft, quantityLeft, asQuantityDecremented_of_valid valid, carried, Option.elim_some,
    Option.elim_some, same]
  have arithmetic := valid.fits.arithmetic quantity rfl
  have taken := validate_decremented _ (passed _ member) valid.carried
  omega

end Logs

namespace Forecast

/-! ### The loop over the rows -/

def Verdict.event : Verdict → Option SourceEvent
  | .accepted event => some event
  | _ => none

def Verdict.reason : Verdict → Option Bytes
  | .refused reason => some reason
  | _ => none

theorem judgeInbox_event {tenantID : Bytes} {row : OutboxRow} {event found : SourceEvent}
    {inbox : Option InboxRow} (accepted : judgeInbox tenantID row event inbox = .accepted found) :
    found = event := by
  unfold judgeInbox at accepted
  split at accepted <;> split_ifs at accepted
  exact (Verdict.accepted.inj accepted).symm

/-- An accepted event has the identifier of its row. -/
theorem judge_eventID {tenantID : Bytes} {row : OutboxRow} {inbox : Option InboxRow}
    {event : SourceEvent} (accepted : judge tenantID row inbox = .accepted event) :
    event.env.eventID = row.eventID := by
  unfold judge at accepted
  split at accepted
  · cases accepted
  · unfold judgeEvent at accepted
    split_ifs at accepted with other differs
    split at accepted
    · cases accepted
    · split_ifs at accepted
      split at accepted
      · cases accepted
      · split_ifs at accepted
        rw [judgeInbox_event accepted]
        by_contra different
        exact differs (Or.inl different)

/-- No row is a duplicate when the rows have different identifiers. -/
theorem loadEvents_eq (tenantID : Bytes) (rows : List (OutboxRow × Option InboxRow))
    (seen : List Bytes) (distinct : (rows.map fun row => row.1.eventID).Nodup)
    (unseen : ∀ row ∈ rows, row.1.eventID ∉ seen) :
    loadEvents tenantID seen rows =
      (rows.filterMap fun row => (judge tenantID row.1 row.2).event,
        rows.filterMap fun row => (judge tenantID row.1 row.2).reason) := by
  induction rows generalizing seen with
  | nil => rfl
  | cons first rest hypothesis =>
    obtain ⟨row, inbox⟩ := first
    rw [List.map_cons, List.nodup_cons] at distinct
    have others : ∀ row ∈ rest, row.1.eventID ∉ seen :=
      fun row member => unseen row (List.mem_cons_of_mem _ member)
    rw [loadEvents]
    cases verdict : judge tenantID row inbox with
    | skipped | refused reason =>
      simp only [hypothesis seen distinct.2 others, verdict, List.filterMap_cons,
        Verdict.event, Verdict.reason]
    | accepted event =>
      have own := judge_eventID verdict
      have fresh : event.env.eventID ∉ seen := by
        rw [own]
        exact unseen _ (List.mem_cons_self ..)
      have later : ∀ other ∈ rest, other.1.eventID ∉ event.env.eventID :: seen := by
        intro other member isSeen
        rcases List.mem_cons.mp isSeen with same | old
        · exact distinct.1 (List.mem_map.mpr ⟨other, member, same.trans own⟩)
        · exact others other member old
      simp only [if_neg fresh, hypothesis _ distinct.2 later, verdict,
        List.filterMap_cons, Verdict.event, Verdict.reason]

theorem mem_eventRows {collation : Collation} {tenantID : Bytes} {cutoff : Int} {db : Database}
    {row : OutboxRow} {inbox : Option InboxRow} :
    (row, inbox) ∈ eventRows collation tenantID cutoff db ↔
      (row ∈ db.erp.outbox.rows ∧ row.tenantID = tenantID ∧
        row.recordedAt ≤ microseconds cutoff ∧ row.aggregateType = aggregateTypeInventoryItem) ∧
      inbox = (db.platform.inbox.find? row.eventID).filter fun inbox =>
        inbox.tenantID = tenantID := by
  simp only [eventRows, List.mem_map, List.mem_insertionSort, List.mem_filter, decide_eq_true_eq,
    Prod.mk.injEq]
  constructor
  · rintro ⟨other, selected, rfl, rfl⟩
    exact ⟨selected, rfl⟩
  · rintro ⟨selected, rfl⟩
    exact ⟨row, selected, rfl, rfl⟩

theorem eventRows_distinct (collation : Collation) (tenantID : Bytes) (cutoff : Int)
    (db : Database) :
    ((eventRows collation tenantID cutoff db).map fun row => row.1.eventID).Nodup := by
  rw [eventRows, List.map_map]
  refine List.Nodup.map_on ?_ ?_
  · intro first firstMember second secondMember same
    simp only [List.mem_insertionSort, List.mem_filter] at firstMember secondMember
    exact db.erp.outbox.eq_of_key firstMember.1 secondMember.1 same
  · exact (List.perm_insertionSort _ _).nodup_iff.mpr
      ((List.Nodup.of_map _ db.erp.outbox.unique).filter _)

/-- The events that the loader accepts. -/
def acceptedIn (collation : Collation) (tenantID : Bytes) (cutoff : Int) (db : Database) :
    List SourceEvent :=
  (eventRows collation tenantID cutoff db).filterMap fun row => (judge tenantID row.1 row.2).event

/-- The reasons of the rows that it refuses. -/
def refusedIn (collation : Collation) (tenantID : Bytes) (cutoff : Int) (db : Database) :
    List Bytes :=
  (eventRows collation tenantID cutoff db).filterMap fun row => (judge tenantID row.1 row.2).reason

theorem loadEvents_in (collation : Collation) (tenantID : Bytes) (cutoff : Int) (db : Database) :
    loadEvents tenantID [] (eventRows collation tenantID cutoff db) =
      (acceptedIn collation tenantID cutoff db, refusedIn collation tenantID cutoff db) :=
  loadEvents_eq tenantID _ [] (eventRows_distinct collation tenantID cutoff db) (by simp)

/-! ### Rows of the source -/

/-- The inventory events of a tenant in the outbox. -/
def inventoryRows (erp : Erp) (tenantID : Bytes) : List OutboxRow :=
  erp.outbox.rows.filter fun row => row.tenantID = tenantID ∧
    row.aggregateType = aggregateTypeInventoryItem

/-- The time in the event of a row, with all its digits. -/
def recordedInstant (row : OutboxRow) : Option Int :=
  (parse row.eventBytes).toOption.bind fun env =>
    (Time.parseClock env.recordedAt).map Time.Clock.instant

/-- The column keeps all of the event's time. -/
def Exact (row : OutboxRow) : Prop := recordedInstant row = some (row.recordedAt * 1000)

instance (row : OutboxRow) : Decidable (Exact row) := inferInstanceAs (Decidable (_ = _))

/-- A row that is accepted, and its event. -/
structure Counts (db : Database) (row : OutboxRow) (event : SourceEvent) : Prop where
  recorded : ∃ quantity canonical,
    Records row event.env (.quantityDecremented quantity) canonical ∧
      event.contentHash = digest canonical
  clock : Time.parseClock event.env.recordedAt = some event.recordedAt
  exact : Exact row
  settled : ∃ inbox, db.platform.inbox.find? row.eventID = some inbox ∧
    inbox.disposition.settled = true

section Rows

variable {db : Database} {log : Log} {tenantID : Bytes} {cutoff : Int} {collation : Collation}
  {row : OutboxRow} {env : Envelope} {quantity : QuantityDecremented} {canonical : Bytes}
  {clock : Time.Clock}

theorem recordedInstant_of_records {payload : Payload}
    (records : Records row env payload canonical)
    (read : Time.parseClock env.recordedAt = some clock) :
    recordedInstant row = some clock.instant := by
  rw [recordedInstant, records.carries.parsed]
  simp [Except.toOption, read]

/-- An inventory row of the source carries a decrement. -/
theorem recorded_inventory (sourced : Sourced db.erp) (member : row ∈ db.erp.outbox.rows)
    (type : row.aggregateType = aggregateTypeInventoryItem) :
    ∃ env quantity canonical clock, Records row env (.quantityDecremented quantity) canonical ∧
      Time.parseClock env.recordedAt = some clock ∧ clock.microseconds = row.recordedAt := by
  obtain ⟨env, payload, canonical, records, -⟩ := sourced.recorded row member
  obtain ⟨quantity, rfl⟩ := quantity_of_inventory records.valid
    (records.columns.2.1.symm.trans type)
  obtain ⟨clock, read, kept⟩ := Time.parseClock_of_parseTimeZ records.recordedAt
  exact ⟨env, quantity, canonical, clock, records, read, kept⟩

/-- The checks against the outbox row pass but for the one on the time. -/
theorem judge_records (records : Records row env (.quantityDecremented quantity) canonical)
    (read : Time.parseClock env.recordedAt = some clock) (inbox : Option InboxRow) :
    judge row.tenantID row inbox =
      if Exact row then judgeInbox row.tenantID row ⟨env, digest canonical, clock⟩ inbox
      else .refused (ascii "incomplete:recorded_at mismatch " ++ row.eventID) := by
  obtain ⟨tenant, type, aggregate, version⟩ := records.columns
  have lower : Strings.toLower row.tenantID = row.tenantID := by
    rw [tenant]
    exact (validate_tenantID env records.validated).symm
  have exact_iff : Exact row ↔ clock.instant = row.recordedAt * 1000 := by
    rw [Exact, recordedInstant_of_records records read, Option.some.injEq]
  rw [judge, records.carries.parsed]
  simp only [judgeEvent, records.valid.fits.eventType, Payload.eventType, records.eventID, lower,
    ← tenant, ← type, ← aggregate, ← version, ne_eq, not_true_eq_false, or_self, if_false,
    contentHash_of_canonical records.written, records.contentHash, read, exact_iff]
  split_ifs <;> rfl

/-- The inbox row of a published event passes its checks, and what is left is whether the event
is settled. -/
theorem judgeInbox_records (followed : Followed db log) (member : row ∈ db.erp.outbox.rows)
    (records : Records row env (.quantityDecremented quantity) canonical) {inbox : InboxRow}
    (found : db.platform.inbox.find? row.eventID = some inbox) (event : SourceEvent) :
    inbox.tenantID = row.tenantID ∧
    judgeInbox row.tenantID row event (some inbox) =
      if inbox.disposition.settled then .accepted event
      else .refused (ascii "incomplete:inventory event disposition " ++
        dispositionText inbox.disposition ++ ascii " " ++ row.eventID) := by
  have known : Published db.erp env := ⟨row, member, _, canonical, records⟩
  rw [records.eventID] at found
  have backs := followed.existing followed.sourced.coherent known records.valid
    records.written found
  obtain ⟨tenant, type, aggregate, version⟩ := records.columns
  have lower : Strings.toLower row.tenantID = row.tenantID := by
    rw [tenant]
    exact (validate_tenantID env records.validated).symm
  refine ⟨backs.of.tenantID.trans tenant.symm, ?_⟩
  simp only [judgeInbox, backs.of.tenantID, backs.of.aggregateType, backs.of.aggregateID,
    backs.of.aggregateVersion, ← tenant, ← type, ← aggregate, ← version, lower, backs.hash,
    records.contentHash, ne_eq, not_true_eq_false, or_self, if_false]

/-- A row of the source is accepted when its time is exact and its event settled. -/
theorem judge_event (followed : Followed db log) (member : row ∈ db.erp.outbox.rows)
    (type : row.aggregateType = aggregateTypeInventoryItem) (event : SourceEvent) :
    (judge row.tenantID row ((db.platform.inbox.find? row.eventID).filter fun inbox =>
      inbox.tenantID = row.tenantID)).event = some event ↔ Counts db row event := by
  obtain ⟨env, quantity, canonical, clock, records, read, -⟩ :=
    recorded_inventory followed.sourced member type
  rw [judge_records records read]
  constructor
  · intro accepted
    split_ifs at accepted with whole
    swap
    · cases accepted
    cases found : db.platform.inbox.find? row.eventID with
    | none =>
      simp only [found, Option.filter_none, judgeInbox] at accepted
      split_ifs at accepted <;> cases accepted
    | some inbox =>
      obtain ⟨same, judged⟩ := judgeInbox_records followed member records found
        ⟨env, digest canonical, clock⟩
      rw [found, Option.filter_some_pos (by simpa using same), judged] at accepted
      split_ifs at accepted with settled
      · obtain rfl := Option.some.inj accepted
        exact ⟨⟨quantity, canonical, records, rfl⟩, read, whole, inbox, found, settled⟩
      · cases accepted
  · rintro ⟨⟨otherQuantity, otherCanonical, otherRecords, hash⟩, otherRead, whole, inbox, found,
      settled⟩
    obtain ⟨sameEnv, -⟩ := records.unique otherRecords
    have sameBytes : otherCanonical = canonical :=
      otherRecords.eventBytes.symm.trans records.eventBytes
    obtain ⟨same, judged⟩ := judgeInbox_records followed member records found
      ⟨env, digest canonical, clock⟩
    rw [if_pos whole, found, Option.filter_some_pos (by simpa using same), judged, if_pos settled,
      Verdict.event, Option.some.injEq]
    rw [sameEnv, read, Option.some.injEq] at otherRead
    rw [sameBytes] at hash
    obtain ⟨eventEnv, eventHash, eventClock⟩ := event
    simp only at sameEnv hash otherRead
    rw [sameEnv, hash, otherRead]

theorem mem_acceptedIn (followed : Followed db log) (event : SourceEvent) :
    event ∈ acceptedIn collation tenantID cutoff db ↔
      ∃ row ∈ db.erp.outbox.rows, row.tenantID = tenantID ∧
        row.recordedAt ≤ microseconds cutoff ∧ Counts db row event := by
  simp only [acceptedIn, List.mem_filterMap, Prod.exists, mem_eventRows]
  constructor
  · rintro ⟨row, inbox, ⟨⟨member, rfl, past, type⟩, rfl⟩, accepted⟩
    exact ⟨row, member, rfl, past, (judge_event followed member type event).mp accepted⟩
  · rintro ⟨row, member, rfl, past, counts⟩
    obtain ⟨quantity, canonical, records, -⟩ := counts.recorded
    have type : row.aggregateType = aggregateTypeInventoryItem :=
      records.columns.2.1.trans records.valid.aggregateType
    exact ⟨row, _, ⟨⟨member, rfl, past, type⟩, rfl⟩,
      (judge_event followed member type event).mpr counts⟩

/-- The events of an item that are accepted are in its log. -/
theorem mem_log_of_accepted (followed : Followed db log) {event : SourceEvent}
    (accepted : event ∈ acceptedIn collation tenantID cutoff db) :
    event.env ∈ log (tenantID, event.env.aggregateID) := by
  obtain ⟨row, member, rfl, -, counts⟩ := (mem_acceptedIn followed event).mp accepted
  obtain ⟨quantity, canonical, records, -⟩ := counts.recorded
  obtain ⟨inbox, found, settled⟩ := counts.settled
  have known : Published db.erp event.env := ⟨row, member, _, canonical, records⟩
  rw [records.eventID] at found
  have backs := followed.existing followed.sourced.coherent known records.valid
    records.written found
  have own : event.env.item = (row.tenantID, event.env.aggregateID) := by
    rw [show row.tenantID = event.env.tenantID from records.columns.1]
    rfl
  rcases backs.state with ⟨-, inEffect⟩ | ⟨isGap, -⟩
  · rw [← own]
    exact inEffect
  · rw [isGap] at settled
    cases settled

end Rows

/-! ### The replay of an item -/

/-- What the comparison reads of a replayed item. -/
def ReplayState.reached (state : ReplayState) : Int × Int :=
  (state.observation.quantityOnHand, state.version)

/-- What it reads of a projected one. -/
def reachedBy (row : ProjectionRow) : Int × Int := (row.quantityOnHand, row.aggregateVersion)

/-- The observation of an event. -/
def SourceEvent.observation (record : SourceEvent) (item : Bytes) (quantity : Int) : Observation :=
  ⟨record.env.tenantID, item, record.recordedAt.dateText, quantity⟩

/-- An event that fits is taken. -/
theorem replayEvent_fits {item : Bytes} {loop : ReplayLoop} {record : SourceEvent}
    {payload : QuantityDecremented} (valid : Valid record.env (.quantityDecremented payload))
    (next : record.env.aggregateVersion = loop.expected)
    (continues : record.env.aggregateVersion = 1 ∨ payload.quantityBefore = loop.current) :
    replayEvent item loop record =
      { current := payload.quantityAfter
        expected := loop.expected + 1
        byDate := loop.byDate.store (record.observation item payload.quantityAfter)
        lastValid := some ⟨record.observation item payload.quantityAfter,
          record.env.aggregateVersion⟩
        reasons := loop.reasons } := by
  have arithmetic := valid.fits.arithmetic payload rfl
  have nonnegative := (valid.fits.numbers payload.quantityAfter (by simp [Payload.numbers])).1
  have chained : ¬(record.env.aggregateVersion ≠ 1 ∧ payload.quantityBefore ≠ loop.current) := by
    rintro ⟨later, breaks⟩
    exact continues.elim later breaks
  have sums : ¬(payload.quantityBefore - payload.quantityDecremented ≠ payload.quantityAfter ∨
      payload.quantityAfter < 0) := by
    rintro (differs | negative)
    · exact differs arithmetic
    · omega
  simp only [replayEvent, asQuantityDecremented_of_valid valid, if_neg (not_not.mpr next),
    if_neg chained, if_neg sums]
  rfl

/-- What the loop has after a prefix of a log. -/
structure Replayed (series : List SourceEvent) (loop : ReplayLoop) : Prop where
  reasons : loop.reasons = []
  expected : loop.expected = series.length + 1
  current : ∀ row, projected (series.map SourceEvent.env) = some row →
    loop.current = row.quantityOnHand
  lastValid : loop.lastValid.map ReplayState.reached =
    (projected (series.map SourceEvent.env)).map reachedBy

/-- The next event of a log fits. -/
theorem Replayed.next {known : Envelope → Prop} {key : Bytes × Bytes} {front : List SourceEvent}
    {record : SourceEvent} {loop : ReplayLoop} {payload : QuantityDecremented}
    (before : Replayed front loop)
    (consecutive : Consecutive known key (front.map SourceEvent.env ++ [record.env]))
    (valid : Valid record.env (.quantityDecremented payload)) :
    replayEvent key.2 loop record =
      { current := payload.quantityAfter
        expected := loop.expected + 1
        byDate := loop.byDate.store (record.observation key.2 payload.quantityAfter)
        lastValid := some ⟨record.observation key.2 payload.quantityAfter,
          record.env.aggregateVersion⟩
        reasons := loop.reasons } := by
  have version := consecutive.versions front.length record.env (by simp)
  refine replayEvent_fits valid (by rw [version, before.expected]) ?_
  rcases List.eq_nil_or_concat front with rfl | ⟨start, last, rfl⟩
  · left
    simpa using version
  · right
    rw [List.concat_eq_append, List.map_append, List.map_cons, List.map_nil] at consecutive
    obtain ⟨earlier, earlierValid⟩ := consecutive.valid last.env (by simp)
    have chained := consecutive.chained start.length last.env record.env (by simp) (by simp)
    rw [asQuantityDecremented_of_valid valid, asQuantityDecremented_of_valid earlierValid,
      Option.map_some, Option.map_some, Option.some.injEq] at chained
    rw [chained, before.current ⟨last.env.tenantID, last.env.aggregateID,
      earlier.quantityAfter, last.env.aggregateVersion⟩ ?_]
    rw [List.concat_eq_append, List.map_append, List.map_cons, List.map_nil, projected_append]
    exact shown_of_valid earlierValid

/-- A log is replayed without a complaint, to what it projects to. -/
theorem replayed_of_consecutive {known : Envelope → Prop} {key : Bytes × Bytes}
    (series : List SourceEvent)
    (consecutive : Consecutive known key (series.map SourceEvent.env)) :
    Replayed series (series.foldl (replayEvent key.2) {}) := by
  induction series using List.reverseRecOn with
  | nil => exact ⟨rfl, rfl, by simp, rfl⟩
  | append_singleton front record hypothesis =>
    rw [List.map_append, List.map_cons, List.map_nil] at consecutive
    obtain ⟨payload, valid⟩ := consecutive.valid record.env (by simp)
    have before := hypothesis consecutive.front
    rw [List.foldl_append, List.foldl_cons, List.foldl_nil, before.next consecutive valid]
    have shows : projected ((front ++ [record]).map SourceEvent.env) = some ⟨record.env.tenantID,
        record.env.aggregateID, payload.quantityAfter, record.env.aggregateVersion⟩ := by
      rw [List.map_append, List.map_cons, List.map_nil, projected_append]
      exact shown_of_valid valid
    refine ⟨before.reasons, ?_, ?_, ?_⟩
    · simp [before.expected]
    · rw [shows]
      rintro row ⟨⟩
      rfl
    · rw [shows]
      rfl

/-! ### The series of an item -/

section Series

variable {db : Database} {log : Log} {tenantID : Bytes} {cutoff : Int} {collation : Collation}

theorem mem_seriesOf {events : List SourceEvent} {item : Bytes} {event : SourceEvent} :
    event ∈ seriesOf events item ↔ event ∈ events ∧ event.env.aggregateID = item := by
  simp [seriesOf, List.mem_insertionSort]

theorem seriesLe_iff (first second : SourceEvent) : seriesLe first second = true ↔
    Sorting.lex (· ≤ ·) (fun record : SourceEvent => record.env.aggregateVersion)
      (fun first second => first.env.eventID.map UInt8.toNat ≤ second.env.eventID.map UInt8.toNat)
      first second := by
  unfold seriesLe Sorting.lex
  split_ifs
  · exact decide_eq_true_iff
  · simp [Strings.less]

/-- The series of an item goes up in its versions. -/
theorem seriesOf_versions (events : List SourceEvent) (item : Bytes) :
    (seriesOf events item).Pairwise fun first second =>
      first.env.aggregateVersion ≤ second.env.aggregateVersion := by
  have sorts : Sorting.Sorts fun first second => seriesLe first second = true := by
    simp only [seriesLe_iff]
    exact (Sorting.Sorts.of_key id).lex (fun _ _ => le_antisymm)
      (.of_key fun record : SourceEvent => record.env.eventID.map UInt8.toNat)
  refine (sorts.pairwise _).imp fun {first second} before => ?_
  by_cases same : first.env.aggregateVersion = second.env.aggregateVersion
  · exact same.le
  · rwa [seriesLe, if_pos same, decide_eq_true_eq] at before

theorem acceptedIn_distinct (collation : Collation) (tenantID : Bytes) (cutoff : Int)
    (db : Database) :
    (acceptedIn collation tenantID cutoff db).Pairwise fun first second =>
      first.env.eventID ≠ second.env.eventID := by
  have rows := List.pairwise_map.mp (eventRows_distinct collation tenantID cutoff db)
  refine List.Pairwise.filterMap _ ?_ rows
  intro first second different event accepted other otherAccepted
  have own : ∀ {row : OutboxRow × Option InboxRow} {event : SourceEvent},
      (judge tenantID row.1 row.2).event = some event → event.env.eventID = row.1.eventID := by
    intro row event accepted
    cases verdict : judge tenantID row.1 row.2 with
    | accepted found =>
      rw [verdict, Verdict.event, Option.some.injEq] at accepted
      exact accepted ▸ judge_eventID verdict
    | skipped | refused => rw [verdict] at accepted; cases accepted
  rw [own accepted, own otherAccepted]
  exact different

/-- The series of an item is its log once the log is accepted. -/
theorem series_eq_log (followed : Followed db log) {item : Bytes}
    (all : ∀ env ∈ log (tenantID, item), ∃ event ∈ acceptedIn collation tenantID cutoff db,
      event.env = env) :
    (seriesOf (acceptedIn collation tenantID cutoff db) item).map SourceEvent.env =
      log (tenantID, item) := by
  have consecutive := followed.grounded.applied (tenantID, item)
  have listed : ∀ event ∈ seriesOf (acceptedIn collation tenantID cutoff db) item,
      event.env ∈ log (tenantID, item) := by
    intro event member
    obtain ⟨accepted, rfl⟩ := mem_seriesOf.mp member
    exact mem_log_of_accepted followed accepted
  have irrefl : Std.Irrefl fun first second : Envelope =>
      first.aggregateVersion < second.aggregateVersion := ⟨fun _ => lt_irrefl _⟩
  have antisymm : Std.Antisymm fun first second : Envelope =>
      first.aggregateVersion < second.aggregateVersion :=
    ⟨fun _ _ below above => absurd below (lt_asymm above)⟩
  have rising : ((seriesOf (acceptedIn collation tenantID cutoff db) item).map
      SourceEvent.env).Pairwise fun first second =>
        first.aggregateVersion < second.aggregateVersion := by
    rw [List.pairwise_map]
    have distinct : (seriesOf (acceptedIn collation tenantID cutoff db) item).Pairwise
        fun first second => first.env.eventID ≠ second.env.eventID :=
      ((acceptedIn_distinct collation tenantID cutoff db).filter _).perm
        (List.perm_insertionSort _ _).symm Ne.symm
    refine ((seriesOf_versions _ item).and distinct).imp_of_mem ?_
    rintro first second firstMember secondMember ⟨below, different⟩
    refine lt_of_le_of_ne below fun same => different ?_
    have placed := followed.sourced.coherent.placed first.env second.env
      (consecutive.known _ (listed first firstMember))
      (consecutive.known _ (listed second secondMember)) ?_
    · rw [placed]
    · rw [Envelope.place, Envelope.place, consecutive.tenantID _ (listed first firstMember),
        consecutive.tenantID _ (listed second secondMember),
        consecutive.aggregateType _ (listed first firstMember),
        consecutive.aggregateType _ (listed second secondMember),
        consecutive.aggregateID _ (listed first firstMember),
        consecutive.aggregateID _ (listed second secondMember), same]
  refine rising.eq_of_mem_iff consecutive.rising fun env => ⟨fun member => ?_, fun member => ?_⟩
  · obtain ⟨event, found, rfl⟩ := List.mem_map.mp member
    exact listed event found
  · obtain ⟨event, accepted, rfl⟩ := all env member
    exact List.mem_map.mpr ⟨event,
      mem_seriesOf.mpr ⟨accepted, consecutive.aggregateID _ member⟩, rfl⟩

end Series

/-! ### The comparison -/

section Comparison

variable {db : Database} {log : Log} {tenantID : Bytes} {cutoff : Int} {collation : Collation}
  {order : CompareOrder} {events : List SourceEvent}

/-- An item without events is not replayed. -/
theorem replayState_eq (events : List SourceEvent) (item : Bytes) :
    replayState events item = (replaySeries events item).lastValid := by
  rw [replayState]
  split_ifs with listed
  · rfl
  · have none : seriesOf events item = [] := by
      refine List.eq_nil_iff_forall_not_mem.mpr fun event member => listed ?_
      obtain ⟨accepted, own⟩ := mem_seriesOf.mp member
      simp only [itemsOf, sortRows, List.mem_insertionSort, List.mem_dedup, List.mem_map]
      exact ⟨event, accepted, own⟩
    rw [replaySeries, none]
    rfl

theorem projectionReasons_eq_nil {replay : Option ReplayState} {row : ProjectionRow} :
    projectionReasons replay row = [] ↔
      replay.map ReplayState.reached = some (reachedBy row) := by
  cases replay with
  | none => simp [projectionReasons]
  | some state =>
    simp [projectionReasons, ReplayState.reached, reachedBy, List.append_eq_nil_iff]

/-- The comparison is silent when every projected item is replayed to its row and every replayed
item is projected. -/
theorem compareProjection_eq_nil {projection : Table ProjectionRow.itemID} :
    compareProjection order projection events = [] ↔
      (∀ row ∈ projection.rows, (replayState events row.itemID).map ReplayState.reached =
        some (reachedBy row)) ∧
      ∀ item, (replayState events item).isSome = true →
        (projection.find? item).isSome = true := by
  rw [compareProjection, List.append_eq_nil_iff, List.flatMap_eq_nil_iff, List.flatMap_eq_nil_iff]
  refine and_congr ⟨fun silent row member => ?_, fun agree item key => ?_⟩
    ⟨fun silent item replayed => ?_, fun shown item key => ?_⟩
  · have none := silent row.itemID ((order.projection.mem_visit _ _).mpr
      (List.mem_map_of_mem member))
    rw [Table.find?_eq_some_iff.mpr ⟨member, rfl⟩] at none
    exact projectionReasons_eq_nil.mp none
  · cases found : projection.find? item with
    | none => rfl
    | some row =>
      obtain ⟨member, rfl⟩ := Table.find?_eq_some_iff.mp found
      exact projectionReasons_eq_nil.mpr (agree row member)
  · have listed : item ∈ itemsOf events := by
      by_contra absent
      rw [replayState, if_neg absent] at replayed
      cases replayed
    have none := silent item ((order.replayed.mem_visit _ _).mpr
      (List.mem_filter.mpr ⟨listed, replayed⟩))
    by_contra missing
    rw [if_neg missing] at none
    cases none
  · have replayed := List.mem_filter.mp ((order.replayed.mem_visit _ _).mp key)
    rw [if_pos (shown item replayed.2)]

/-- A projected item has a lower-case name already. -/
theorem lowered_of_follows (followed : Followed db log)
    {row : ProjectionRow} (member : row ∈ db.platform.projection.rows) : row.lowered = row := by
  have found := Table.find?_eq_some_iff.mpr ⟨member, rfl⟩
  rw [followed.grounded.projection] at found
  have consecutive := followed.grounded.applied row.key
  obtain ⟨env, listed⟩ : ∃ env, env ∈ log row.key := by
    cases events : log row.key with
    | nil =>
      rw [events] at found
      cases found
    | cons env rest => exact ⟨env, List.mem_cons_self ..⟩
  obtain ⟨source, -, payload, canonical, records⟩ := consecutive.known env listed
  have tenant : row.tenantID = env.tenantID := (consecutive.tenantID env listed).symm
  have item : row.itemID = env.aggregateID := (consecutive.aggregateID env listed).symm
  have lowerTenant := validate_tenantID env records.validated
  have lowerItem := records.canonicalID.lowercase
  obtain ⟨tenantID, itemID, quantity, version⟩ := row
  simp only at tenant item
  simp only [ProjectionRow.lowered, tenant, item, ← lowerTenant, ← lowerItem]

theorem mem_projectionRows (followed : Followed db log)
    {row : ProjectionRow} :
    row ∈ projectionRows collation tenantID db ↔
      row ∈ db.platform.projection.rows ∧ row.tenantID = tenantID := by
  simp only [projectionRows, Platform.tenantProjection, List.mem_map, List.mem_insertionSort,
    List.mem_filter, decide_eq_true_eq]
  constructor
  · rintro ⟨other, ⟨member, own⟩, rfl⟩
    rw [lowered_of_follows followed member]
    exact ⟨member, own⟩
  · rintro ⟨member, own⟩
    exact ⟨row, ⟨member, own⟩, lowered_of_follows followed member⟩

/-- The map of the loader finds the projected rows. -/
theorem projectionMap_rows (followed : Followed db log) :
    (projectionMap (projectionRows collation tenantID db)).rows =
      projectionRows collation tenantID db := by
  refine (Table.rows_storeAll _ ?_).trans (List.nil_append _)
  have unique := List.Nodup.of_map _ db.platform.projection.unique
  have sorted : (projectionRows collation tenantID db).Nodup := by
    refine List.Nodup.map_on ?_ ((List.perm_insertionSort _ _).nodup_iff.mpr (unique.filter _))
    intro first firstMember second secondMember same
    simp only [List.mem_insertionSort, Platform.tenantProjection, List.mem_filter]
      at firstMember secondMember
    rwa [lowered_of_follows followed firstMember.1,
      lowered_of_follows followed secondMember.1] at same
  rw [Table.rows_empty, List.nil_append]
  refine List.Nodup.map_on ?_ sorted
  intro first firstMember second secondMember same
  obtain ⟨listed, tenant⟩ := (mem_projectionRows followed).mp firstMember
  obtain ⟨otherListed, otherTenant⟩ := (mem_projectionRows followed).mp secondMember
  refine db.platform.projection.eq_of_key listed otherListed ?_
  rw [ProjectionRow.key, ProjectionRow.key, tenant, otherTenant, same]

theorem find?_projectionMap (collation : Collation)
    (followed : Followed db log) (item : Bytes) :
    (projectionMap (projectionRows collation tenantID db)).find? item =
      db.platform.projection.find? (tenantID, item) := by
  refine Option.ext fun row => ?_
  rw [Table.find?_eq_some_iff, Table.find?_eq_some_iff, projectionMap_rows followed,
    mem_projectionRows followed, ProjectionRow.key, Prod.mk.injEq, and_assoc]

end Comparison

/-! ### Completeness -/

/-- The state of every inventory event of a tenant is settled. -/
def AllSettled (db : Database) (tenantID : Bytes) : Prop :=
  ∀ row ∈ inventoryRows db.erp tenantID, ((db.platform.inbox.find? row.eventID).any fun inbox =>
    inbox.disposition.settled) = true

instance (db : Database) (tenantID : Bytes) : Decidable (AllSettled db tenantID) :=
  inferInstanceAs (Decidable (∀ row ∈ inventoryRows db.erp tenantID, _))

/-- No inventory event of a tenant is recorded after the cutoff. -/
def AllPast (db : Database) (tenantID : Bytes) (cutoff : Int) : Prop :=
  ∀ row ∈ inventoryRows db.erp tenantID, row.recordedAt * 1000 ≤ cutoff

instance (db : Database) (tenantID : Bytes) (cutoff : Int) :
    Decidable (AllPast db tenantID cutoff) :=
  inferInstanceAs (Decidable (∀ row ∈ inventoryRows db.erp tenantID, _))

section Completeness

variable {db : Database} {log : Log} {tenantID : Bytes} {cutoff : Int} {collation : Collation}

theorem mem_inventoryRows {erp : Erp} {row : OutboxRow} :
    row ∈ inventoryRows erp tenantID ↔ row ∈ erp.outbox.rows ∧ row.tenantID = tenantID ∧
      row.aggregateType = aggregateTypeInventoryItem := by
  simp [inventoryRows]

theorem AllPast.row_le (past : AllPast db tenantID cutoff) {row : OutboxRow}
    (own : row ∈ inventoryRows db.erp tenantID) : row.recordedAt ≤ microseconds cutoff := by
  have before := past row own
  unfold microseconds
  omega

/-- The rows of the query are all inventory events of the tenant. -/
theorem eventRows_all (past : AllPast db tenantID cutoff) :
    ((eventRows collation tenantID cutoff db).map Prod.fst).Perm
      (inventoryRows db.erp tenantID) := by
  rw [eventRows, List.map_map]
  refine (List.Perm.of_eq (List.map_id _)).trans ((List.perm_insertionSort _ _).trans ?_)
  refine List.Perm.of_eq (List.filter_congr fun row member => ?_)
  rw [decide_eq_decide]
  exact ⟨fun ⟨tenant, _, type⟩ => ⟨tenant, type⟩, fun ⟨tenant, type⟩ =>
    ⟨tenant, past.row_le (mem_inventoryRows.mpr ⟨member, tenant, type⟩), type⟩⟩

/-- A settled row is accepted when its time is exact. -/
theorem accepts_iff (followed : Followed db log) (settled : AllSettled db tenantID)
    {row : OutboxRow} {inbox : Option InboxRow}
    (member : (row, inbox) ∈ eventRows collation tenantID cutoff db) :
    (judge tenantID row inbox).event.isSome = true ↔ Exact row := by
  obtain ⟨⟨listed, rfl, -, type⟩, rfl⟩ := mem_eventRows.mp member
  rw [Option.isSome_iff_exists]
  constructor
  · rintro ⟨event, accepted⟩
    exact ((judge_event followed listed type event).mp accepted).exact
  · intro whole
    obtain ⟨env, quantity, canonical, clock, records, read, -⟩ :=
      recorded_inventory followed.sourced listed type
    have counts : Counts db row ⟨env, digest canonical, clock⟩ :=
      { recorded := ⟨quantity, canonical, records, rfl⟩
        clock := read
        exact := whole
        settled := (Option.any_eq_true _ _).mp
          (settled row (mem_inventoryRows.mpr ⟨listed, rfl, type⟩)) }
    refine ⟨⟨env, digest canonical, clock⟩, ?_⟩
    rw [judge_event followed listed type]
    exact counts

/-- All events are counted when all times are exact. -/
theorem acceptedIn_length_iff (followed : Followed db log) (settled : AllSettled db tenantID)
    (past : AllPast db tenantID cutoff) :
    (acceptedIn collation tenantID cutoff db).length = (inventoryRows db.erp tenantID).length ↔
      ∀ row ∈ inventoryRows db.erp tenantID, Exact row := by
  have perm := (eventRows_all past : ((eventRows collation tenantID cutoff db).map Prod.fst).Perm _)
  rw [← perm.length_eq, List.length_map, acceptedIn, List.length_filterMap_eq_countP,
    List.countP_eq_length]
  constructor
  · intro all row member
    obtain ⟨⟨found, inbox⟩, listed, rfl⟩ := List.mem_map.mp (perm.mem_iff.mpr member)
    have accepted : (judge tenantID found inbox).event.isSome = true := all (found, inbox) listed
    exact (accepts_iff followed settled listed).mp accepted
  · rintro all ⟨row, inbox⟩ listed
    have whole := all row (perm.mem_iff.mp (List.mem_map.mpr ⟨(row, inbox), listed, rfl⟩))
    have accepted : (judge tenantID row inbox).event.isSome = true :=
      (accepts_iff followed settled listed).mpr whole
    exact accepted

/-- A settled row up to the cutoff is accepted when its time is exact. -/
theorem accepted_of_row (followed : Followed db log) {row : OutboxRow}
    (own : row ∈ inventoryRows db.erp tenantID) (past : row.recordedAt ≤ microseconds cutoff)
    (whole : Exact row) (settled : ∃ inbox, db.platform.inbox.find? row.eventID = some inbox ∧
      inbox.disposition.settled = true) :
    ∃ event ∈ acceptedIn collation tenantID cutoff db, ∃ quantity canonical,
      Records row event.env (.quantityDecremented quantity) canonical := by
  obtain ⟨listed, tenant, type⟩ := mem_inventoryRows.mp own
  obtain ⟨env, quantity, canonical, clock, records, read, -⟩ :=
    recorded_inventory followed.sourced listed type
  exact ⟨⟨env, digest canonical, clock⟩, (mem_acceptedIn followed _).mpr ⟨row, listed,
    tenant, past, ⟨quantity, canonical, records, rfl⟩, read, whole, settled⟩, quantity, canonical,
    records⟩

/-- The rows of the inbox raise nothing when every event is accepted. -/
theorem inboxReasons_of_exact (followed : Followed db log) (settled : AllSettled db tenantID)
    (past : AllPast db tenantID cutoff)
    (whole : ∀ row ∈ inventoryRows db.erp tenantID, Exact row) {inbox : InboxRow}
    (member : inbox ∈ inboxRows tenantID cutoff db) :
    inboxReasons ((acceptedIn collation tenantID cutoff db).map fun record => record.env.eventID)
      inbox = [] := by
  simp only [inboxRows, List.mem_filter, decide_eq_true_eq] at member
  obtain ⟨listed, tenant, type, -⟩ := member
  obtain ⟨env, payload, canonical, backs⟩ := followed.backed inbox listed
  obtain ⟨row, rowListed, rowPayload, rowCanonical, records⟩ := backs.known
  have place := records.columns
  have own : row ∈ inventoryRows db.erp tenantID := mem_inventoryRows.mpr ⟨rowListed,
    place.1.trans (backs.of.tenantID.symm.trans tenant),
    place.2.1.trans (backs.of.aggregateType.symm.trans type)⟩
  have sameID : row.eventID = inbox.eventID := records.eventID.trans backs.of.eventID.symm
  obtain ⟨found, present, isSettled⟩ := (Option.any_eq_true _ _).mp (settled row own)
  obtain rfl : found = inbox := by
    obtain ⟨foundListed, foundID⟩ := Table.find?_eq_some_iff.mp present
    exact db.platform.inbox.eq_of_key foundListed listed (foundID.trans sameID)
  obtain ⟨event, accepted, _, _, eventRecords⟩ := accepted_of_row followed own
    (past.row_le own) (whole row own) ⟨found, present, isSettled⟩
  have known : found.eventID ∈ (acceptedIn collation tenantID cutoff db).map
      fun record => record.env.eventID :=
    List.mem_map.mpr ⟨event, accepted, eventRecords.eventID.symm.trans sameID⟩
  rw [inboxReasons, if_pos known, List.nil_append, if_neg]
  rcases (settled_iff found.disposition).mp isSettled with applied | repeated
  · simp [applied]
  · simp [repeated]

/-- An event in effect is accepted when its row has an exact time up to the cutoff. -/
theorem accepted_of_log (followed : Followed db log) {item : Bytes} {env : Envelope}
    (member : env ∈ log (tenantID, item))
    (fits : ∀ row ∈ inventoryRows db.erp tenantID, row.aggregateID = env.aggregateID →
      row.aggregateVersion = env.aggregateVersion →
      row.recordedAt ≤ microseconds cutoff ∧ Exact row) :
    ∃ event ∈ acceptedIn collation tenantID cutoff db, event.env = env := by
  have consecutive := followed.grounded.applied (tenantID, item)
  obtain ⟨row, listed, payload, canonical, records⟩ := consecutive.known env member
  have own : row ∈ inventoryRows db.erp tenantID := mem_inventoryRows.mpr ⟨listed,
    records.columns.1.trans (consecutive.tenantID env member),
    records.columns.2.1.trans (consecutive.aggregateType env member)⟩
  obtain ⟨past, whole⟩ := fits row own records.columns.2.2.1 records.columns.2.2.2
  have settled := followed.applied (tenantID, item) env member
  rw [← records.eventID] at settled
  obtain ⟨event, accepted, _, _, eventRecords⟩ :=
    accepted_of_row followed own past whole settled
  exact ⟨event, accepted, (records.unique eventRecords).1⟩

/-- An item whose log is accepted is replayed to its row: its series is the log, and the replay
takes all of it. -/
theorem replayed_of_accepted (followed : Followed db log) {item : Bytes}
    (all : ∀ env ∈ log (tenantID, item), ∃ event ∈ acceptedIn collation tenantID cutoff db,
      event.env = env) :
    Replayed (seriesOf (acceptedIn collation tenantID cutoff db) item)
        (replaySeries (acceptedIn collation tenantID cutoff db) item) ∧
      (replayState (acceptedIn collation tenantID cutoff db) item).map ReplayState.reached =
        (db.platform.projection.find? (tenantID, item)).map reachedBy := by
  have isLog := series_eq_log followed all
  have consecutive := followed.grounded.applied (tenantID, item)
  rw [← isLog] at consecutive
  have replayed := replayed_of_consecutive _ consecutive
  refine ⟨replayed, ?_⟩
  rw [replayState_eq, followed.grounded.projection, ← isLog]
  exact replayed.lastValid

/-- A fully applied history with exact times is complete. -/
theorem sourceIn_complete (followed : Followed db log) (settled : AllSettled db tenantID)
    (past : AllPast db tenantID cutoff)
    (whole : ∀ row ∈ inventoryRows db.erp tenantID, Exact row) (order : CompareOrder) :
    (sourceIn collation order tenantID cutoff db).statusReasons = [] := by
  have refused : refusedIn collation tenantID cutoff db = [] := by
    refine List.filterMap_eq_nil_iff.mpr ?_
    rintro ⟨row, inbox⟩ listed
    have perm : ((eventRows collation tenantID cutoff db).map Prod.fst).Perm _ :=
      eventRows_all past
    have takes := (accepts_iff followed settled listed).mpr
      (whole row (perm.mem_iff.mp (List.mem_map.mpr ⟨_, listed, rfl⟩)))
    cases verdict : judge tenantID row inbox with
    | accepted event => rfl
    | skipped => rfl
    | refused reason => rw [verdict] at takes; cases takes
  have inbox : (inboxRows tenantID cutoff db).flatMap (inboxReasons
      ((acceptedIn collation tenantID cutoff db).map fun record => record.env.eventID)) = [] :=
    List.flatMap_eq_nil_iff.mpr fun inbox member =>
      inboxReasons_of_exact followed settled past whole member
  have replayed : ∀ item,
      Replayed (seriesOf (acceptedIn collation tenantID cutoff db) item) _ ∧ _ :=
    fun item => replayed_of_accepted followed fun env member =>
      accepted_of_log followed member fun row own _ _ => ⟨past.row_le own, whole row own⟩
  have replays : replayReasons (acceptedIn collation tenantID cutoff db) = [] :=
    List.flatMap_eq_nil_iff.mpr fun item _ => (replayed item).1.reasons
  have compared : compareProjection order (projectionMap (projectionRows collation tenantID db))
      (acceptedIn collation tenantID cutoff db) = [] := by
    refine compareProjection_eq_nil.mpr ⟨fun row member => ?_, fun item isSome => ?_⟩
    · rw [(replayed row.itemID).2, ← find?_projectionMap collation followed,
        Table.find?_eq_some_iff.mpr ⟨member, rfl⟩]
      rfl
    · rw [find?_projectionMap collation followed, ← Option.isSome_map (f := reachedBy),
        ← (replayed item).2, Option.isSome_map]
      exact isSome
  simp only [sourceIn, sourceOf, loadEvents_in, refused, inbox, replays, compared,
    List.append_nil]
  rfl

theorem sourceIn_status (order : CompareOrder) :
    (sourceIn collation order tenantID cutoff db).status =
      statusOf (sourceIn collation order tenantID cutoff db).statusReasons := rfl

theorem sourceIn_count (order : CompareOrder) :
    (sourceIn collation order tenantID cutoff db).boundary.appliedEventCount =
      (acceptedIn collation tenantID cutoff db).length := by
  simp only [sourceIn, sourceOf, loadEvents_in, boundaryOf]

theorem mem_uniqueSortedReasons {reason : Bytes} {reasons : List Bytes} :
    reason ∈ uniqueSortedReasons reasons ↔
      reason ∈ reasons ∧ Strings.isBlank reason = false := by
  simp [uniqueSortedReasons, sortRows, List.mem_insertionSort]

/-- The reasons of the refused rows are among the reasons of the source. -/
theorem mem_statusReasons_of_refused (order : CompareOrder) {reason : Bytes}
    (refused : reason ∈ refusedIn collation tenantID cutoff db)
    (visible : Strings.isBlank reason = false) :
    reason ∈ (sourceIn collation order tenantID cutoff db).statusReasons := by
  simp only [sourceIn, sourceOf, loadEvents_in]
  exact List.mem_append_left _ (mem_uniqueSortedReasons.mpr
    ⟨List.mem_append_left _ (List.mem_append_left _ refused), visible⟩)

theorem statusOf_incomplete {reasons : List Bytes} {reason : Bytes} (member : reason ∈ reasons)
    (other : (ascii "stale:").isPrefixOf reason = false) : statusOf reasons = .incomplete := by
  have some_reason : reasons.isEmpty = false := by
    cases reasons with
    | nil => cases member
    | cons first rest => rfl
  have mixed : hasOnlyStaleReasons reasons = false := by
    rw [hasOnlyStaleReasons, Bool.and_eq_false_iff]
    right
    refine List.all_eq_false.mpr ⟨reason, member, ?_⟩
    rw [other]
    exact Bool.false_ne_true
  simp [statusOf, some_reason, mixed]

def timeMismatch (eventID : Bytes) : Bytes :=
  ascii "incomplete:recorded_at mismatch " ++ eventID

theorem timeMismatch_cons (eventID : Bytes) : ∃ rest, timeMismatch eventID = 0x69 :: rest := by
  refine ⟨ascii "ncomplete:recorded_at mismatch " ++ eventID, ?_⟩
  rw [timeMismatch, show ascii "incomplete:recorded_at mismatch " =
    0x69 :: ascii "ncomplete:recorded_at mismatch " by decide +kernel, List.cons_append]

/-- A row that the query returns and whose time the column does not keep. -/
theorem timeMismatch_mem (order : CompareOrder) (sourced : Sourced db.erp)
    (member : row ∈ db.erp.outbox.rows) (type : row.aggregateType = aggregateTypeInventoryItem)
    (past : row.recordedAt ≤ microseconds cutoff) (inexact : ¬ Exact row) :
    timeMismatch row.eventID ∈
      (sourceIn collation order row.tenantID cutoff db).statusReasons := by
  obtain ⟨env, quantity, canonical, clock, records, read, -⟩ :=
    recorded_inventory sourced member type
  refine mem_statusReasons_of_refused order (List.mem_filterMap.mpr ⟨(row, _),
    mem_eventRows.mpr ⟨⟨member, rfl, past, type⟩, rfl⟩, ?_⟩) ?_
  · rw [judge_records records read, if_neg inexact]
    rfl
  · obtain ⟨rest, starts⟩ := timeMismatch_cons row.eventID
    show Strings.isBlank (timeMismatch row.eventID) = false
    rw [starts, Bool.eq_false_iff]
    intro blank
    have space := Strings.isBlank_cons blank
    rw [show (Utf8.decodeRune (0x69 :: rest)).1 = 0x69 from rfl] at space
    exact absurd space (by decide)

/-- Where no column keeps the time of its event, no event is counted. -/
theorem incomplete_of_inexact {Index : Type} {world : World Index}
    (sound : world.Sound) (order : CompareOrder) {instant : Option Int}
    (recorded : (inventoryRows world.db.erp tenantID).map recordedInstant = [instant])
    (inexact : ∀ row ∈ inventoryRows world.db.erp tenantID,
      row.recordedAt ≤ microseconds cutoff ∧ ¬ Exact row) :
    (sourceIn collation order tenantID cutoff world.db).status = .incomplete ∧
      (sourceIn collation order tenantID cutoff world.db).boundary.appliedEventCount = 0 := by
  obtain ⟨log, followed⟩ := sound.followed
  constructor
  · obtain ⟨row, member, -⟩ : ∃ row ∈ inventoryRows world.db.erp tenantID,
        recordedInstant row = instant :=
      List.mem_map.mp (recorded ▸ List.mem_singleton_self _)
    obtain ⟨past, changed⟩ := inexact row member
    obtain ⟨listed, rfl, type⟩ := mem_inventoryRows.mp member
    rw [sourceIn_status]
    refine statusOf_incomplete (timeMismatch_mem order followed.sourced listed type past changed) ?_
    obtain ⟨rest, starts⟩ := timeMismatch_cons row.eventID
    rw [starts]
    rfl
  · have none : acceptedIn collation tenantID cutoff world.db = [] := by
      refine List.eq_nil_iff_forall_not_mem.mpr fun event accepted => ?_
      obtain ⟨row, listed, tenant, -, counts⟩ :=
        (mem_acceptedIn followed event).mp accepted
      obtain ⟨quantity, canonical, records, -⟩ := counts.recorded
      have type : row.aggregateType = aggregateTypeInventoryItem :=
        records.columns.2.1.trans records.valid.aggregateType
      exact (inexact row (mem_inventoryRows.mpr ⟨listed, tenant, type⟩)).2 counts.exact
    rw [sourceIn_count, none]
    rfl

end Completeness

/-- Once every inventory event of a tenant is settled, at every cutoff that is not before any
of them: the source is complete with all events counted exactly when the loader takes its
arguments and no event's time has digits that its column drops. -/
theorem complete_source_iff {Index : Type} [Fintype Index] [DecidableEq Index]
    (commands : Index → Command) (moves : List (World.Move Index)) (db : Database)
    (reached : ((World.start commands).run moves).db = db) (collation : Collation)
    (order : CompareOrder) (tenantID : Bytes) (cutoff : Int)
    (settled : AllSettled db (Strings.toLower (Strings.trimSpace tenantID)))
    (past : AllPast db (Strings.toLower (Strings.trimSpace tenantID)) cutoff) :
    (∀ replies, Reply.lost ∉ replies → ∃ source,
      loadedSource collation order tenantID cutoff db replies = .ok source ∧
      source.status = .complete ∧ source.statusReasons = [] ∧
      source.boundary.appliedEventCount =
        (inventoryRows db.erp (Strings.toLower (Strings.trimSpace tenantID))).length) ↔
    Askable tenantID cutoff ∧
      ∀ row ∈ inventoryRows db.erp (Strings.toLower (Strings.trimSpace tenantID)), Exact row := by
  obtain ⟨log, followed⟩ : ∃ log, Followed db log :=
    reached ▸ (World.run_sound commands moves).followed
  have counted : (acceptedIn collation _ cutoff db).length = _ ↔ _ :=
    acceptedIn_length_iff followed settled past
  constructor
  · intro complete
    obtain ⟨source, loaded, -, -, all⟩ := complete [] (by simp)
    rw [loadedSource_served _ _ _ _ _ (by simp)] at loaded
    split_ifs at loaded with empty zero stored
    obtain rfl := Except.ok.inj loaded
    rw [sourceIn_count, Nat.cast_inj] at all
    exact ⟨⟨by simpa using empty, stored, zero⟩, counted.mp all⟩
  · rintro ⟨⟨given, stored, dated⟩, whole⟩ replies served
    have silent : (sourceIn collation order _ cutoff db).statusReasons = [] :=
      sourceIn_complete followed settled past whole order
    refine ⟨sourceIn collation order _ cutoff db, ?_, ?_, silent, ?_⟩
    · rw [loadedSource_served _ _ _ _ _ served, if_neg (by simpa using given), if_neg dated,
        if_pos stored]
    · rw [sourceIn_status, silent]
      rfl
    · rw [sourceIn_count, counted.mpr whole]

/-! ### Sample runs -/

/-- Noon of 1 February 2026. -/
def sampleCutoff : Int := 1769947200000000000

/-- Once every event is acknowledged, every event is settled. -/
theorem allSettled_of_acked {Index : Type} [Fintype Index] [DecidableEq Index]
    (commands : Index → Command) (moves : List (World.Move Index))
    (all : ∀ row ∈ ((World.start commands).run moves).db.erp.outbox.rows,
      row.eventID ∈ ((World.start commands).run moves).acked) (tenantID : Bytes) :
    AllSettled ((World.start commands).run moves).db tenantID := by
  intro row member
  have sound := World.run_sound commands moves
  obtain ⟨log, tracks⟩ := sound.tracks
  obtain ⟨inbox, found⟩ := tracks.received row.eventID (all row (List.mem_filter.mp member).1)
  obtain ⟨listed, -⟩ := Table.find?_eq_some_iff.mp found
  rw [found, Option.any_some]
  exact (settled_iff _).mpr ((sound.source.sourced.converged tracks all).settled inbox listed)

/-- The sample order is recorded before the cutoff at a full second. -/
theorem sampleOrder_recorded :
    (∀ row ∈ inventoryRows ((World.start sampleCommands).run orderMoves).db.erp sampleTenant,
      row.recordedAt * 1000 ≤ sampleCutoff) ∧
    (inventoryRows ((World.start sampleCommands).run orderMoves).db.erp sampleTenant).length = 1 ∧
    ∀ row ∈ inventoryRows ((World.start sampleCommands).run orderMoves).db.erp sampleTenant,
      Exact row := by
  rw [World.start_eq]
  decide +kernel

theorem complete_source_iff_sample :
    AllSettled ((World.start sampleCommands).run sampleMoves).db sampleTenant ∧
    AllPast ((World.start sampleCommands).run sampleMoves).db sampleTenant sampleCutoff ∧
    (inventoryRows ((World.start sampleCommands).run sampleMoves).db.erp sampleTenant).length = 1 ∧
    ∀ order replies, Reply.lost ∉ replies → ∃ source,
      loadedSource byteOrder order sampleTenant sampleCutoff
        ((World.start sampleCommands).run sampleMoves).db replies = .ok source ∧
      source.status = .complete ∧ source.statusReasons = [] ∧
      source.boundary.appliedEventCount = 1 := by
  have lower : Strings.toLower (Strings.trimSpace sampleTenant) = sampleTenant := by
    decide +kernel
  obtain ⟨past, single, exact_⟩ := sampleOrder_recorded
  obtain ⟨same, all⟩ := order_delivered sampleCommands sampleOrder_events
  rw [← same] at past single exact_
  have settled := allSettled_of_acked sampleCommands sampleMoves all sampleTenant
  refine ⟨settled, past, single, fun order replies served => ?_⟩
  have complete := (complete_source_iff sampleCommands sampleMoves _ rfl byteOrder order
    sampleTenant sampleCutoff (lower.symm ▸ settled) (lower.symm ▸ past)).mpr
    ⟨⟨by rw [lower]; decide, by rw [lower]; decide +kernel, by decide⟩,
      lower.symm ▸ exact_⟩ replies served
  rw [lower, single] at complete
  exact complete

/-- The sample order, recorded one nanosecond after a full second. -/
def preciseCommands : Fin 1 → Command := fun _ =>
  .acceptOrder { sampleOrder sampleEvent secondEvent 7 with
    recordedAt := ascii "2026-01-02T03:04:05.000000001Z" }

theorem preciseOrder_events :
    ((World.start preciseCommands).run orderMoves).db.erp.outbox.rows.map OutboxRow.eventID =
      [secondEvent] := by
  rw [World.start_eq]
  decide +kernel

/-- The event is recorded before the cutoff, and the column does not keep its time. -/
theorem preciseOrder_recorded :
    (inventoryRows ((World.start preciseCommands).run orderMoves).db.erp sampleTenant).map
      recordedInstant = [some 1767323045000000001] ∧
    (∀ row ∈ inventoryRows ((World.start preciseCommands).run orderMoves).db.erp sampleTenant,
      row.recordedAt ≤ microseconds sampleCutoff ∧ ¬ Exact row) := by
  rw [World.start_eq]
  decide +kernel

theorem loadedSource_sample (order : CompareOrder) (db : Database) :
    loadedSource byteOrder order sampleTenant sampleCutoff db [] =
      .ok (sourceIn byteOrder order sampleTenant sampleCutoff db) := by
  have lower : Strings.toLower (Strings.trimSpace sampleTenant) = sampleTenant := by
    decide +kernel
  rw [loadedSource_served _ _ _ _ _ (by simp), lower, if_neg (by decide), if_neg (by decide),
    if_pos (by decide +kernel)]

/-- The one event is applied and lies before the cutoff, and the source is incomplete. -/
theorem precise_time_incomplete :
    AllSettled ((World.start preciseCommands).run sampleMoves).db sampleTenant ∧
    (inventoryRows ((World.start preciseCommands).run sampleMoves).db.erp sampleTenant).map
      recordedInstant = [some 1767323045000000001] ∧ 1767323045000000001 ≤ sampleCutoff ∧
    ∀ order, ∃ source, loadedSource byteOrder order sampleTenant sampleCutoff
        ((World.start preciseCommands).run sampleMoves).db [] = .ok source ∧
      source.status = .incomplete ∧ source.boundary.appliedEventCount = 0 := by
  obtain ⟨recorded, inexact⟩ := preciseOrder_recorded
  obtain ⟨same, all⟩ := order_delivered preciseCommands preciseOrder_events
  have settled := allSettled_of_acked preciseCommands sampleMoves all sampleTenant
  rw [← same] at recorded inexact
  exact ⟨settled, recorded, by decide, fun order => ⟨_, loadedSource_sample order _,
    incomplete_of_inexact (World.run_sound preciseCommands sampleMoves) order recorded inexact⟩⟩

end Forecast

end SeshatOps
