/-
This file says when the replayed history of an item is stable under later events: whether
the observations up to a day are those that the events recorded up to that day give.

The replay goes through the events by version and files each quantity under the day of
`recorded_at`, which the caller of `AcceptOrder` chooses. The events up to a day are
replayed up to the first missing version. So the two histories agree on exactly those days
for which no later version was recorded on or before the day while an earlier one was not.
-/

import Mathlib.Data.List.TakeWhile
import SeshatOps.DateText
import SeshatOps.ForecastComplete
import SeshatOps.SortedReads

namespace SeshatOps

open Relational Event Source Sorting

/-- The UTC day of a clock. -/
def Time.Clock.date? (clock : Time.Clock) : Option Calendar.Date :=
  Calendar.Date.of? clock.year clock.month clock.day

/-- The year is read first. -/
theorem Time.readClock_year {strict : Bool} {bytes : Bytes} {clock : Time.Clock}
    (read : Time.readClock strict bytes = some clock) :
    ∃ rest, Time.readFixed 4 bytes = some (clock.year, rest) := by
  have next {First Last : Type} {part : Option First} {later : First → Option Last} {last : Last}
      (read : part.bind later = some last) : ∃ found, later found = some last :=
    (Option.bind_eq_some_iff.mp read).imp fun _ both => both.2
  obtain ⟨⟨year, rest⟩, digits, read⟩ := Option.bind_eq_some_iff.mp read
  obtain ⟨_, read⟩ := next read
  obtain ⟨⟨month, _⟩, read⟩ := next read
  obtain ⟨_, read⟩ := next read
  obtain ⟨⟨day, _⟩, read⟩ := next read
  obtain ⟨_, read⟩ := next read
  obtain ⟨⟨hour, _⟩, read⟩ := next read
  obtain ⟨_, read⟩ := next read
  obtain ⟨⟨minute, _⟩, read⟩ := next read
  obtain ⟨_, read⟩ := next read
  obtain ⟨⟨second, _⟩, read⟩ := next read
  obtain ⟨⟨nanosecond, _⟩, read⟩ := next read
  obtain ⟨-, fields⟩ := Option.ite_none_right_eq_some.mp read
  rw [← Option.some.inj fields]
  exact ⟨rest, digits⟩

/-- A clock that was read has a day, whose text is its own. -/
theorem Time.date_of_parseClock {value : Bytes} {clock : Time.Clock}
    (read : Time.parseClock value = some clock) :
    ∃ date, clock.date? = some date ∧ date.readable = true ∧ date.format = clock.dateText := by
  unfold Time.parseClock at read
  rw [Option.ite_none_right_eq_some, Option.filter_eq_some_iff] at read
  obtain ⟨-, fields, inside⟩ := read
  obtain ⟨rest, digits⟩ := Time.readClock_year fields
  have small := Time.readFixed_lt digits
  simp only [Time.Clock.inRange, Bool.and_eq_true, decide_eq_true_eq] at inside
  obtain ⟨⟨⟨⟨⟨⟨monthPos, monthLe⟩, dayPos⟩, dayLe⟩, -⟩, -⟩, -⟩ := inside
  have leap : Calendar.isLeap (clock.year : Int) = Time.isLeap clock.year := by
    unfold Calendar.isLeap Time.isLeap
    rw [Bool.eq_iff_iff]
    simp only [Bool.and_eq_true, Bool.or_eq_true, beq_iff_eq, bne_iff_ne]
    omega
  have sameDays : Calendar.daysIn clock.month (clock.year : Int) =
      Time.daysIn clock.month clock.year := by
    unfold Calendar.daysIn Time.daysIn
    rw [leap]
  have fits : 1 ≤ clock.month ∧ clock.month ≤ 12 ∧ 1 ≤ clock.day ∧
      clock.day ≤ Calendar.daysIn clock.month (clock.year : Int) :=
    ⟨monthPos, monthLe, dayPos, sameDays ▸ dayLe⟩
  have readable : Calendar.Date.readable
      ⟨clock.year, clock.month, clock.day, fits.1, fits.2.1, fits.2.2.1, fits.2.2.2⟩ = true := by
    rw [Calendar.Date.readable_iff]
    simp only
    omega
  refine ⟨⟨clock.year, clock.month, clock.day, fits.1, fits.2.1, fits.2.2.1, fits.2.2.2⟩,
    dif_pos fits, readable, ?_⟩
  rw [Calendar.Date.format_eq readable, Time.Clock.dateText]
  simp

namespace Forecast

/-! ### The history of an item -/

/-- The event of an outbox row, as the loader hands it to the replay. -/
def sourceEvent? (row : OutboxRow) : Option SourceEvent :=
  (parse row.eventBytes).toOption.bind fun env =>
    (Time.parseClock env.recordedAt).map fun clock => ⟨env, row.contentHash, clock⟩

/-- The events of an item that the source has written, by version. -/
def orderHistory (erp : Erp) (key : Bytes × Bytes) : List SourceEvent :=
  (itemEvents erp key).filterMap sourceEvent?

/-- The event is recorded on the day or before. -/
def SourceEvent.recordedBy (day : Calendar.Date) (event : SourceEvent) : Bool :=
  event.recordedAt.date?.any fun date => date ≤ day

/-- The observation is dated on the day or before. -/
def Observation.datedBy (day : Calendar.Date) (observation : Observation) : Bool :=
  (Calendar.parseDate observation.asOfDate).any fun date => date ≤ day

/-- The observations up to a day are those that the events up to the day give. -/
def PrefixConsistent (events : List SourceEvent) (day : Calendar.Date) : Prop :=
  (replayHistory events).filter (Observation.datedBy day) =
    replayHistory (events.filter (SourceEvent.recordedBy day))

instance (events : List SourceEvent) (day : Calendar.Date) :
    Decidable (PrefixConsistent events day) := inferInstanceAs (Decidable (_ = _))

/-- What the source's events of an item are like. -/
structure ItemHistory (key : Bytes × Bytes) (events : List SourceEvent) : Prop where
  consecutive : Consecutive (fun env => validate env = .ok ()) key (events.map SourceEvent.env)
  clock : ∀ event ∈ events, Time.parseClock event.env.recordedAt = some event.recordedAt

theorem map_filterMap_of_some {First Second Third : Type} {read : First → Option Second}
    {view : Second → Third} {look : First → Third} (list : List First)
    (found : ∀ element ∈ list, ∃ other, read element = some other ∧ view other = look element) :
    (list.filterMap read).map view = list.map look := by
  induction list with
  | nil => rfl
  | cons element rest hypothesis =>
    obtain ⟨other, isRead, same⟩ := found element (List.mem_cons_self ..)
    rw [List.filterMap_cons_some isRead, List.map_cons, List.map_cons, same,
      hypothesis fun element member => found element (List.mem_cons_of_mem _ member)]

/-- The event of a row of the source. -/
theorem sourceEvent?_of_mem {db : Database} (sourced : Sourced db.erp) {key : Bytes × Bytes}
    {row : OutboxRow} (member : row ∈ itemEvents db.erp key) :
    ∃ event quantity, sourceEvent? row = some event ∧
      validate event.env = .ok () ∧ Valid event.env (.quantityDecremented quantity) ∧
      Time.parseClock event.env.recordedAt = some event.recordedAt ∧
      event.env.item = key ∧ event.env.aggregateVersion = row.aggregateVersion ∧
      asQuantityDecremented event.env = decrementOf row := by
  have listed := member
  simp only [itemEvents, List.mem_filter, Bool.and_eq_true, beq_iff_eq] at listed
  obtain ⟨listed, ⟨tenant, type⟩, aggregate⟩ := listed
  obtain ⟨env, quantity, canonical, clock, records, read, -⟩ :=
    recorded_inventory sourced listed type
  obtain ⟨sameTenant, -, sameAggregate, sameVersion⟩ := records.columns
  refine ⟨⟨env, row.contentHash, clock⟩, quantity, ?_, records.validated, records.valid, read,
    Prod.ext (sameTenant.symm.trans tenant) (sameAggregate.symm.trans aggregate),
    sameVersion.symm, ?_⟩
  · rw [sourceEvent?, records.carries.parsed]
    simp [Except.toOption, read]
  · rw [records.decrementOf, asQuantityDecremented_of_valid records.valid]

theorem taken_take_succ {decrements : List QuantityDecremented} {index : Nat}
    {decrement : QuantityDecremented} (found : decrements[index]? = some decrement) :
    taken (decrements.take (index + 1)) =
      taken (decrements.take index) + decrement.quantityDecremented := by
  rw [List.take_add_one, found, Option.toList_some, taken_append]

section History

variable {db : Database} {key : Bytes × Bytes}

theorem mem_orderHistory (sourced : Sourced db.erp) {event : SourceEvent}
    (member : event ∈ orderHistory db.erp key) :
    ∃ quantity, validate event.env = .ok () ∧ Valid event.env (.quantityDecremented quantity) ∧
      Time.parseClock event.env.recordedAt = some event.recordedAt ∧ event.env.item = key := by
  obtain ⟨row, listed, isEvent⟩ := List.mem_filterMap.mp member
  obtain ⟨other, quantity, same, passed, valid, read, own, -⟩ :=
    sourceEvent?_of_mem sourced listed
  obtain rfl := Option.some.inj (same.symm.trans isEvent)
  exact ⟨quantity, passed, valid, read, own⟩

theorem orderHistory_versions (sourced : Sourced db.erp) :
    (orderHistory db.erp key).map (fun event => event.env.aggregateVersion) =
      (itemEvents db.erp key).map OutboxRow.aggregateVersion := by
  refine map_filterMap_of_some _ fun row listed => ?_
  obtain ⟨event, quantity, isEvent, -, -, -, -, version, -⟩ := sourceEvent?_of_mem sourced listed
  exact ⟨event, isEvent, version⟩

theorem orderHistory_decrements (sourced : Sourced db.erp) :
    (orderHistory db.erp key).map (fun event => asQuantityDecremented event.env) =
      (itemEvents db.erp key).map decrementOf := by
  refine map_filterMap_of_some _ fun row listed => ?_
  obtain ⟨event, quantity, isEvent, -, -, -, -, -, same⟩ := sourceEvent?_of_mem sourced listed
  exact ⟨event, isEvent, same⟩

/-- The decrements of a stocked item are those of its events. -/
theorem decrement_of_stock (sourced : Sourced db.erp) {initial : Int} {item : InventoryItem}
    {decrements : List QuantityDecremented} (stock : Stock initial key db.erp item decrements)
    {index : Nat} {event : SourceEvent}
    (found : (orderHistory db.erp key)[index]? = some event) :
    decrements[index]? = asQuantityDecremented event.env := by
  have same := congrArg (fun list => list[index]?)
    ((orderHistory_decrements sourced).trans stock.carried)
  simp only [List.getElem?_map, found, Option.map_some] at same
  obtain ⟨decrement, place, carried⟩ := Option.map_eq_some_iff.mp same.symm
  rw [place, ← carried]

theorem version_of_stock (sourced : Sourced db.erp) {initial : Int} {item : InventoryItem}
    {decrements : List QuantityDecremented} (stock : Stock initial key db.erp item decrements)
    {index : Nat} {event : SourceEvent}
    (found : (orderHistory db.erp key)[index]? = some event) :
    event.env.aggregateVersion = (index : Int) + 1 := by
  have same := congrArg (fun list => list[index]?)
    ((orderHistory_versions sourced).trans stock.versions)
  simp only [List.getElem?_map, found, Option.map_some] at same
  obtain ⟨number, place, version⟩ := Option.map_eq_some_iff.mp same.symm
  obtain ⟨inside, rfl⟩ := List.getElem?_eq_some_iff.mp place
  rw [← version, List.getElem_range]

/-- Each quantity is what the event before left. -/
theorem chained_of_stock (sourced : Sourced db.erp) {initial : Int} {item : InventoryItem}
    {decrements : List QuantityDecremented} (stock : Stock initial key db.erp item decrements)
    {index : Nat} {first second : SourceEvent}
    (foundFirst : (orderHistory db.erp key)[index]? = some first)
    (foundSecond : (orderHistory db.erp key)[index + 1]? = some second) :
    (asQuantityDecremented second.env).map QuantityDecremented.quantityBefore =
      (asQuantityDecremented first.env).map QuantityDecremented.quantityAfter := by
  obtain ⟨quantity, -, valid, -⟩ := mem_orderHistory sourced (List.mem_of_getElem? foundFirst)
  obtain ⟨later, -, laterValid, -⟩ := mem_orderHistory sourced (List.mem_of_getElem? foundSecond)
  have firstPlace := decrement_of_stock sourced stock foundFirst
  have secondPlace := decrement_of_stock sourced stock foundSecond
  rw [asQuantityDecremented_of_valid valid] at firstPlace ⊢
  rw [asQuantityDecremented_of_valid laterValid] at secondPlace ⊢
  rw [Option.map_some, Option.map_some, stock.before _ _ secondPlace, taken_take_succ firstPlace,
    stock.after _ (List.mem_of_getElem? firstPlace), stock.before _ _ firstPlace]
  congr 1
  omega

/-- The events of an item have contiguous versions and chained quantities. -/
theorem orderHistory_itemHistory (sourced : Sourced db.erp) (key : Bytes × Bytes) :
    ItemHistory key (orderHistory db.erp key) := by
  refine ⟨?_, fun event member => ?_⟩
  swap
  · obtain ⟨quantity, -, -, read, -⟩ := mem_orderHistory sourced member
    exact read
  have each : ∀ env ∈ (orderHistory db.erp key).map SourceEvent.env, ∃ quantity,
      validate env = .ok () ∧ Valid env (.quantityDecremented quantity) ∧ env.item = key := by
    intro env listed
    obtain ⟨event, member, rfl⟩ := List.mem_map.mp listed
    obtain ⟨quantity, passed, valid, -, own⟩ := mem_orderHistory sourced member
    exact ⟨quantity, passed, valid, own⟩
  cases found : db.erp.inventoryItems.find? key with
  | none =>
    rw [orderHistory, (sourced.unstocked key found).1]
    exact .nil
  | some item =>
    obtain ⟨initial, decrements, stock⟩ := sourced.stocked key item found
    refine ⟨fun env listed => ?_, fun env listed => ?_, fun env listed => ?_, fun env listed => ?_,
      fun env listed => ?_, fun index env place => ?_, fun index first second foundFirst
      foundSecond => ?_⟩
    · exact (each env listed).choose_spec.1
    · exact congrArg Prod.fst (each env listed).choose_spec.2.2
    · exact (each env listed).choose_spec.2.1.aggregateType
    · exact congrArg Prod.snd (each env listed).choose_spec.2.2
    · exact ⟨_, (each env listed).choose_spec.2.1⟩
    · rw [List.getElem?_map] at place
      obtain ⟨event, isEvent, rfl⟩ := Option.map_eq_some_iff.mp place
      exact version_of_stock sourced stock isEvent
    · rw [List.getElem?_map] at foundFirst foundSecond
      obtain ⟨early, isEarly, rfl⟩ := Option.map_eq_some_iff.mp foundFirst
      obtain ⟨late, isLate, rfl⟩ := Option.map_eq_some_iff.mp foundSecond
      exact chained_of_stock sourced stock isEarly isLate

end History

/-! ### The replay of some events -/

/-- The observation that an event leaves. -/
def SourceEvent.observed (item : Bytes) (event : SourceEvent) : Observation :=
  event.observation item (quantityLeft event.env)

/-- The observations of events, the last one of each day. -/
def observations (item : Bytes) (events : List SourceEvent) : Table Observation.asOfDate :=
  Table.empty.storeAll (events.map (SourceEvent.observed item))

/-- A log is observed event by event. -/
theorem byDate_of_consecutive {known : Envelope → Prop} {key : Bytes × Bytes}
    (series : List SourceEvent)
    (consecutive : Consecutive known key (series.map SourceEvent.env)) :
    (series.foldl (replayEvent key.2) {}).byDate = observations key.2 series := by
  induction series using List.reverseRecOn with
  | nil => rfl
  | append_singleton front record hypothesis =>
    rw [List.map_append, List.map_cons, List.map_nil] at consecutive
    obtain ⟨payload, valid⟩ := consecutive.valid record.env (by simp)
    have before := replayed_of_consecutive front consecutive.front
    have own : record.observation key.2 payload.quantityAfter = record.observed key.2 := by
      rw [SourceEvent.observed, quantityLeft, asQuantityDecremented_of_valid valid,
        Option.elim_some]
    rw [List.foldl_append, List.foldl_cons, List.foldl_nil, before.next consecutive valid,
      observations, List.map_append, List.map_cons, List.map_nil, Table.storeAll_concat,
      ← observations, ← hypothesis consecutive.front, own]

/-- An event of another version than the next one is not observed. -/
theorem replayEvent_skips {item : Bytes} {loop : ReplayLoop} {record : SourceEvent}
    (other : record.env.aggregateVersion ≠ loop.expected) :
    (replayEvent item loop record).byDate = loop.byDate ∧
      (replayEvent item loop record).expected = loop.expected := by
  unfold replayEvent
  cases asQuantityDecremented record.env with
  | none => exact ⟨rfl, rfl⟩
  | some payload =>
    simp only [if_pos other]
    exact ⟨trivial, trivial⟩

/-- Without the next version the replay stands still. -/
theorem replay_stuck {item : Bytes} (rest : List SourceEvent) (loop : ReplayLoop)
    (missing : ∀ record ∈ rest, record.env.aggregateVersion ≠ loop.expected) :
    (rest.foldl (replayEvent item) loop).byDate = loop.byDate := by
  induction rest generalizing loop with
  | nil => rfl
  | cons record rest hypothesis =>
    have other := missing record (List.mem_cons_self ..)
    have still : (replayEvent item loop record).expected = loop.expected :=
      (replayEvent_skips other).2
    rw [List.foldl_cons, hypothesis, (replayEvent_skips other).1]
    rw [still]
    exact fun other member => missing other (List.mem_cons_of_mem _ member)

theorem filter_eq_takeWhile_append {Element : Type} (kept : Element → Bool)
    (list : List Element) :
    list.filter kept = list.takeWhile kept ++ (list.dropWhile kept).filter kept := by
  have whole : (list.takeWhile kept).filter kept = list.takeWhile kept :=
    List.filter_eq_self.mpr fun element member => List.mem_takeWhile_imp member
  conv_lhs => rw [← List.takeWhile_append_dropWhile (p := kept) (l := list), List.filter_append]
  rw [whole]

section Replay

variable {key : Bytes × Bytes} {events : List SourceEvent}

theorem ItemHistory.own (history : ItemHistory key events) {event : SourceEvent}
    (member : event ∈ events) : event.env.aggregateID = key.2 :=
  history.consecutive.aggregateID _ (List.mem_map_of_mem member)

theorem ItemHistory.rising (history : ItemHistory key events) :
    events.Pairwise fun first second =>
      first.env.aggregateVersion < second.env.aggregateVersion := by
  have rising := history.consecutive.rising
  rwa [List.pairwise_map] at rising

theorem ItemHistory.seriesOf_filter (history : ItemHistory key events)
    (kept : SourceEvent → Bool) : seriesOf (events.filter kept) key.2 = events.filter kept := by
  have all : (events.filter kept).filter (fun record => record.env.aggregateID = key.2) =
      events.filter kept := by
    refine List.filter_eq_self.mpr fun event member => ?_
    exact decide_eq_true (history.own (List.mem_of_mem_filter member))
  rw [seriesOf, all]
  refine List.Pairwise.insertionSort_eq ((history.rising.filter kept).imp ?_)
  intro first second below
  rw [seriesLe, if_pos below.ne]
  exact decide_eq_true below.le

/-- The events that are kept are observed up to the first one that is not. -/
theorem ItemHistory.replaySeries_filter (history : ItemHistory key events)
    (kept : SourceEvent → Bool) :
    (replaySeries (events.filter kept) key.2).byDate =
      observations key.2 (events.takeWhile kept) := by
  have split := List.takeWhile_append_dropWhile (p := kept) (l := events)
  have consecutive := history.consecutive
  have rising := history.rising
  rw [← split, List.map_append] at consecutive
  rw [← split] at rising
  have front := replayed_of_consecutive _ consecutive.front
  rw [replaySeries, history.seriesOf_filter, filter_eq_takeWhile_append, List.foldl_append,
    replay_stuck, byDate_of_consecutive _ consecutive.front]
  intro record member
  rw [front.expected]
  cases back : events.dropWhile kept with
  | nil =>
    rw [back] at member
    cases member
  | cons first rest =>
    have stops : kept first = false := by
      have head := List.head?_dropWhile_not kept events
      rw [back, List.head?_cons] at head
      exact head
    rw [back] at member consecutive rising
    have version := consecutive.versions (events.takeWhile kept).length first.env (by simp)
    rw [List.filter_cons, stops, if_neg Bool.false_ne_true] at member
    have later := (List.pairwise_append.mp rising).2.1
    rw [List.pairwise_cons] at later
    have below := later.1 record (List.mem_of_mem_filter member)
    omega

theorem itemsOf_of_own {item : Bytes} (nonempty : events ≠ [])
    (own : ∀ event ∈ events, event.env.aggregateID = item) : itemsOf events = [item] := by
  have same : events.map (fun record => record.env.aggregateID) =
      List.replicate events.length item := by
    refine List.eq_replicate_iff.mpr ⟨List.length_map .., fun text member => ?_⟩
    obtain ⟨event, listed, rfl⟩ := List.mem_map.mp member
    exact own event listed
  rw [itemsOf, same, List.replicate_dedup (by simpa using nonempty)]
  rfl

/-- The columns by which a history is sorted. -/
def Observation.columns (observation : Observation) : List Bytes :=
  [observation.tenantID, observation.itemID, observation.asOfDate]

theorem ItemHistory.replayHistory_filter (history : ItemHistory key events)
    (kept : SourceEvent → Bool) :
    replayHistory (events.filter kept) =
      sortRows Observation.columns (observations key.2 (events.takeWhile kept)).rows := by
  by_cases none : events.filter kept = []
  · have first : events.takeWhile kept = [] := by
      refine List.eq_nil_iff_forall_not_mem.mpr fun event member => ?_
      have listed : event ∈ events.filter kept := List.mem_filter.mpr
        ⟨(List.takeWhile_prefix kept).subset member, List.mem_takeWhile_imp member⟩
      rw [none] at listed
      cases listed
    rw [none, first]
    rfl
  · have single := itemsOf_of_own none fun event member =>
      history.own (List.mem_of_mem_filter member)
    rw [replayHistory, single, List.flatMap_cons, List.flatMap_nil, List.append_nil,
      history.replaySeries_filter]
    rfl

theorem ItemHistory.replayHistory_eq (history : ItemHistory key events) :
    replayHistory events = sortRows Observation.columns (observations key.2 events).rows := by
  have all := history.replayHistory_filter fun _ => true
  rwa [List.filter_eq_self.mpr fun _ _ => rfl, List.takeWhile_eq_self_iff.mpr fun _ _ => rfl] at all

/-! ### Days -/

theorem ItemHistory.datedBy_observed (history : ItemHistory key events) {event : SourceEvent}
    (member : event ∈ events) (day : Calendar.Date) :
    (event.observed key.2).datedBy day = event.recordedBy day := by
  obtain ⟨date, isDate, readable, text⟩ := Time.date_of_parseClock (history.clock event member)
  rw [Observation.datedBy, SourceEvent.recordedBy, isDate, SourceEvent.observed,
    SourceEvent.observation, ← text, Calendar.parseDate_format readable]

theorem ItemHistory.quantity_lt (history : ItemHistory key events) :
    events.Pairwise fun first second =>
      (second.observed key.2).quantityOnHand < (first.observed key.2).quantityOnHand := by
  exact List.pairwise_map.mp (history.consecutive.falling history.consecutive.known)

/-- The observations up to a day are the last ones of the events up to the day. -/
theorem ItemHistory.mem_observations_filter (history : ItemHistory key events)
    (day : Calendar.Date) (observation : Observation) :
    observation ∈ (observations key.2 (events.filter (SourceEvent.recordedBy day))).rows ↔
      observation ∈ (observations key.2 events).rows ∧ observation.datedBy day = true := by
  have filtered : (events.filter (SourceEvent.recordedBy day)).map (SourceEvent.observed key.2) =
      (events.map (SourceEvent.observed key.2)).filter (Observation.datedBy day) := by
    rw [List.filter_map]
    refine congrArg _ (List.filter_congr fun event member => ?_)
    rw [Function.comp_apply, history.datedBy_observed member]
  rw [observations, filtered]
  refine Table.mem_storeAll_filter _ (fun first second same => ?_) _ observation
  rw [Observation.datedBy, same, ← Observation.datedBy]

/-- The observations of the events that are kept are not those of a shorter prefix. -/
theorem ItemHistory.nothing_behind (history : ItemHistory key events)
    (kept : SourceEvent → Bool)
    (same : ∀ observation, observation ∈ (observations key.2 (events.filter kept)).rows →
      observation ∈ (observations key.2 (events.takeWhile kept)).rows) :
    (events.dropWhile kept).filter kept = [] := by
  have split := List.takeWhile_append_dropWhile (p := kept) (l := events)
  refine List.eq_nil_iff_forall_not_mem.mpr fun event member => ?_
  have appended : observations key.2 (events.filter kept) =
      (observations key.2 (events.takeWhile kept)).storeAll
        (((events.dropWhile kept).filter kept).map (SourceEvent.observed key.2)) := by
    rw [filter_eq_takeWhile_append, observations, List.map_append, Table.storeAll,
      List.foldl_append]
    rfl
  -- The last observation of the event's day comes from behind the first event that is left out.
  obtain ⟨observation, stored, sameDay⟩ := Table.exists_mem_storeAll
    (observations key.2 (events.takeWhile kept))
    (List.mem_map_of_mem (f := SourceEvent.observed key.2) member)
  have late : observation ∈
      ((events.dropWhile kept).filter kept).map (SourceEvent.observed key.2) := by
    rcases Table.mem_storeAll stored with late | ⟨-, untouched⟩
    · exact late
    · exact absurd sameDay.symm
        (untouched _ (List.mem_map_of_mem (f := SourceEvent.observed key.2) member))
  have early : observation ∈ (events.takeWhile kept).map (SourceEvent.observed key.2) := by
    rcases Table.mem_storeAll (same observation (appended ▸ stored)) with early | ⟨none, -⟩
    · exact early
    · cases none
  obtain ⟨second, secondMember, rfl⟩ := List.mem_map.mp late
  obtain ⟨first, firstMember, equal⟩ := List.mem_map.mp early
  have decreasing := history.quantity_lt
  rw [← split] at decreasing
  have below := (List.pairwise_append.mp decreasing).2.2 first firstMember second
    (List.mem_of_mem_filter secondMember)
  rw [equal] at below
  exact lt_irrefl _ below

/-- No event that is left out comes before one that is kept. -/
theorem pairwise_kept_iff {Element : Type} (kept : Element → Bool) (list : List Element) :
    (list.Pairwise fun first second => kept second = true → kept first = true) ↔
      (list.dropWhile kept).filter kept = [] := by
  induction list with
  | nil => simp
  | cons head rest hypothesis =>
    rw [List.pairwise_cons, hypothesis, List.dropWhile_cons]
    cases isKept : kept head with
    | true => simp
    | false =>
      rw [if_neg Bool.false_ne_true, List.filter_cons, isKept, if_neg Bool.false_ne_true]
      simp only [Bool.false_eq_true, imp_false, Bool.not_eq_true, List.filter_eq_nil_iff]
      refine ⟨fun both => both.1, fun none => ⟨none, fun element member => ?_⟩⟩
      exact none element ((List.dropWhile_suffix kept).subset member)

theorem ItemHistory.prefixConsistent_iff (history : ItemHistory key events)
    (day : Calendar.Date) :
    PrefixConsistent events day ↔ events.Pairwise fun first second =>
      second.recordedBy day = true → first.recordedBy day = true := by
  rw [PrefixConsistent, history.replayHistory_eq, history.replayHistory_filter, pairwise_kept_iff]
  constructor
  · intro same
    refine history.nothing_behind _ fun observation member => ?_
    rw [history.mem_observations_filter] at member
    have listed : observation ∈ (sortRows Observation.columns
        (observations key.2 events).rows).filter (Observation.datedBy day) :=
      List.mem_filter.mpr ⟨(List.mem_insertionSort _).mpr member.1, member.2⟩
    rw [same] at listed
    exact (List.mem_insertionSort _).mp listed
  · intro none
    have first : events.takeWhile (SourceEvent.recordedBy day) =
        events.filter (SourceEvent.recordedBy day) := by
      rw [filter_eq_takeWhile_append, none, List.append_nil]
    rw [first]
    have wide : ∀ observation : Observation, observation.columns.length = 3 := fun _ => rfl
    refine filter_sortRows wide _ (List.Nodup.of_map _ (observations key.2 events).unique)
      (List.Nodup.of_map _ (Table.unique _)) (history.mem_observations_filter day) ?_
    intro observation member other otherMember same
    refine Table.eq_of_key _ member otherMember ?_
    exact congrArg (fun columns => columns.getD 2 []) same

end Replay

/-! ### The main result -/

/-- The observations of an item up to a day are those of its events up to the day exactly when
no event recorded after the day precedes one recorded on it or before. -/
theorem replay_prefix_consistent_iff {Index : Type} [Fintype Index] [DecidableEq Index]
    (commands : Index → Command) (moves : List (World.Move Index)) (key : Bytes × Bytes)
    (day : Calendar.Date) :
    PrefixConsistent (orderHistory ((World.start commands).run moves).db.erp key) day ↔
      (orderHistory ((World.start commands).run moves).db.erp key).Pairwise fun first second =>
        second.recordedBy day = true → first.recordedBy day = true :=
  (orderHistory_itemHistory (World.run_sourced commands moves) key).prefixConsistent_iff day

/-- Two orders of the sample item, the second one recorded a day before the first. -/
def backdatedCommands : Bool → Command
  | false => .acceptOrder { sampleOrder sampleEvent secondEvent 7 with
      recordedAt := ascii "2026-01-03T00:00:00Z" }
  | true => .acceptOrder { sampleOrder thirdEvent thirdEvent 2 with
      recordedAt := ascii "2026-01-02T00:00:00Z" }

/-- The item is seeded with ten pieces, and the orders are accepted one after the other. -/
def backdatedMoves : List (World.Move Bool) :=
  .source (.seed sampleTenant sampleItem 10) ::
    (List.replicate 7 (.source (.advance false (.served 0))) ++
      List.replicate 7 (.source (.advance true (.served 0))))

def secondOfJanuary : Calendar.Date := (Calendar.Date.of? 2026 1 2).get rfl

set_option maxRecDepth 20000 in
/-- The observation of 2 January comes from the second version, which the replay of the events
recorded by then never reaches. -/
theorem earlier_day_not_replayed :
    ((replayHistory (orderHistory
        ((World.start backdatedCommands).run backdatedMoves).db.erp
        (sampleTenant, sampleItem))).filter (Observation.datedBy secondOfJanuary) =
      [⟨sampleTenant, sampleItem, ascii "2026-01-02", 1⟩] ∧
    replayHistory ((orderHistory ((World.start backdatedCommands).run backdatedMoves).db.erp
      (sampleTenant, sampleItem)).filter (SourceEvent.recordedBy secondOfJanuary)) = []) ∧
    ¬PrefixConsistent (orderHistory ((World.start backdatedCommands).run backdatedMoves).db.erp
      (sampleTenant, sampleItem)) secondOfJanuary := by
  refine (and_iff_left_of_imp ?_).mpr ?_
  · rintro ⟨all, early⟩ same
    rw [PrefixConsistent, all, early] at same
    cases same
  · rw [World.start_eq]
    decide +kernel

end Forecast

end SeshatOps
