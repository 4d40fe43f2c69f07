/-
This file compares what `LoadTenantForecastSourceAtCutoff` returns before and after further
orders that are recorded after the cutoff.

The three queries leave the further events out, as long as they lie in a later microsecond
than the cutoff. The projection has no history, though: it shows the further orders, and
the comparison with the replay up to the cutoff sees the difference. The result stays the
same only where the projection of the ordered item was behind the cutoff before. No second
item may be so: `compareForecastProjection` ranges over maps, each time in an order of its
own, and appends the reasons that it finds.
-/

import SeshatOps.ForecastComplete
import SeshatOps.Onward
import SeshatOps.SortedReads
import SeshatOps.Stock

namespace SeshatOps

open Relational Event Source

namespace Forecast

/-! ### A later state -/

/-- A state of the source and the platform, and one that went on from it. -/
structure Continues (before after : Database) (log laterLog : Log) : Prop where
  earlier : Followed before log
  later : Followed after laterLog
  keeps : KeepsEvents before.erp after.erp
  spares : Spares before.erp.announced log before.platform laterLog after.platform

/-- The events that the later state has and the earlier one does not. -/
def furtherRows (before after : Database) : List OutboxRow :=
  after.erp.outbox.rows.filter fun row => row ∉ before.erp.outbox.rows

def Further (before after : Database) (row : OutboxRow) : Prop :=
  row ∈ after.erp.outbox.rows ∧ row ∉ before.erp.outbox.rows

theorem mem_furtherRows {before after : Database} {row : OutboxRow} :
    row ∈ furtherRows before after ↔ Further before after row := by
  simp [furtherRows, Further]

/-- An inventory order of a tenant that is recorded after a cutoff. -/
def LaterOrder (tenantID : Bytes) (cutoff : Int) (row : OutboxRow) : Prop :=
  row.tenantID = tenantID ∧ row.aggregateType = aggregateTypeInventoryItem ∧
    ((recordedInstant row).any fun instant => cutoff < instant) = true

instance (tenantID : Bytes) (cutoff : Int) (row : OutboxRow) :
    Decidable (LaterOrder tenantID cutoff row) := inferInstanceAs (Decidable (_ ∧ _))

/-- The event of a row is applied. -/
def Settled (db : Database) (row : OutboxRow) : Prop :=
  ((db.platform.inbox.find? row.eventID).any fun inbox => inbox.disposition.settled) = true

instance (db : Database) (row : OutboxRow) : Decidable (Settled db row) :=
  inferInstanceAs (Decidable (_ = _))

section Reading

variable {before after : Database} {log laterLog : Log} {tenantID : Bytes} {cutoff : Int}
  {collation : Collation}

/-- The query returns the same rows when all further events lie beyond the cutoff. -/
theorem Continues.eventRows (continues : Continues before after log laterLog)
    (beyond : ∀ row, Further before after row → microseconds cutoff < row.recordedAt) :
    eventRows collation tenantID cutoff after = eventRows collation tenantID cutoff before := by
  have distinct (db : Database) (keep : OutboxRow → Bool) :
      (db.erp.outbox.rows.filter keep).Nodup := (List.Nodup.of_map _ db.erp.outbox.unique).filter _
  refine (congrArg (List.map _) (collation.sorts_precedes.insertionSort_congr (distinct after _)
    (distinct before _) (fun row => ?_) ?_)).trans (List.map_congr_left fun row member => ?_)
  · simp only [List.mem_filter, decide_eq_true_eq]
    constructor
    · rintro ⟨listed, fits⟩
      refine ⟨?_, fits⟩
      by_contra isNew
      have late := beyond row ⟨listed, isNew⟩
      omega
    · rintro ⟨listed, fits⟩
      exact ⟨continues.keeps row listed, fits⟩
  · intro row member other otherMember early late
    rw [List.mem_filter] at member otherMember
    exact after.erp.outbox.eq_of_key member.1 otherMember.1 (collation.precedes_tied early late)
  · rw [List.mem_insertionSort, List.mem_filter] at member
    rw [continues.spares.inbox row.eventID ⟨row, member.1, rfl⟩]

/-- So does the query of the inbox. -/
theorem Continues.mem_inboxRows (continues : Continues before after log laterLog)
    (beyond : ∀ row, Further before after row → microseconds cutoff < row.recordedAt)
    (inbox : InboxRow) :
    inbox ∈ inboxRows tenantID cutoff after ↔ inbox ∈ inboxRows tenantID cutoff before := by
  simp only [inboxRows, List.mem_filter, decide_eq_true_eq]
  constructor
  · rintro ⟨listed, tenant, type, past⟩
    obtain ⟨env, payload, canonical, backs⟩ := continues.later.backed inbox listed
    obtain ⟨row, rowListed, rowPayload, rowBytes, records⟩ := backs.known
    have sameID : row.eventID = inbox.eventID := records.eventID.trans backs.of.eventID.symm
    have rowTenant : row.tenantID = tenantID :=
      records.columns.1.trans (backs.of.tenantID.symm.trans tenant)
    rw [Table.find?_eq_some_iff.mpr ⟨rowListed, sameID⟩,
      Option.filter_some_pos (by simpa using rowTenant), Option.all_some, decide_eq_true_eq] at past
    have isOld : row ∈ before.erp.outbox.rows := by
      by_contra isNew
      have late := beyond row ⟨rowListed, isNew⟩
      omega
    have kept := continues.spares.inbox inbox.eventID ⟨row, isOld, sameID⟩
    rw [Table.find?_eq_some_iff.mpr ⟨listed, rfl⟩] at kept
    refine ⟨(Table.find?_eq_some_iff.mp kept.symm).1, tenant, type, ?_⟩
    rw [Table.find?_eq_some_iff.mpr ⟨isOld, sameID⟩,
      Option.filter_some_pos (by simpa using rowTenant), Option.all_some, decide_eq_true_eq]
    exact past
  · rintro ⟨listed, tenant, type, past⟩
    obtain ⟨env, payload, canonical, backs⟩ := continues.earlier.backed inbox listed
    obtain ⟨row, rowListed, rowPayload, rowBytes, records⟩ := backs.known
    have sameID : row.eventID = inbox.eventID := records.eventID.trans backs.of.eventID.symm
    have kept := continues.spares.inbox inbox.eventID ⟨row, rowListed, sameID⟩
    rw [Table.find?_eq_some_iff.mpr ⟨listed, rfl⟩] at kept
    refine ⟨(Table.find?_eq_some_iff.mp kept).1, tenant, type, ?_⟩
    rw [Table.find?_eq_some_iff.mpr ⟨rowListed, sameID⟩] at past
    rw [Table.find?_eq_some_iff.mpr ⟨continues.keeps row rowListed, sameID⟩]
    exact past

theorem uniqueSortedReasons_congr {first second : List Bytes}
    (same : ∀ reason, reason ∈ first ↔ reason ∈ second) :
    uniqueSortedReasons first = uniqueSortedReasons second := by
  refine sortRows_congr (fun _ => (List.length_singleton : _ = 1)) (List.nodup_dedup _)
    (List.nodup_dedup _) ?_ ?_
  · intro reason
    simp only [List.mem_dedup, List.mem_filter, same]
  · intro reason _ other _ equal
    exact List.singleton_injective equal

end Reading

/-! ### The comparison -/

/-- What is compared of two results. -/
def ForecastSource.seen (source : ForecastSource) :
    List Observation × SnapshotStatus × List Bytes :=
  (source.history, source.status, source.statusReasons)

section Comparing

variable {db before after : Database} {log laterLog : Log} {tenantID item other : Bytes}
  {cutoff : Int} {collation : Collation} {order later : CompareOrder} {events : List SourceEvent}

/-- The comparison of a state's projection with its accepted events. -/
def comparedIn (collation : Collation) (order : CompareOrder) (tenantID : Bytes) (db : Database)
    (events : List SourceEvent) : List Bytes :=
  compareProjection order (projectionMap (projectionRows collation tenantID db)) events

/-- When the further events lie beyond the cutoff, only the comparison can differ. -/
theorem Continues.seen_iff (continues : Continues before after log laterLog)
    (beyond : ∀ row, Further before after row → microseconds cutoff < row.recordedAt) :
    (sourceIn collation later tenantID cutoff after).seen =
        (sourceIn collation order tenantID cutoff before).seen ↔
      comparedIn collation later tenantID after
          (acceptedIn collation tenantID cutoff before) =
        comparedIn collation order tenantID before
          (acceptedIn collation tenantID cutoff before) := by
  have accepted : acceptedIn collation tenantID cutoff after =
      acceptedIn collation tenantID cutoff before := by
    rw [acceptedIn, acceptedIn, continues.eventRows beyond]
  have refused : refusedIn collation tenantID cutoff after =
      refusedIn collation tenantID cutoff before := by
    rw [refusedIn, refusedIn, continues.eventRows beyond]
  have others : ∀ known replay, uniqueSortedReasons (refusedIn collation tenantID cutoff before ++
        (inboxRows tenantID cutoff after).flatMap (inboxReasons known) ++ replay) =
      uniqueSortedReasons (refusedIn collation tenantID cutoff before ++
        (inboxRows tenantID cutoff before).flatMap (inboxReasons known) ++ replay) := by
    intro known replay
    refine uniqueSortedReasons_congr fun reason => ?_
    simp only [List.mem_append, List.mem_flatMap, continues.mem_inboxRows beyond]
  simp only [ForecastSource.seen, sourceIn, sourceOf, loadEvents_in, accepted, refused, others,
    Prod.mk.injEq, true_and]
  constructor
  · rintro ⟨-, same⟩
    exact List.append_cancel_left same
  · intro same
    simp only [comparedIn] at same
    rw [same]
    exact ⟨rfl, rfl⟩

/-- What the comparison tells of an item. -/
def told (tenantID : Bytes) (db : Database) (events : List SourceEvent) (item : Bytes) :
    List Bytes :=
  ((db.platform.projection.find? (tenantID, item)).map
    (projectionReasons (replayState events item))).getD []

/-- Every replayed item is projected. -/
def ShowsReplayed (tenantID : Bytes) (db : Database) (events : List SourceEvent) : Prop :=
  ∀ item, (replayState events item).isSome = true →
    (db.platform.projection.find? (tenantID, item)).isSome = true

/-- The comparison lists what it tells of each projected item, in the order of its first loop. -/
theorem comparedIn_eq (followed : Followed db log)
    (shows : ShowsReplayed tenantID db events) :
    ∃ keys, (∀ item, told tenantID db events item ≠ [] → item ∈ keys) ∧
      ∀ order, comparedIn collation order tenantID db events =
        (order.projection.visit keys).flatMap (told tenantID db events) := by
  have found : ∀ item, (projectionMap (projectionRows collation tenantID db)).find? item = _ :=
    find?_projectionMap collation followed
  refine ⟨(projectionMap (projectionRows collation tenantID db)).rows.map ProjectionRow.itemID,
    fun item tells => ?_, fun order => ?_⟩
  · cases shown : db.platform.projection.find? (tenantID, item) with
    | none =>
      rw [told, shown] at tells
      exact absurd rfl tells
    | some row =>
      obtain ⟨member, own⟩ := Table.find?_eq_some_iff.mp ((found item).trans shown)
      exact List.mem_map.mpr ⟨row, member, own⟩
  · have silent : ∀ keys : List Bytes, (∀ item ∈ keys, (replayState events item).isSome = true) →
        (keys.flatMap fun item =>
          if (db.platform.projection.find? (tenantID, item)).isSome then [] else
            [ascii "incomplete:replayed item missing projection " ++ item]) = [] :=
      fun keys replayed => List.flatMap_eq_nil_iff.mpr fun item member =>
        if_pos (shows item (replayed item member))
    simp only [comparedIn, compareProjection, found]
    rw [silent _ fun item member =>
      (List.mem_filter.mp ((order.replayed.mem_visit _ _).mp member)).2, List.append_nil]
    rfl

theorem mem_comparedIn (followed : Followed db log)
    (shows : ShowsReplayed tenantID db events) {reason : Bytes} :
    reason ∈ comparedIn collation order tenantID db events ↔
      ∃ item, reason ∈ told tenantID db events item := by
  obtain ⟨keys, covers, compared⟩ := comparedIn_eq followed shows
  rw [compared, List.mem_flatMap]
  exact exists_congr fun item => ⟨And.right, fun listed =>
    ⟨(order.projection.mem_visit _ _).mpr (covers item (List.ne_nil_of_mem listed)), listed⟩⟩

theorem told_eq_nil : told tenantID db events item = [] ↔
    ∀ row, db.platform.projection.find? (tenantID, item) = some row →
      (replayState events item).map ReplayState.reached = some (reachedBy row) := by
  cases shown : db.platform.projection.find? (tenantID, item) with
  | none => simp [told, shown]
  | some row => simp [told, shown, projectionReasons_eq_nil]

/-- Where it tells of one item at most, the comparison is what it tells of that item. -/
theorem comparedIn_single (followed : Followed db log)
    (shows : ShowsReplayed tenantID db events)
    (others : ∀ other, other ≠ item → told tenantID db events other = []) :
    comparedIn collation order tenantID db events = told tenantID db events item := by
  obtain ⟨keys, covers, compared⟩ := comparedIn_eq followed shows
  rw [compared]
  by_cases silent : told tenantID db events item = []
  · rw [silent]
    refine List.flatMap_eq_nil_iff.mpr fun other _ => ?_
    by_cases own : other = item
    · rw [own, silent]
    · exact others other own
  · have distinct := order.projection.nodup_visit keys
    obtain ⟨front, back, split⟩ :=
      List.append_of_mem ((order.projection.mem_visit keys item).mpr (covers item silent))
    rw [split, List.nodup_append] at distinct
    obtain ⟨-, rest, apart⟩ := distinct
    rw [split, List.flatMap_append, List.flatMap_cons, List.flatMap_eq_nil_iff.mpr,
      List.flatMap_eq_nil_iff.mpr, List.nil_append, List.append_nil]
    · exact fun other member => others other fun same =>
        (List.nodup_cons.mp rest).1 (same ▸ member)
    · exact fun other member => others other (apart other member item List.mem_cons_self)

/-- Go may start a loop with any key. -/
theorem exists_startsWith {Key : Type} [DecidableEq Key] (first : Key) :
    ∃ ranging : Ranging Key, ∀ keys, first ∈ keys → ∃ rest, ranging.visit keys = first :: rest := by
  refine ⟨⟨fun keys => if first ∈ keys then first :: (keys.erase first).toList else keys.toList,
    fun keys => ?_, fun keys key => ?_⟩, fun keys member =>
    ⟨_, if_pos (List.mem_toFinset.mpr member)⟩⟩
  · split_ifs
    · simp [Finset.nodup_toList]
    · exact keys.nodup_toList
  · split_ifs with member
    · by_cases own : key = first <;> simp [own, member]
    · exact Finset.mem_toList

end Comparing

/-! ### What a replay may say -/

/-- The complaints of the replay, up to what they name. -/
def replayComplaints : List Bytes :=
  [ascii "incomplete:inventory payload mismatch ", ascii "incomplete:aggregate version gap ",
    ascii "incomplete:quantity transition mismatch ",
    ascii "incomplete:quantity arithmetic mismatch "]

/-- An event is taken or complained about. -/
theorem replayEvent_cases (item : Bytes) (loop : ReplayLoop) (record : SourceEvent) :
    ((replayEvent item loop record).lastValid = some
        ⟨record.observation item (quantityLeft record.env), record.env.aggregateVersion⟩ ∧
      (replayEvent item loop record).reasons = loop.reasons ∧
      record.env.aggregateVersion = loop.expected ∧
      (replayEvent item loop record).expected = loop.expected + 1) ∨
    ((replayEvent item loop record).lastValid = loop.lastValid ∧
      (replayEvent item loop record).expected = loop.expected ∧
      ∃ complaint ∈ replayComplaints, ∃ rest,
        (replayEvent item loop record).reasons = loop.reasons ++ [complaint ++ rest]) := by
  unfold replayEvent
  cases carried : asQuantityDecremented record.env with
  | none => exact Or.inr ⟨rfl, rfl, _, by simp [replayComplaints], _, rfl⟩
  | some payload =>
    simp only
    split_ifs with version transition arithmetic first
    · refine Or.inr ⟨rfl, rfl, ascii "incomplete:aggregate version gap ",
        by simp [replayComplaints], item ++ (ascii " expected " ++ (Json.formatInt loop.expected ++
          (ascii " received " ++ Json.formatInt record.env.aggregateVersion))), ?_⟩
      simp only [List.append_assoc]
    · exact Or.inr ⟨rfl, rfl, _, by simp [replayComplaints], _, rfl⟩
    · exact Or.inr ⟨rfl, rfl, _, by simp [replayComplaints], _, rfl⟩
    · exact Or.inr ⟨rfl, rfl, _, by simp [replayComplaints], _, rfl⟩
    · exact Or.inl ⟨by rw [quantityLeft, carried]; rfl, rfl, not_not.mp version, rfl⟩

/-- What the loop of the replay has after a series: it took one event of each version up to the
last one. -/
structure Said (series : List SourceEvent) (loop : ReplayLoop) : Prop where
  lastValid : ∀ state, loop.lastValid = some state → state.version + 1 = loop.expected ∧
    ∃ record ∈ series, state.reached = (quantityLeft record.env, record.env.aggregateVersion)
  taken : ∀ version, 1 ≤ version → version < loop.expected → ∃ record ∈ series,
    record.env.aggregateVersion = version
  reasons : ∀ reason ∈ loop.reasons, ∃ complaint ∈ replayComplaints, ∃ rest,
    reason = complaint ++ rest

theorem said_of_series (item : Bytes) (series : List SourceEvent) :
    Said series (series.foldl (replayEvent item) {}) := by
  induction series using List.reverseRecOn with
  | nil => exact ⟨by simp, fun version _ below => absurd below (by simp; omega), by simp⟩
  | append_singleton front record hypothesis =>
    rw [List.foldl_append, List.foldl_cons, List.foldl_nil]
    have earlier : ∀ version, 1 ≤ version → version < (front.foldl (replayEvent item) {}).expected →
        ∃ record' ∈ front ++ [record], record'.env.aggregateVersion = version := by
      intro version positive below
      obtain ⟨found, member, own⟩ := hypothesis.taken version positive below
      exact ⟨found, List.mem_append_left _ member, own⟩
    rcases replayEvent_cases item (front.foldl (replayEvent item) {}) record with
      ⟨taken, silent, next, expected⟩ | ⟨kept, expected, complaint, listed, rest, added⟩
    · refine ⟨fun state last => ?_, fun version positive below => ?_, silent ▸ hypothesis.reasons⟩
      · rw [taken, Option.some.injEq] at last
        exact ⟨by rw [expected, ← next, ← last], record, by simp, last ▸ rfl⟩
      · rw [expected] at below
        by_cases own : version = record.env.aggregateVersion
        · exact ⟨record, by simp, own.symm⟩
        · exact earlier version positive (by omega)
    · refine ⟨fun state last => ?_, expected ▸ earlier, fun reason member => ?_⟩
      · obtain ⟨version, found, member, rest⟩ := hypothesis.lastValid state (kept ▸ last)
        exact ⟨expected ▸ version, found, List.mem_append_left _ member, rest⟩
      · rw [added, List.mem_append, List.mem_singleton] at member
        rcases member with old | rfl
        · exact hypothesis.reasons reason old
        · exact ⟨complaint, listed, rest, rfl⟩

/-! ### Reasons by their texts -/

/-- Texts that differ early on stay different. -/
theorem append_ne_append {first second : Bytes} (length : Nat)
    (apart : length ≤ first.length ∧ length ≤ second.length ∧
      first.take length ≠ second.take length) (rest others : Bytes) :
    first ++ rest ≠ second ++ others := by
  intro same
  have taken := congrArg (List.take length) same
  rw [List.take_append_of_le_length apart.1, List.take_append_of_le_length apart.2.1] at taken
  exact apart.2.2 taken

/-- What the comparison tells of an item, up to its name. -/
def comparisonTexts : List Bytes :=
  [ascii "incomplete:projection item missing retained history ",
    ascii "incomplete:projection quantity differs from replay ",
    ascii "incomplete:projection version differs from replay "]

section Texts

variable {db after : Database} {tenantID item other : Bytes} {events further : List SourceEvent}
  {reason : Bytes}

theorem told_text (listed : reason ∈ told tenantID db events item) :
    ∃ text ∈ comparisonTexts, reason = text ++ item := by
  cases shown : db.platform.projection.find? (tenantID, item) with
  | none =>
    rw [told, shown] at listed
    cases listed
  | some row =>
    obtain rfl : row.itemID = item :=
      congrArg Prod.snd (Table.find?_eq_some_iff.mp shown).2
    rw [told, shown, Option.map_some, Option.getD_some] at listed
    cases replayed : replayState events row.itemID with
    | none =>
      rw [replayed, projectionReasons, List.mem_singleton] at listed
      exact ⟨_, by simp [comparisonTexts], listed⟩
    | some state =>
      rw [replayed, projectionReasons, List.mem_append] at listed
      split_ifs at listed <;> simp only [List.not_mem_nil, List.mem_singleton, or_false, false_or]
        at listed
      · rcases listed with quantity | version
        · exact ⟨_, by simp [comparisonTexts], quantity⟩
        · exact ⟨_, by simp [comparisonTexts], version⟩
      · exact ⟨_, by simp [comparisonTexts], listed⟩
      · exact ⟨_, by simp [comparisonTexts], listed⟩

/-- A reason of the comparison names its item. -/
theorem told_item (first : reason ∈ told tenantID db events item)
    (second : reason ∈ told tenantID after further other) : item = other := by
  obtain ⟨text, textListed, rfl⟩ := told_text first
  obtain ⟨otherText, otherListed, same⟩ := told_text second
  have apart : ∀ text ∈ comparisonTexts, ∀ other ∈ comparisonTexts, text ≠ other →
      24 ≤ text.length ∧ 24 ≤ other.length ∧ text.take 24 ≠ other.take 24 := by
    decide +kernel
  by_cases sameText : text = otherText
  · exact List.append_cancel_left (sameText ▸ same)
  · exact absurd same
      (append_ne_append 24 (apart text textListed otherText otherListed sameText) _ _)

/-- If the comparison is the same in every order of its loops, it tells of one item at most. -/
theorem told_once {log : Log} {collation : Collation}
    (followed : Followed db log)
    (shows : ShowsReplayed tenantID db events)
    (same : ∀ order later, comparedIn collation order tenantID db events =
      comparedIn collation later tenantID db events)
    (first : told tenantID db events item ≠ []) (second : told tenantID db events other ≠ []) :
    item = other := by
  obtain ⟨keys, covers, compared⟩ := comparedIn_eq followed shows
  obtain ⟨ranging, starts⟩ := exists_startsWith item
  obtain ⟨otherRanging, otherStarts⟩ := exists_startsWith other
  obtain ⟨rest, visits⟩ := starts keys (covers item first)
  obtain ⟨otherRest, otherVisits⟩ := otherStarts keys (covers other second)
  have same := same ⟨ranging, ranging⟩ ⟨otherRanging, otherRanging⟩
  rw [compared, compared, visits, otherVisits, List.flatMap_cons, List.flatMap_cons] at same
  obtain ⟨reason, reasons, tells⟩ := List.exists_cons_of_ne_nil first
  obtain ⟨otherReason, otherReasons, otherTells⟩ := List.exists_cons_of_ne_nil second
  rw [tells, otherTells, List.cons_append, List.cons_append, List.cons.injEq] at same
  exact told_item (by rw [tells, same.1]; exact List.mem_cons_self)
    (by rw [otherTells]; exact List.mem_cons_self)

end Texts

/-! ### Items that went on -/

section Items

variable {db before after : Database} {log laterLog : Log} {tenantID item : Bytes} {cutoff : Int}
  {collation : Collation}

/-- The end of a replay is an event of the log. -/
theorem replayState_mem (followed : Followed db log) {state : ReplayState}
    (replayed : replayState (acceptedIn collation tenantID cutoff db) item = some state) :
    ∃ env ∈ log (tenantID, item), state.reached = (quantityLeft env, env.aggregateVersion) := by
  rw [replayState_eq] at replayed
  obtain ⟨-, record, member, reached⟩ :=
    (said_of_series item _).lastValid state replayed
  obtain ⟨accepted, rfl⟩ := mem_seriesOf.mp member
  exact ⟨record.env, mem_log_of_accepted followed accepted, reached⟩

/-- The row of an item shows the last event of its log. -/
theorem row_of_log (followed : Followed db log) {key : Bytes × Bytes}
    {row : ProjectionRow} (found : db.platform.projection.find? key = some row) :
    row.aggregateVersion = (log key).length ∧ row.itemID = key.2 ∧
      ∃ env ∈ log key, row.quantityOnHand = quantityLeft env ∧
        row.aggregateVersion = env.aggregateVersion := by
  have consecutive := followed.grounded.applied key
  have length := followed.grounded.projectedVersion_eq key
  rw [projectedVersion, found, Option.elim_some] at length
  rw [followed.grounded.projection] at found
  rcases List.eq_nil_or_concat (log key) with none | ⟨front, last, split⟩
  · rw [none] at found
    cases found
  · rw [List.concat_eq_append] at split
    have member : last ∈ log key := by simp [split]
    obtain ⟨quantity, valid⟩ := consecutive.valid last member
    rw [split, projected_append, shown_of_valid valid, Option.some.injEq] at found
    subst found
    refine ⟨length, consecutive.aggregateID last member, last, member, ?_, rfl⟩
    rw [quantityLeft, asQuantityDecremented_of_valid valid, Option.elim_some]

/-- A replay that ends before the projection does is told apart by quantity and by version. -/
theorem projectionReasons_behind (followed : Followed db log)
    {row : ProjectionRow} (found : db.platform.projection.find? (tenantID, item) = some row)
    {state : ReplayState} {env : Envelope} (listed : env ∈ log (tenantID, item))
    (reached : state.reached = (quantityLeft env, env.aggregateVersion))
    (behind : env.aggregateVersion < row.aggregateVersion) :
    projectionReasons (some state) row =
      [ascii "incomplete:projection quantity differs from replay " ++ item,
        ascii "incomplete:projection version differs from replay " ++ item] := by
  obtain ⟨-, own, last, lastListed, onHand, version⟩ := row_of_log followed found
  have consecutive := followed.grounded.applied (tenantID, item)
  have falling := consecutive.falling fun env member => by
    obtain ⟨source, -, payload, canonical, records⟩ := consecutive.known env member
    exact records.validated
  obtain ⟨index, inside, rfl⟩ := List.mem_iff_getElem.mp listed
  obtain ⟨place, placeInside, rfl⟩ := List.mem_iff_getElem.mp lastListed
  have indexVersion := consecutive.versions index _ (List.getElem?_eq_getElem inside)
  have placeVersion := consecutive.versions place _ (List.getElem?_eq_getElem placeInside)
  have smaller := List.pairwise_iff_getElem.mp falling index place inside placeInside (by omega)
  obtain ⟨sameQuantity, sameVersion⟩ := Prod.mk.inj reached
  rw [projectionReasons, if_pos (by omega), if_pos (by omega), own]
  rfl

/-- An item with a log is projected. -/
theorem shown_of_log (followed : Followed db log) {key : Bytes × Bytes}
    (some_event : log key ≠ []) : ∃ row, db.platform.projection.find? key = some row := by
  have length := followed.grounded.projectedVersion_eq key
  have positive := List.length_pos_of_ne_nil some_event
  cases found : db.platform.projection.find? key with
  | some row => exact ⟨row, rfl⟩
  | none =>
    rw [projectedVersion, found, Option.elim_none] at length
    omega

/-- The later log of an item, and whether it went on. -/
theorem Continues.added (continues : Continues before after log laterLog) (tenantID item : Bytes) :
    ∃ added, laterLog (tenantID, item) = log (tenantID, item) ++ added ∧
      (added ≠ [] → ∃ row, Further before after row ∧ row.tenantID = tenantID ∧
        row.aggregateType = aggregateTypeInventoryItem ∧ row.aggregateID = item) := by
  obtain ⟨added, extended, allNew⟩ := continues.spares.log (tenantID, item)
  refine ⟨added, extended, fun some_event => ?_⟩
  obtain ⟨env, member⟩ := List.exists_mem_of_ne_nil _ some_event
  have listed : env ∈ laterLog (tenantID, item) := by
    rw [extended]
    exact List.mem_append_right _ member
  have consecutive := continues.later.grounded.applied (tenantID, item)
  obtain ⟨row, rowListed, payload, canonical, records⟩ := consecutive.known env listed
  have place := records.columns
  exact ⟨row, ⟨rowListed, fun isOld => allNew env member ⟨row, isOld, records.eventID⟩⟩,
    place.1.trans (consecutive.tenantID env listed),
    place.2.1.trans (consecutive.aggregateType env listed),
    place.2.2.1.trans (consecutive.aggregateID env listed)⟩

/-- The projected quantity of an item takes in an event that the source at the cutoff leaves out:
one recorded later, or at a time of which the column drops digits. -/
def Behind (db : Database) (tenantID : Bytes) (cutoff : Int) (item : Bytes) : Prop :=
  ∃ shown ∈ db.platform.projection.find? (tenantID, item),
    ∃ row ∈ inventoryRows db.erp tenantID, row.aggregateID = item ∧
      row.aggregateVersion ≤ shown.aggregateVersion ∧
      ¬ (row.recordedAt ≤ microseconds cutoff ∧ Exact row)

instance (db : Database) (tenantID : Bytes) (cutoff : Int) (item : Bytes) :
    Decidable (Behind db tenantID cutoff item) := inferInstanceAs (Decidable (∃ shown ∈ _, _))

/-- The replay of such an item ends at another version. -/
theorem Behind.differs (behind : Behind db tenantID cutoff item) (followed : Followed db log) :
    ∃ shown, db.platform.projection.find? (tenantID, item) = some shown ∧ ∀ state,
      replayState (acceptedIn collation tenantID cutoff db) item = some state →
      state.version ≠ shown.aggregateVersion := by
  obtain ⟨shown, found, row, own, rfl, below, leftOut⟩ := behind
  refine ⟨shown, found, fun state replayed sameVersion => ?_⟩
  obtain ⟨listed, tenant, type⟩ := mem_inventoryRows.mp own
  obtain ⟨env, quantity, canonical, -, records, -, -⟩ :=
    recorded_inventory followed.sourced listed type
  have version := records.columns.2.2.2
  have positive := records.valid.version.1
  -- The replay has taken an event of the version of the row, and that is the row's event.
  rw [replayState_eq] at replayed
  have said := said_of_series row.aggregateID
    (seriesOf (acceptedIn collation tenantID cutoff db) row.aggregateID)
  obtain ⟨next, -⟩ := said.lastValid state replayed
  obtain ⟨record, member, sameRecord⟩ := said.taken row.aggregateVersion (by omega) (by omega)
  obtain ⟨accepted, sameItem⟩ := mem_seriesOf.mp member
  obtain ⟨source, sourceListed, sourceTenant, past, counts⟩ :=
    (mem_acceptedIn followed record).mp accepted
  obtain ⟨amount, bytes, sourceRecords, -⟩ := counts.recorded
  obtain rfl : record.env = env := by
    refine followed.sourced.coherent.placed _ _ ⟨source, sourceListed, _, bytes, sourceRecords⟩
      ⟨row, listed, _, canonical, records⟩ ?_
    rw [Envelope.place, Envelope.place, sameRecord, sameItem, ← version, ← records.columns.1,
      ← records.columns.2.2.1, ← sourceRecords.columns.1, sourceTenant, tenant,
      sourceRecords.valid.aggregateType, records.valid.aggregateType]
    rfl
  obtain rfl := db.erp.outbox.eq_of_key sourceListed listed
    (sourceRecords.eventID.trans records.eventID.symm)
  exact leftOut ⟨past, counts.exact⟩

/-- The comparison tells of the items that the replay at the cutoff is behind of. -/
theorem told_iff_behind (followed : Followed db log) :
    told tenantID db (acceptedIn collation tenantID cutoff db) item ≠ [] ↔
      Behind db tenantID cutoff item := by
  constructor
  · intro tells
    simp only [ne_eq, told_eq_nil, not_forall] at tells
    obtain ⟨shown, found, differs⟩ := tells
    have consecutive := followed.grounded.applied (tenantID, item)
    by_contra notBehind
    refine differs ?_
    rw [(replayed_of_accepted followed fun env listed =>
      accepted_of_log followed listed fun row own sameItem sameVersion => ?_).2, found]
    · rfl
    · have bound := consecutive.version_le listed
      have length := (row_of_log followed found).1
      by_contra leftOut
      exact notBehind ⟨shown, found, row, own, sameItem.trans (consecutive.aggregateID env listed),
        by omega, leftOut⟩
  · intro behind silent
    obtain ⟨shown, found, differs⟩ := behind.differs followed
    obtain ⟨state, replayed, reached⟩ :=
      Option.map_eq_some_iff.mp (told_eq_nil.mp silent shown found)
    exact differs state replayed (Prod.mk.inj reached).2

theorem shows_replayed (followed : Followed db log) :
    ShowsReplayed tenantID db (acceptedIn collation tenantID cutoff db) := by
  intro item replayed
  obtain ⟨state, replayed⟩ := Option.isSome_iff_exists.mp replayed
  obtain ⟨env, listed, -⟩ := replayState_mem followed replayed
  exact Option.isSome_iff_exists.mpr (shown_of_log followed (List.ne_nil_of_mem listed))

/-- A projected item stays projected. -/
theorem Continues.showsReplayed (continues : Continues before after log laterLog) :
    ShowsReplayed tenantID after (acceptedIn collation tenantID cutoff before) := by
  intro item replayed
  obtain ⟨state, replayed⟩ := Option.isSome_iff_exists.mp replayed
  obtain ⟨env, listed, -⟩ := replayState_mem continues.earlier replayed
  obtain ⟨added, extended, -⟩ := continues.added tenantID item
  refine Option.isSome_iff_exists.mpr (shown_of_log continues.later ?_)
  rw [extended]
  exact List.append_ne_nil_of_left_ne_nil (List.ne_nil_of_mem listed) _

/-- What is told of each item stays the same when every item that went on was told of before. -/
theorem Continues.told_same (continues : Continues before after log laterLog)
    (behind : ∀ row, Further before after row → row.tenantID = tenantID →
      Behind before tenantID cutoff row.aggregateID) (item : Bytes) :
    told tenantID after (acceptedIn collation tenantID cutoff before) item =
      told tenantID before (acceptedIn collation tenantID cutoff before) item := by
  obtain ⟨added, extended, wentOn⟩ := continues.added tenantID item
  by_cases none : added = []
  · rw [told, told, continues.later.grounded.projection,
      continues.earlier.grounded.projection, extended, none, List.append_nil]
  obtain ⟨source, further, own, -, rfl⟩ := wentOn none
  obtain ⟨shown, found, differs⟩ :=
    (behind source further own).differs continues.earlier
  obtain ⟨laterShown, laterFound⟩ := shown_of_log continues.later
    (show laterLog (tenantID, source.aggregateID) ≠ [] by simp [extended, none])
  obtain ⟨version, ownItem, -⟩ := row_of_log continues.earlier found
  obtain ⟨laterVersion, laterItem, -⟩ := row_of_log continues.later laterFound
  rw [told, told, found, laterFound, Option.map_some, Option.map_some, Option.getD_some,
    Option.getD_some]
  cases replayed : replayState (acceptedIn collation tenantID cutoff before)
      source.aggregateID with
  | none => rw [projectionReasons, projectionReasons, ownItem, laterItem]
  | some state =>
    obtain ⟨env, listed, reached⟩ := replayState_mem continues.earlier replayed
    have bound := (continues.earlier.grounded.applied _).version_le listed
    have apart := differs state replayed
    rw [show state.version = env.aggregateVersion from (Prod.mk.inj reached).2] at apart
    rw [extended, List.length_append] at laterVersion
    have laterListed : env ∈ laterLog (tenantID, source.aggregateID) := by
      rw [extended]
      exact List.mem_append_left _ listed
    rw [projectionReasons_behind continues.earlier found listed reached (by omega),
      projectionReasons_behind continues.later laterFound laterListed reached (by omega)]

/-- A further applied event makes the log of its item longer. -/
theorem Continues.longer (continues : Continues before after log laterLog) {row : OutboxRow}
    (further : Further before after row)
    (type : row.aggregateType = aggregateTypeInventoryItem) (settled : Settled after row) :
    (log (row.tenantID, row.aggregateID)).length <
      (laterLog (row.tenantID, row.aggregateID)).length := by
  obtain ⟨env, quantity, canonical, clock, records, -, -⟩ :=
    recorded_inventory continues.later.sourced further.1 type
  obtain ⟨inbox, present, isSettled⟩ := (Option.any_eq_true _ _).mp settled
  have known : Published after.erp env := ⟨row, further.1, _, canonical, records⟩
  rw [records.eventID] at present
  have backs := continues.later.existing continues.later.sourced.coherent known
    records.valid records.written present
  have listed : env ∈ laterLog (row.tenantID, row.aggregateID) := by
    rw [records.columns.1, records.columns.2.2.1]
    rcases backs.state with ⟨-, inEffect⟩ | ⟨isGap, -⟩
    · exact inEffect
    · rw [isGap] at isSettled
      cases isSettled
  obtain ⟨added, extended, -⟩ := continues.spares.log (row.tenantID, row.aggregateID)
  rw [extended, List.mem_append] at listed
  rcases listed with isOld | isAdded
  · obtain ⟨source, sourceListed, sourcePayload, sourceBytes, sourceRecords⟩ :=
      (continues.earlier.grounded.applied _).known env isOld
    obtain rfl := after.erp.outbox.eq_of_key (continues.keeps source sourceListed) further.1
      (sourceRecords.eventID.trans records.eventID.symm)
    exact absurd sourceListed further.2
  · rw [extended, List.length_append]
    have positive := List.length_pos_of_mem isAdded
    omega

/-- An item with a further applied event is told of. -/
theorem Continues.told_further (continues : Continues before after log laterLog) {row : OutboxRow}
    (further : Further before after row)
    (type : row.aggregateType = aggregateTypeInventoryItem) (settled : Settled after row) :
    told row.tenantID after (acceptedIn collation row.tenantID cutoff before) row.aggregateID ≠
      [] := by
  have longer := continues.longer further type settled
  intro silent
  obtain ⟨shown, found⟩ := shown_of_log continues.later
    (List.ne_nil_of_length_pos (Nat.zero_lt_of_lt longer))
  obtain ⟨state, replayed, reached⟩ :=
    Option.map_eq_some_iff.mp (told_eq_nil.mp silent shown found)
  obtain ⟨env, listed, ends⟩ := replayState_mem continues.earlier replayed
  have bound := (continues.earlier.grounded.applied _).version_le listed
  have version := (row_of_log continues.later found).1
  have same : env.aggregateVersion = shown.aggregateVersion :=
    (Prod.mk.inj (ends.symm.trans reached)).2
  omega

/-- Such an item must have been told of before. -/
theorem Continues.behind (continues : Continues before after log laterLog) {row : OutboxRow}
    (further : Further before after row)
    (type : row.aggregateType = aggregateTypeInventoryItem) (settled : Settled after row)
    {order later : CompareOrder}
    (same : comparedIn collation later row.tenantID after
        (acceptedIn collation row.tenantID cutoff before) =
      comparedIn collation order row.tenantID before
        (acceptedIn collation row.tenantID cutoff before)) :
    Behind before row.tenantID cutoff row.aggregateID := by
  obtain ⟨reason, listed⟩ :=
    List.exists_mem_of_ne_nil _ (continues.told_further further type settled)
  have mentioned : reason ∈ comparedIn collation later row.tenantID after
      (acceptedIn collation row.tenantID cutoff before) :=
    (mem_comparedIn continues.later continues.showsReplayed).mpr ⟨_, listed⟩
  rw [same, mem_comparedIn continues.earlier
    (shows_replayed continues.earlier)] at mentioned
  obtain ⟨item, toldBefore⟩ := mentioned
  obtain rfl := told_item listed toldBefore
  exact (told_iff_behind continues.earlier).mp (List.ne_nil_of_mem toldBefore)

end Items

/-! ### Further events in the microsecond of the cutoff -/

section Close

variable {db : Database} {log : Log} {tenantID : Bytes} {cutoff : Int} {collation : Collation}
  {order : CompareOrder}

/-- A time mismatch is told of rows of the outbox alone. -/
theorem announced_of_timeMismatch (followed : Followed db log) {eventID : Bytes}
    (told : timeMismatch eventID ∈ (sourceIn collation order tenantID cutoff db).statusReasons) :
    db.erp.announced eventID := by
  simp only [sourceIn, sourceOf, loadEvents_in, List.mem_append, mem_uniqueSortedReasons] at told
  rcases told with ⟨(refused | inbox) | replay, -⟩ | compared
  · obtain ⟨⟨row, inbox⟩, listed, reason⟩ := List.mem_filterMap.mp refused
    obtain ⟨⟨member, rfl, -, type⟩, rfl⟩ := mem_eventRows.mp listed
    obtain ⟨env, quantity, canonical, clock, records, read, -⟩ :=
      recorded_inventory followed.sourced member type
    rw [judge_records records read] at reason
    split_ifs at reason with whole
    · cases found : db.platform.inbox.find? row.eventID with
      | none =>
        rw [found, Option.filter_none, judgeInbox] at reason
        split_ifs at reason
        · exact absurd (Option.some.inj reason).symm
            (append_ne_append 14 (by decide +kernel) _ _)
        · exact absurd (Option.some.inj reason).symm
            (append_ne_append 14 (by decide +kernel) _ _)
      | some inbox =>
        obtain ⟨same, judged⟩ := judgeInbox_records followed member records found
          ⟨env, digest canonical, clock⟩
        rw [found, Option.filter_some_pos (by simpa using same), judged] at reason
        split_ifs at reason
        · cases reason
        · rw [List.append_assoc, List.append_assoc] at reason
          exact absurd (Option.some.inj reason).symm
            (append_ne_append 14 (by decide +kernel) _ _)
    · exact ⟨row, member, List.append_cancel_left (Option.some.inj reason)⟩
  · obtain ⟨row, -, listed⟩ := List.mem_flatMap.mp inbox
    rw [inboxReasons, List.mem_append] at listed
    split_ifs at listed <;> simp only [List.not_mem_nil, List.mem_singleton, or_false, false_or]
      at listed
    · rw [List.append_assoc, List.append_assoc] at listed
      exact absurd listed (append_ne_append 14 (by decide +kernel) _ _)
    · rcases listed with missing | unsettled
      · exact absurd missing (append_ne_append 14 (by decide +kernel) _ _)
      · rw [List.append_assoc, List.append_assoc] at unsettled
        exact absurd unsettled (append_ne_append 14 (by decide +kernel) _ _)
    · exact absurd listed (append_ne_append 14 (by decide +kernel) _ _)
  · obtain ⟨item, -, listed⟩ := List.mem_flatMap.mp replay
    obtain ⟨complaint, member, rest, same⟩ := (said_of_series item _).reasons _ listed
    have apart : ∀ complaint ∈ replayComplaints,
        14 ≤ (ascii "incomplete:recorded_at mismatch ").length ∧ 14 ≤ complaint.length ∧
        (ascii "incomplete:recorded_at mismatch ").take 14 ≠ complaint.take 14 := by
      decide +kernel
    exact absurd same (append_ne_append 14 (apart complaint member) _ _)
  · obtain ⟨item, listed⟩ := (mem_comparedIn followed (shows_replayed followed)).mp compared
    obtain ⟨text, member, same⟩ := told_text listed
    have apart : ∀ text ∈ comparisonTexts,
        14 ≤ (ascii "incomplete:recorded_at mismatch ").length ∧ 14 ≤ text.length ∧
        (ascii "incomplete:recorded_at mismatch ").take 14 ≠ text.take 14 := by
      decide +kernel
    exact absurd same (append_ne_append 14 (apart text member) _ _)

end Close

/-! ### The main result -/

/-- Two databases of one world, with further events of inventory orders in between. -/
theorem continues_of_run {Index : Type} [Fintype Index] [DecidableEq Index]
    (commands : Index → Command) (moves more : List (World.Move Index)) {before after : Database}
    (reached : ((World.start commands).run moves).db = before)
    (continued : ((World.start commands).run (moves ++ more)).db = after)
    (onlyLater : ∀ eventID ∈ more.filterMap World.Move.delivered,
      before.erp.outbox.find? eventID = none)
    (inventory : ∀ row, Further before after row →
      row.aggregateType = aggregateTypeInventoryItem) :
    ∃ log laterLog, Continues before after log laterLog := by
  have sound := World.run_sound commands moves
  have split : ((World.start commands).run moves).run more =
      (World.start commands).run (moves ++ more) := List.foldl_append.symm
  rw [← split] at continued
  subst reached continued
  obtain ⟨log, tracks⟩ := sound.tracks
  have unannounced : ∀ eventID fuel pos replies, .deliver eventID fuel pos replies ∈ more →
      ¬ ((World.start commands).run moves).db.erp.announced eventID := by
    rintro eventID fuel pos replies member ⟨row, listed, same⟩
    have absent := onlyLater eventID (List.mem_filterMap.mpr ⟨_, member, rfl⟩)
    rw [Table.find?_eq_none_iff] at absent
    exact absent row listed same
  obtain ⟨laterLog, onward⟩ := World.Onward.run sound.source.sourced
    ⟨sound, fun _ => id, tracks.follows, .refl⟩ more unannounced
    fun row member fresh => inventory row ⟨member, fresh⟩
  exact ⟨log, laterLog, ⟨tracks.follows, sound.source.sourced⟩,
    ⟨onward.follows, onward.sound.source.sourced⟩, onward.keeps, onward.spares⟩

section Cutoff

variable {before after : Database} {log laterLog : Log} {tenantID : Bytes} {cutoff : Int}
  {collation : Collation}

/-- In the state before and in the one after, the source shows the same in whatever order its
loops range. -/
theorem Continues.seen_same_iff (continues : Continues before after log laterLog)
    (orders : ∀ row, Further before after row → LaterOrder tenantID cutoff row)
    (applied : ∀ row, Further before after row → Settled after row) :
    (∀ order later, (sourceIn collation later tenantID cutoff after).seen =
        (sourceIn collation order tenantID cutoff before).seen) ↔
      (∀ row, Further before after row → microseconds cutoff < row.recordedAt ∧
        Behind before tenantID cutoff row.aggregateID) ∧
      ∀ item other, Behind before tenantID cutoff item → Behind before tenantID cutoff other →
        item = other := by
  have tells : ∀ item, told tenantID before (acceptedIn collation tenantID cutoff before) item ≠
      [] ↔ _ := fun item => told_iff_behind continues.earlier
  have shows : ShowsReplayed tenantID before (acceptedIn collation tenantID cutoff before) :=
    shows_replayed continues.earlier
  constructor
  · intro same
    obtain ⟨ranging, -⟩ := exists_startsWith ([] : Bytes)
    have sameOnce := same ⟨ranging, ranging⟩ ⟨ranging, ranging⟩
    -- A further event that the query returned would be told of by its new identifier.
    have beyond : ∀ row, Further before after row → microseconds cutoff < row.recordedAt := by
      intro row further
      obtain ⟨rfl, type, isLate⟩ := orders row further
      obtain ⟨instant, recorded, late⟩ := (Option.any_eq_true _ _).mp isLate
      rw [decide_eq_true_eq] at late
      by_contra close
      have inexact : ¬ Exact row := by
        rw [Exact, recorded, Option.some.injEq]
        unfold microseconds at close
        omega
      have mismatch : timeMismatch row.eventID ∈
          (sourceIn collation ⟨ranging, ranging⟩ row.tenantID cutoff after).statusReasons :=
        timeMismatch_mem _ continues.later.sourced further.1 type (by omega) inexact
      rw [show (sourceIn collation ⟨ranging, ranging⟩ row.tenantID cutoff after).statusReasons =
        (sourceIn collation ⟨ranging, ranging⟩ row.tenantID cutoff before).statusReasons from
          congrArg (fun seen => seen.2.2) sameOnce] at mismatch
      obtain ⟨other, isOld, sameID⟩ :=
        announced_of_timeMismatch continues.earlier mismatch
      obtain rfl := after.erp.outbox.eq_of_key (continues.keeps other isOld) further.1 sameID
      exact further.2 isOld
    have compared := fun order later => (continues.seen_iff beyond).mp (same order later)
    refine ⟨fun row further => ⟨beyond row further, ?_⟩, fun item other first second => ?_⟩
    · obtain ⟨rfl, type, -⟩ := orders row further
      exact continues.behind further type (applied row further)
        (compared ⟨ranging, ranging⟩ ⟨ranging, ranging⟩)
    · exact told_once continues.earlier shows (fun order later =>
        (compared order ⟨ranging, ranging⟩).symm.trans (compared later ⟨ranging, ranging⟩))
        ((tells item).mpr first) ((tells other).mpr second)
  · rintro ⟨condition, single⟩ order later
    have same : ∀ item, told tenantID after (acceptedIn collation tenantID cutoff before) item =
        told tenantID before (acceptedIn collation tenantID cutoff before) item :=
      continues.told_same fun row further _ => (condition row further).2
    -- The one item that is told of, if any.
    obtain ⟨item, others⟩ : ∃ item, ∀ other, other ≠ item →
        told tenantID before (acceptedIn collation tenantID cutoff before) other = [] := by
      by_cases some_item : ∃ item, Behind before tenantID cutoff item
      · obtain ⟨item, behind⟩ := some_item
        refine ⟨item, fun other different => ?_⟩
        by_contra isTold
        exact different (single other item ((tells other).mp isTold) behind)
      · refine ⟨[], fun other _ => ?_⟩
        by_contra isTold
        exact some_item ⟨other, (tells other).mp isTold⟩
    rw [continues.seen_iff fun row further => (condition row further).1,
      comparedIn_single continues.earlier shows others,
      comparedIn_single continues.later continues.showsReplayed fun other different =>
        (same other).trans (others other different), same]

/-- The loader takes the tenant of a published event. -/
theorem askable_of_published {erp : Erp} {env : Envelope} (known : Published erp env) :
    env.tenantID ≠ [] ∧ storable env.tenantID = true := by
  obtain ⟨row, -, payload, canonical, records⟩ := known
  have matched := records.valid.tenantID
  refine ⟨fun empty => ?_, storable_uuid _ matched⟩
  rw [empty] at matched
  exact absurd matched (by decide)

/-- It takes the tenant of a further event, and of a projected item. -/
theorem Continues.askable (continues : Continues before after log laterLog)
    (some_row : (∃ row, Further before after row ∧ row.tenantID = tenantID) ∨
      ∃ item, Behind before tenantID cutoff item) :
    tenantID ≠ [] ∧ storable tenantID = true := by
  rcases some_row with ⟨row, further, rfl⟩ | ⟨item, shown, found, -⟩
  · obtain ⟨env, payload, canonical, records, -⟩ := continues.later.sourced.recorded row further.1
    rw [records.columns.1]
    exact askable_of_published ⟨row, further.1, payload, canonical, records⟩
  · obtain ⟨-, -, env, listed, -⟩ := row_of_log continues.earlier found
    have consecutive := continues.earlier.grounded.applied (tenantID, item)
    have own : env.tenantID = tenantID := consecutive.tenantID env listed
    rw [← own]
    exact askable_of_published (consecutive.known env listed)

end Cutoff

/-- The months in which the sample item is ordered. -/
inductive Month
  | january
  | march
  deriving DecidableEq, Repr

instance Month.fintype : Fintype Month where
  elems := {.january, .march}
  complete month := by cases month <;> decide

/-- Orders of the sample item in January and in March. -/
def seasonCommands : Month → Command
  | .january => .acceptOrder (sampleOrder sampleEvent secondEvent 7)
  | .march => .acceptOrder { sampleOrder thirdEvent thirdEvent 2 with
      recordedAt := ascii "2026-03-01T00:00:00Z" }

/-- An order is accepted and its event delivered. -/
def takeOrder (month : Month) (eventID : Bytes) : List (World.Move Month) :=
  List.replicate 7 (.source (.advance month (.served 0))) ++ [.deliver eventID 1 ⟨[], 0, 0⟩ []]

/-- The item is seeded and the order of January taken. -/
def januaryMoves : List (World.Move Month) :=
  .source (.seed sampleTenant sampleItem 10) :: takeOrder .january secondEvent

def inJanuary : Database := ((World.start seasonCommands).run januaryMoves).db

def inMarch : Database :=
  ((World.start seasonCommands).run (januaryMoves ++ takeOrder .march thirdEvent)).db

theorem inJanuary_eq : inJanuary = ((World.hashed seasonCommands).run januaryMoves).db := by
  rw [inJanuary, World.start_eq]

theorem inMarch_eq : inMarch =
    ((World.hashed seasonCommands).run (januaryMoves ++ takeOrder .march thirdEvent)).db := by
  rw [inMarch, World.start_eq]

/-- 1 December 2025, before both orders. -/
def earlyCutoff : Int := 1764547200000000000

set_option maxRecDepth 20000 in
/-- What the tables hold in January and in March. -/
theorem season_run :
    ((takeOrder .march thirdEvent).filterMap World.Move.delivered = [thirdEvent] ∧
      inJanuary.erp.outbox.find? thirdEvent = none) ∧
    ((furtherRows inJanuary inMarch).map OutboxRow.eventID = [thirdEvent] ∧
      ∀ row ∈ furtherRows inJanuary inMarch, row.aggregateID = sampleItem ∧
        LaterOrder sampleTenant sampleCutoff row ∧ LaterOrder sampleTenant earlyCutoff row ∧
        Settled inMarch row ∧ microseconds earlyCutoff < row.recordedAt) ∧
    (AllSettled inJanuary sampleTenant ∧ AllPast inJanuary sampleTenant sampleCutoff ∧
      ∀ row ∈ inventoryRows inJanuary.erp sampleTenant, Exact row) ∧
    (∀ row ∈ inJanuary.platform.projection.rows, row.itemID = sampleItem) ∧
    Behind inJanuary sampleTenant earlyCutoff sampleItem ∧
    Behind inMarch sampleTenant sampleCutoff sampleItem := by
  rw [inJanuary_eq, inMarch_eq]
  decide +kernel

theorem lower_sampleTenant :
    Strings.toLower (Strings.trimSpace sampleTenant) = sampleTenant := by
  decide +kernel

/-- A projection that is ahead of the replay makes the source incomplete. -/
theorem sourceIn_incomplete {db : Database} {log : Log} {tenantID item : Bytes} {cutoff : Int}
    {collation : Collation} (order : CompareOrder) (followed : Followed db log)
    (behind : Behind db tenantID cutoff item) :
    (sourceIn collation order tenantID cutoff db).status = .incomplete := by
  have tells : told tenantID db (acceptedIn collation tenantID cutoff db) item ≠ [] :=
    (told_iff_behind followed).mpr behind
  obtain ⟨reason, listed⟩ := List.exists_mem_of_ne_nil _ tells
  have mentioned : reason ∈ (sourceIn collation order tenantID cutoff db).statusReasons := by
    simp only [sourceIn, sourceOf, loadEvents_in]
    exact List.mem_append_right _
      ((mem_comparedIn followed (shows_replayed followed)).mpr ⟨item, listed⟩)
  rw [sourceIn_status]
  refine statusOf_incomplete mentioned ?_
  obtain ⟨text, member, rfl⟩ := told_text listed
  have starts : ∀ text ∈ comparisonTexts, text = 0x69 :: text.tail := by decide +kernel
  rw [starts text member]
  rfl

end Forecast

end SeshatOps
