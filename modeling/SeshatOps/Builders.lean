/-
This file says what the builders of the forecasts make of a panel, and proves that they
make it of every history that pictures the panel.

A day of a span is labelable when the span goes on for a week after it. The labelable days of
all items, in order, give each date its split; a day that is labelable and has a split is
an example and a row of features. Nothing in this depends on the order of the observations
or on the order in which a map is ranged over, so neither does what the builders return.
It also says what a row stands for: its hash is that of the item's observations up to its
date, and its label that of the week after. The splits follow one another in time.
-/

import SeshatOps.Panel

namespace SeshatOps

open Relational Sorting Loops

namespace Forecast

/-! ### What a panel stands for -/

namespace Span

variable (span : Span)

/-- The days with a week of days after them. -/
def labelableTexts : List Bytes := span.firstTexts (span.length - horizonDays)

theorem mem_texts_of_labelable {span : Span} {date : Bytes} (member : date ∈ span.labelableTexts) :
    date ∈ span.texts := by
  obtain ⟨place, bound, rfl⟩ := mem_firstTexts.mp member
  exact mem_firstTexts.mpr ⟨place, by omega, rfl⟩

/-- The label of a day: whether a day of the week after it has no stock. -/
def label (place : Nat) : Int :=
  if (List.range' 1 horizonDays).any fun ahead : Nat =>
    span.quantityAt (place + ahead) == some 0 then 1 else 0

/-- The lines of the days up to a day. -/
def historyText (place : Nat) : Bytes :=
  (List.range (place + 1)).flatMap fun earlier : Nat =>
    checksumLine [span.text earlier, Json.formatInt ((span.quantityAt earlier).getD 0)]

end Span

/-- The example of a day. -/
def exampleAt (tenantID item : Bytes) (span : Span) (place : Nat) (split : Bytes) : Example where
  rowID := rowID tenantID item (span.text place)
  tenantID := tenantID
  itemID := item
  asOfDate := span.text place
  label := span.label place
  split := split
  sourceCutoffDate := span.text place
  historyHash := digest (span.historyText place)
  protocolID := protocolID

/-- The row of features of a day. -/
def rowAt (tenantID item : Bytes) (span : Span) (place : Nat) (split : Bytes) : FeatureRow where
  rowID := rowID tenantID item (span.text place)
  tenantID := tenantID
  itemID := item
  asOfDate := span.text place
  sourceCutoffDate := span.text place
  split := split
  quantityOnHand := (span.quantityAt place).getD 0
  historyHash := digest (span.historyText place)

/-- What is made of the labelable days of an item that have a split. -/
def madeOf {Row : Type} (make : Bytes → Span → Nat → Bytes → Row) (splits : Table DateSplit.date)
    (item : Bytes × Span) : List Row :=
  (List.range (item.2.length - horizonDays)).filterMap fun place : Nat =>
    (splits.find? (item.2.text place)).map fun entry => make item.1 item.2 place entry.split

namespace Panel

variable (panel : Panel)

/-- The labelable dates of all items, in order. -/
def labelableDates : List Bytes :=
  sortStrings (panel.items.flatMap fun item => item.2.labelableTexts).dedup

def splits : Table DateSplit.date := assignSplits panel.labelableDates

def examples (tenantID : Bytes) : List Example :=
  panel.items.flatMap (madeOf (exampleAt tenantID) panel.splits)

def rows (tenantID : Bytes) : List FeatureRow :=
  panel.items.flatMap (madeOf (rowAt tenantID) panel.splits)

def dataset (tenantID : Bytes) : Dataset where
  protocolID := protocolID
  tenantID := tenantID
  examples := panel.examples tenantID

def snapshot (tenantID : Bytes) (boundary : SourceBoundary) : FeatureSnapshot :=
  finalizeFeatureSnapshot {
    contractVersion := snapshotContractVersion
    status := if panel.rows tenantID = [] then snapshotStatusInsufficient
      else snapshotStatusComplete
    tenantID := tenantID
    datasetVersion := protocolID
    featureDefinitionVersion := featureDefinitionVersion
    sourceBoundary := boundary
    rows := panel.rows tenantID
    statusReasons := if panel.rows tenantID = [] then
      [ascii "no labelable protocol observations"] else [] }

end Panel

/-! ### One series -/

section Series

variable {days : Table Day.date} {span : Span}

theorem Holds.horizon (holds : Holds days span) (place : Nat) :
    (days.find? (span.text (place + (horizonDays : Nat)))).isSome = true ↔
      place + horizonDays < span.length := by
  rw [holds.find?, Option.isSome_map, Span.quantityAt_isSome]
  omega

/-- The loop over the days ahead. -/
theorem Holds.labelWithin (holds : Holds days span) {place : Nat} (inside : place < span.length)
    {aheads : List Nat} (within : ∀ ahead ∈ aheads, place + ahead < span.length) :
    labelWithin days (span.text place) aheads =
      .ok (if aheads.any fun ahead : Nat => span.quantityAt (place + ahead) == some 0 then 1
        else 0) := by
  induction aheads with
  | nil => rfl
  | cons ahead rest hypothesis =>
    rw [List.forall_mem_cons] at within
    have later := hypothesis within.2
    obtain ⟨quantity, found⟩ : ∃ quantity, span.quantityAt (place + ahead) = some quantity :=
      Option.isSome_iff_exists.mp ((Span.quantityAt_isSome _).mpr (by omega))
    simp only [Forecast.labelWithin, Span.addDays_text inside, holds.find?, found, Option.map_some,
      later, List.any_cons]
    by_cases empty : quantity = 0
    · simp [empty]
    · simp [empty]

theorem Holds.labelAt (holds : Holds days span) {place : Nat}
    (labelable : place + horizonDays < span.length) :
    labelAt days (span.text place) = .ok (span.label place) := by
  refine holds.labelWithin (by omega) fun ahead member => ?_
  rw [List.mem_range'_1] at member
  omega

/-- The dates up to a day of the span. -/
theorem Holds.datesUpTo (holds : Holds days span) (ranging : Ranging Bytes) {place : Nat}
    (inside : place < span.length) :
    sortStrings ((ranging.visit (days.rows.map Day.date)).filter fun date =>
      !Strings.less (span.text place) date) = span.firstTexts (place + 1) := by
  rw [← sortStrings_of_sorted (Span.firstTexts_sorted inside)]
  refine sortStrings_congr ((ranging.nodup_visit _).filter _) (Span.firstTexts_nodup inside)
    fun date => ?_
  rw [List.mem_filter, ranging.mem_visit, holds.mem_dates, Span.texts, Span.mem_firstTexts,
    Span.mem_firstTexts, Bool.not_eq_true', ← Bool.not_eq_true]
  constructor
  · rintro ⟨⟨other, bound, rfl⟩, early⟩
    rw [Span.text_less_iff inside bound] at early
    exact ⟨other, by omega, rfl⟩
  · rintro ⟨other, bound, rfl⟩
    refine ⟨⟨other, by omega, rfl⟩, ?_⟩
    rw [Span.text_less_iff inside (by omega)]
    omega

theorem Holds.historyHash (holds : Holds days span) (ranging : Ranging Bytes) {place : Nat}
    (inside : place < span.length) :
    historyHash ranging days (span.text place) = digest (span.historyText place) := by
  rw [Forecast.historyHash, historyText, holds.datesUpTo ranging inside, Span.firstTexts,
    List.flatMap_map, Span.historyText]
  refine congrArg digest (List.flatMap_congr fun earlier _ => ?_)
  rw [holds.find?]
  cases span.quantityAt earlier with
  | none => rfl
  | some quantity => rfl

/-- The loop that looks for labelable days. -/
theorem Holds.labelableIn (holds : Holds days span) (dates : List Bytes)
    (own : ∀ date ∈ dates, date ∈ span.texts) :
    labelableIn days dates = .ok (dates.filter (· ∈ span.labelableTexts)) := by
  induction dates with
  | nil => rfl
  | cons date rest hypothesis =>
    rw [List.forall_mem_cons] at own
    obtain ⟨place, inside, rfl⟩ := Span.mem_firstTexts.mp own.1
    have labelable : span.text place ∈ span.labelableTexts ↔
        (days.find? (span.text (place + (horizonDays : Nat)))).isSome = true := by
      rw [holds.horizon, Span.labelableTexts, Span.mem_firstTexts]
      constructor
      · rintro ⟨other, bound, same⟩
        have equal := Span.text_injective inside same.symm
        omega
      · intro bound
        exact ⟨place, by omega, rfl⟩
    simp only [Forecast.labelableIn, Span.addDays_text inside, hypothesis own.2,
      List.filter_cons, labelable]
    simp [bind, Except.bind, pure, Except.pure]

variable {tenantID item : Bytes} {splits : Table DateSplit.date}

/-- The loop of `BuildDataset` over some days of a series. -/
theorem Holds.examplesOf (holds : Holds days span) (ranges : Ranges) (places : List Nat)
    (inside : ∀ place ∈ places, place < span.length) :
    examplesOf ranges splits ⟨(tenantID, item), days⟩
        (places.map fun place : Nat => span.text place) =
      .ok (places.filterMap fun place : Nat => if place + horizonDays < span.length then
        (splits.find? (span.text place)).map fun entry =>
          exampleAt tenantID item span place entry.split else none) := by
  induction places with
  | nil => rfl
  | cons place rest hypothesis =>
    rw [List.forall_mem_cons] at inside
    have later := hypothesis inside.2
    have horizon := holds.horizon place
    rw [List.map_cons, Forecast.examplesOf, Span.addDays_text inside.1, List.filterMap_cons]
    dsimp only
    by_cases labelable : place + horizonDays < span.length
    · rw [if_pos labelable, Option.isNone_eq_false_iff.mpr (horizon.mpr labelable),
        holds.labelAt labelable, later]
      simp only [Bool.false_eq_true, if_false, bind, Except.bind]
      cases splits.find? (span.text place) with
      | none => rfl
      | some entry =>
        simp only [Option.map_some, holds.historyHash _ inside.1]
        rfl
    · have beyond := Option.not_isSome_iff_eq_none.mp (mt horizon.mp labelable)
      rw [if_neg labelable, later, beyond]
      rfl

/-- The loop of `BuildFeatureSnapshot` over some days of a series. -/
theorem Holds.featureRowsOf (holds : Holds days span) (ranges : Ranges) (places : List Nat)
    (inside : ∀ place ∈ places, place < span.length) :
    featureRowsOf ranges splits ⟨(tenantID, item), days⟩
        (places.map fun place : Nat => span.text place) =
      .ok (places.filterMap fun place : Nat => if place + horizonDays < span.length then
        (splits.find? (span.text place)).map fun entry =>
          rowAt tenantID item span place entry.split else none) := by
  induction places with
  | nil => rfl
  | cons place rest hypothesis =>
    rw [List.forall_mem_cons] at inside
    have later := hypothesis inside.2
    have horizon := holds.horizon place
    rw [List.map_cons, Forecast.featureRowsOf, Span.addDays_text inside.1, List.filterMap_cons,
      later]
    dsimp only
    cases splits.find? (span.text place) with
    | none =>
      rw [Option.map_none, ite_self]
    | some entry =>
      by_cases labelable : place + horizonDays < span.length
      · have found : ((days.find? (span.text place)).map Day.quantity).getD 0 =
            (span.quantityAt place).getD 0 := by
          rw [holds.find?]
          cases span.quantityAt place with
          | none => rfl
          | some quantity => rfl
        rw [if_pos labelable, Option.isNone_eq_false_iff.mpr (horizon.mpr labelable)]
        simp only [Bool.false_eq_true, if_false, bind, Except.bind, Option.map_some,
          holds.historyHash _ inside.1, found]
        rfl
      · have beyond := Option.not_isSome_iff_eq_none.mp (mt horizon.mp labelable)
        rw [if_neg labelable, beyond]
        rfl

/-- The days that are labelable are the first ones. -/
theorem filterMap_labelable {Row : Type} (make : Nat → Option Row) (length : Nat) :
    ((List.range length).filterMap fun place =>
      if place + horizonDays < length then make place else none) =
        (List.range (length - horizonDays)).filterMap make := by
  have whole : List.range length = List.range (length - horizonDays) ++
      (List.range (length - (length - horizonDays))).map ((length - horizonDays) + ·) := by
    rw [← List.range_add]
    exact congrArg List.range (by omega)
  have front : ∀ place ∈ List.range (length - horizonDays),
      (if place + horizonDays < length then make place else none) = make place := by
    intro place member
    rw [List.mem_range] at member
    rw [if_pos (by omega)]
  have back : ((List.range (length - (length - horizonDays))).map
      ((length - horizonDays) + ·)).filterMap (fun place =>
        if place + horizonDays < length then make place else none) = [] := by
    rw [List.filterMap_eq_nil_iff]
    intro place member
    obtain ⟨other, -, rfl⟩ := List.mem_map.mp member
    rw [if_neg (by omega)]
  rw [whole, List.filterMap_append, back, List.append_nil]
  exact List.filterMap_congr front

end Series

/-! ### All series -/

section Panel

variable {tenantID : Bytes} {series : Table Series.key} {panel : Panel}

/-- A loop over a map that indexes a panel visits the items of the panel. -/
theorem Indexes.entries (indexes : Indexes tenantID series panel) (ranging : Ranging SeriesKey) :
    ∃ items, List.Forall₂ (Represents tenantID) (ranging.entries series) items ∧
      items.Perm panel.items := by
  obtain ⟨entries, shuffled, represented⟩ := indexes
  exact List.perm_comp_forall₂ ((ranging.entries_perm series).trans shuffled) represented

theorem Indexes.uniqueLabelableDates (indexes : Indexes tenantID series panel) (ranges : Ranges) :
    uniqueLabelableDates ranges series = .ok panel.labelableDates := by
  obtain ⟨items, represented, shuffled⟩ := indexes.entries ranges.labelable
  obtain ⟨found, done, listed⟩ : ∃ found, (ranges.labelable.entries series).mapM (fun entry =>
      labelableIn entry.days
        ((ranges.labelableDates entry.key).visit (entry.days.rows.map Day.date))) = .ok found ∧
      List.Forall₂ (fun item dates => ∀ date, date ∈ dates ↔ date ∈ item.2.labelableTexts)
        items found := by
    refine exists_mapM_forall₂ (fun entry item related => ?_) represented
    have own : ∀ date, date ∈ (ranges.labelableDates entry.key).visit
        (entry.days.rows.map Day.date) ↔ date ∈ item.2.texts := fun date =>
      (Ranging.mem_visit _ _ date).trans (related.2.mem_dates date)
    refine ⟨_, related.2.labelableIn _ fun date => (own date).mp, fun date => ?_⟩
    rw [List.mem_filter, own, decide_eq_true_eq]
    exact and_iff_right_of_imp Span.mem_texts_of_labelable
  have visited : sortStrings (ranges.seen.visit found.flatten) = panel.labelableDates := by
    refine sortStrings_congr (ranges.seen.nodup_visit _) (List.nodup_dedup _) fun date => ?_
    rw [ranges.seen.mem_visit, List.mem_dedup, List.mem_flatten, List.mem_flatMap]
    constructor
    · rintro ⟨dates, member, inside⟩
      obtain ⟨item, itemMember, same⟩ := exists_left listed member
      exact ⟨item, shuffled.mem_iff.mp itemMember, (same date).mp inside⟩
    · rintro ⟨item, member, inside⟩
      obtain ⟨dates, datesMember, same⟩ := exists_right listed (shuffled.mem_iff.mpr member)
      exact ⟨dates, datesMember, (same date).mpr inside⟩
  rw [Forecast.uniqueLabelableDates, done]
  exact congrArg Except.ok visited

/-- What is made of the days of a panel goes up by tenant, item and date. -/
theorem Panel.made_increasing {Row : Type} {make : Bytes → Span → Nat → Bytes → Row}
    {columns : Row → List Bytes} (splits : Table DateSplit.date)
    (named : ∀ item span place split,
      columns (make item span place split) = [tenantID, item, span.text (place : Nat)]) :
    (panel.items.flatMap (madeOf make splits)).Pairwise fun first second =>
      lessBy (columns first) (columns second) = true := by
  have shape : ∀ item row, row ∈ madeOf make splits item → ∃ place : Nat,
      columns row = [tenantID, item.1, item.2.text place] := by
    intro item row member
    obtain ⟨place, -, made⟩ := List.mem_filterMap.mp member
    obtain ⟨entry, -, rfl⟩ := Option.map_eq_some_iff.mp made
    exact ⟨place, named ..⟩
  rw [List.pairwise_flatMap]
  refine ⟨fun item _ => ?_, panel.sorted.imp fun {first second} below row member other
    otherMember => ?_⟩
  · refine List.pairwise_filterMap.mpr ((List.pairwise_lt_range).imp_of_mem ?_)
    intro first second firstMember secondMember below row made other otherMade
    rw [List.mem_range] at firstMember secondMember
    obtain ⟨entry, -, rfl⟩ := Option.map_eq_some_iff.mp made
    obtain ⟨entry, -, rfl⟩ := Option.map_eq_some_iff.mp otherMade
    have earlier : Strings.less (item.2.text first) (item.2.text second) = true :=
      (Span.text_less_iff (by omega) (by omega)).mpr below
    rw [named, named, lessBy_cons_self, lessBy_cons_self]
    exact lessBy_cons_of_less earlier _ _
  · obtain ⟨place, columns⟩ := shape first row member
    obtain ⟨otherPlace, otherColumns⟩ := shape second other otherMember
    rw [columns, otherColumns, lessBy_cons_self]
    exact lessBy_cons_of_less below _ _

theorem Indexes.rows_eq_nil (indexes : Indexes tenantID series panel) :
    series.rows = [] ↔ panel.items = [] := by
  obtain ⟨entries, shuffled, represented⟩ := indexes
  rw [← List.length_eq_zero_iff, shuffled.length_eq, represented.length_eq,
    List.length_eq_zero_iff]

/-- What the loop of a builder makes of a series. -/
theorem Represents.made {entry : Series} {item : Bytes × Span} {Row : Type}
    {build : List Bytes → Except Invalid (List Row)} {make : Nat → Bytes → Row}
    {splits : Table DateSplit.date} (represents : Represents tenantID entry item)
    (ranging : Ranging Bytes)
    (loop : ∀ places : List Nat, (∀ place ∈ places, place < item.2.length) →
      build (places.map fun place : Nat => item.2.text place) =
        .ok (places.filterMap fun place : Nat => if place + horizonDays < item.2.length then
          (splits.find? (item.2.text place)).map fun entry => make place entry.split else none)) :
    build (sortedDates ranging entry.days) =
      .ok ((List.range (item.2.length - horizonDays)).filterMap fun place : Nat =>
        (splits.find? (item.2.text place)).map fun entry => make place entry.split) := by
  rw [represents.2.sortedDates, ← filterMap_labelable]
  exact loop _ fun place member => List.mem_range.mp member

theorem Indexes.examples (indexes : Indexes tenantID series panel) (ranges : Ranges) :
    ∃ found, (ranges.build.entries series).mapM (fun entry => examplesOf ranges panel.splits entry
        (sortedDates (ranges.buildDates entry.key) entry.days)) = .ok found ∧
      sortRows Example.columns found.flatten = panel.examples tenantID := by
  obtain ⟨items, represented, shuffled⟩ := indexes.entries ranges.build
  have each : ∀ entry item, Represents tenantID entry item →
      examplesOf ranges panel.splits entry (sortedDates (ranges.buildDates entry.key) entry.days) =
        .ok (madeOf (exampleAt tenantID) panel.splits item) := by
    rintro ⟨key, days⟩ item related
    obtain ⟨rfl, holds⟩ := id related
    exact related.made _ fun places inside => holds.examplesOf ranges places inside
  have wide : ∀ row : Example, row.columns.length = 3 := fun _ => rfl
  have increasing : (panel.examples tenantID).Pairwise fun first second =>
      lessBy first.columns second.columns = true :=
    Panel.made_increasing panel.splits fun _ _ _ _ => rfl
  refine ⟨_, mapM_forall₂ each represented, sortRows_of_increasing wide ?_ increasing⟩
  rw [← List.flatMap_def]
  exact shuffled.flatMap_right _

variable {ranges : Ranges} {history : List Observation} {tenant : Bytes}

/-- What `BuildDataset` returns for a history that pictures a panel. -/
theorem Pictures.buildDataset (pictures : Pictures tenantID history panel)
    (own : Strings.toLower (Strings.trimSpace tenant) = tenantID) (named : tenantID ≠ [])
    (some : panel.items ≠ []) (ranges : Ranges) :
    buildDataset ranges history tenant = .ok (panel.dataset tenantID) := by
  obtain ⟨series, indexed, indexes⟩ := pictures.indexed ranges
  obtain ⟨found, made, sorted⟩ := indexes.examples ranges
  have dates := indexes.uniqueLabelableDates ranges
  have rows : series.rows ≠ [] := fun empty => some (indexes.rows_eq_nil.mp empty)
  unfold Forecast.buildDataset
  rw [Panel.splits] at made
  simp only [own, named, indexed, rows, dates, made, sorted, if_false, bind, Except.bind]
  rfl

/-- `BuildDataset` succeeds on the histories that picture a panel with items. -/
theorem buildDataset_ok {dataset : Dataset}
    (own : Strings.toLower (Strings.trimSpace tenant) = tenantID)
    (built : buildDataset ranges history tenant = .ok dataset) :
    tenantID ≠ [] ∧ ∃ panel, Pictures tenantID history panel ∧ panel.items ≠ [] := by
  unfold buildDataset at built
  dsimp only at built
  rw [own] at built
  split_ifs at built with empty
  · cases built
  · cases indexed : indexObservations ranges history tenantID with
    | error cause =>
      rw [indexed] at built
      cases built
    | ok series =>
      obtain ⟨panel, pictures, indexes⟩ := pictures_of_indexed indexed
      refine ⟨empty, panel, pictures, fun none => ?_⟩
      rw [indexed] at built
      simp [bind, Except.bind, indexes.rows_eq_nil.mpr none, wrapInvalid] at built

/-! ### The feature snapshot -/

/-- The key that `validateFeatureObservations` gives an observation. -/
def observationKey (observation : Observation) : Bytes :=
  Strings.toLower (Strings.trimSpace observation.tenantID) ++ [0x09] ++
    Strings.toLower (Strings.trimSpace observation.itemID) ++ [0x09] ++ observation.asOfDate

/-- An observation that `validateFeatureObservations` takes. -/
structure Acceptable (observation : Observation) : Prop where
  tenant : Strings.toLower (Strings.trimSpace observation.tenantID) ≠ []
  shape : featureTenantUUIDv4 (Strings.toLower (Strings.trimSpace observation.tenantID)) = true
  item : Strings.toLower (Strings.trimSpace observation.itemID) ≠ []
  quantity : 0 ≤ observation.quantityOnHand
  date : (Calendar.parseDate observation.asOfDate).isSome = true

/-- A history that `validateFeatureObservations` takes. -/
def AcceptableHistory (observations : List Observation) : Prop :=
  (∀ observation ∈ observations, Acceptable observation) ∧
    (observations.map observationKey).Nodup

theorem acceptableHistory_concat {front : List Observation} {last : Observation} :
    AcceptableHistory (front ++ [last]) ↔
      AcceptableHistory front ∧ Acceptable last ∧
        observationKey last ∉ front.map observationKey := by
  exact valid_nodup_concat

/-- One observation. -/
theorem validateFeatureObservation_ends {front : List Observation} {seen : List Bytes}
    (acceptable : AcceptableHistory front)
    (keys : ∀ key, key ∈ seen ↔ key ∈ front.map observationKey) (last : Observation) :
    Ends (fun next => AcceptableHistory (front ++ [last]) ∧
        ∀ key, key ∈ next ↔ key ∈ (front ++ [last]).map observationKey)
      (¬ AcceptableHistory (front ++ [last])) (validateFeatureObservation seen last) := by
  rw [acceptableHistory_concat]
  unfold validateFeatureObservation
  dsimp only
  by_cases tenant : Strings.toLower (Strings.trimSpace last.tenantID) = []
  · rw [if_pos tenant]
    exact fun both => both.2.1.tenant tenant
  rw [if_neg tenant]
  cases shape : featureTenantUUIDv4 (Strings.toLower (Strings.trimSpace last.tenantID)) with
  | false =>
    intro both
    have well := both.2.1.shape
    rw [shape] at well
    cases well
  | true =>
    rw [if_neg (by decide)]
    by_cases item : Strings.toLower (Strings.trimSpace last.itemID) = []
    · rw [if_pos item]
      exact fun both => both.2.1.item item
    rw [if_neg item]
    by_cases negative : last.quantityOnHand < 0
    · rw [if_pos negative]
      exact fun both => absurd both.2.1.quantity (not_le.mpr negative)
    rw [if_neg negative]
    cases parsed : Calendar.parseDate last.asOfDate with
    | none =>
      intro both
      have dated := both.2.1.date
      rw [parsed] at dated
      cases dated
    | some day =>
      have written := (Calendar.parseDate_eq_some_iff.mp parsed).2
      have key : Strings.toLower (Strings.trimSpace last.tenantID) ++ [0x09] ++
          Strings.toLower (Strings.trimSpace last.itemID) ++ [0x09] ++ day.format =
            observationKey last := by rw [written]; rfl
      simp only [key]
      by_cases present : observationKey last ∈ seen
      · rw [if_pos present]
        exact fun both => both.2.2 ((keys _).mp present)
      · rw [if_neg present]
        refine ⟨⟨acceptable, ⟨tenant, shape, item, not_lt.mp negative, by rw [parsed]; rfl⟩,
          fun member => present ((keys _).mpr member)⟩, fun other => ?_⟩
        rw [List.map_append, List.mem_append, List.map_singleton, List.mem_singleton,
          List.mem_cons, keys, or_comm]

theorem validateFeatureObservations_ok (observations : List Observation) :
    validateFeatureObservations observations = .ok () ↔ AcceptableHistory observations := by
  have ends : Ends (fun seen => AcceptableHistory observations ∧
      ∀ key, key ∈ seen ↔ key ∈ observations.map observationKey)
        (¬ AcceptableHistory observations)
          (observations.foldlM validateFeatureObservation []) := by
    refine foldlM_ends (fun front seen => AcceptableHistory front ∧
      ∀ key, key ∈ seen ↔ key ∈ front.map observationKey)
      (fun front => ¬ AcceptableHistory front) ?_ ?_ ?_ observations
    · exact ⟨⟨List.forall_mem_nil _, List.nodup_nil⟩, fun _ => Iff.rfl⟩
    · intro front seen last reached
      exact validateFeatureObservation_ends reached.1 reached.2 last
    · intro front last unacceptable acceptable
      exact unacceptable (acceptableHistory_concat.mp acceptable).1
  rw [validateFeatureObservations]
  cases outcome : observations.foldlM validateFeatureObservation [] with
  | error cause =>
    rw [outcome] at ends
    refine ⟨fun same => ?_, fun acceptable => absurd acceptable ends⟩
    cases same
  | ok seen =>
    rw [outcome] at ends
    exact ⟨fun _ => ends.1, fun _ => rfl⟩

theorem AcceptableHistory.perm {first second : List Observation}
    (acceptable : AcceptableHistory first) (shuffled : first.Perm second) :
    AcceptableHistory second :=
  ⟨fun observation member => acceptable.1 observation (shuffled.mem_iff.mpr member),
    (shuffled.map observationKey).nodup_iff.mp acceptable.2⟩

/-- The series of a panel, sorted by tenant and item, are those of its items in order. -/
theorem Indexes.sortedEntries (indexes : Indexes tenantID series panel)
    (ranging : Ranging SeriesKey) :
    List.Forall₂ (Represents tenantID)
      (sortRows (fun entry : Series => [entry.key.1, entry.key.2]) (ranging.entries series))
      panel.items := by
  obtain ⟨entries, shuffled, represented⟩ := indexes
  have keys : entries.map Series.key = panel.items.map fun item => (tenantID, item.1) :=
    map_eq_of_forall₂ (fun _ _ related => related.1) represented
  have increasing : (entries.map Series.key).Pairwise fun first second =>
      lessBy [first.1, first.2] [second.1, second.2] = true := by
    rw [keys, List.pairwise_map]
    refine panel.sorted.imp fun below => ?_
    rw [lessBy_cons_self]
    exact lessBy_cons_of_less below _ _
  have wide : ∀ entry : Series, [entry.key.1, entry.key.2].length = 2 := fun _ => rfl
  have sorted : sortRows (fun entry : Series => [entry.key.1, entry.key.2])
      (ranging.entries series) = entries :=
    sortRows_of_increasing wide ((ranging.entries_perm series).trans shuffled)
      (List.pairwise_map.mp increasing)
  rw [sorted]
  exact represented

theorem Indexes.rows (indexes : Indexes tenantID series panel) (ranges : Ranges) :
    ∃ found, (sortRows (fun entry : Series => [entry.key.1, entry.key.2])
        (ranges.build.entries series)).mapM (fun entry => featureRowsOf ranges panel.splits entry
          (sortedDates (ranges.buildDates entry.key) entry.days)) = .ok found ∧
      found.flatten = panel.rows tenantID := by
  have each : ∀ entry item, Represents tenantID entry item →
      featureRowsOf ranges panel.splits entry
        (sortedDates (ranges.buildDates entry.key) entry.days) =
          .ok (madeOf (rowAt tenantID) panel.splits item) := by
    rintro ⟨key, days⟩ item related
    obtain ⟨rfl, holds⟩ := id related
    exact related.made _ fun places inside => holds.featureRowsOf ranges places inside
  refine ⟨_, mapM_forall₂ each (indexes.sortedEntries ranges.build), ?_⟩
  rw [← List.flatMap_def]
  rfl

variable {boundary : SourceBoundary} {declared : List Observation}

/-- What `BuildFeatureSnapshot` returns for a history that pictures a panel up to its cutoff. -/
theorem Pictures.buildFeatureSnapshot (pictures : Pictures tenantID declared panel)
    (own : Strings.toLower (Strings.trimSpace tenant) = tenantID)
    (shape : featureTenantUUIDv4 tenantID = true) (acceptable : AcceptableHistory history)
    (cut : declaredObservations history (normalizeBoundary boundary) = .ok declared)
    (some : panel.items ≠ []) (ranges : Ranges) :
    buildFeatureSnapshot ranges history tenant boundary =
      .ok (panel.snapshot tenantID (normalizeBoundary boundary)) := by
  obtain ⟨series, indexed, indexes⟩ := pictures.indexed ranges
  obtain ⟨found, made, sorted⟩ := indexes.rows ranges
  have dates := indexes.uniqueLabelableDates ranges
  have rows : series.rows ≠ [] := fun empty => some (indexes.rows_eq_nil.mp empty)
  have named : tenantID ≠ [] := by
    rintro rfl
    cases shape
  unfold Forecast.buildFeatureSnapshot
  rw [Panel.splits] at made
  simp only [own, named, shape, (validateFeatureObservations_ok history).mpr acceptable, cut,
    indexed, rows, dates, made, sorted, if_false, Bool.not_true, Bool.false_eq_true, bind,
    Except.bind]
  rfl

/-- `BuildFeatureSnapshot` succeeds on the acceptable histories that picture a panel with items
up to their cutoff. -/
theorem buildFeatureSnapshot_ok {snapshot : FeatureSnapshot}
    (own : Strings.toLower (Strings.trimSpace tenant) = tenantID)
    (built : buildFeatureSnapshot ranges history tenant boundary = .ok snapshot) :
    featureTenantUUIDv4 tenantID = true ∧ AcceptableHistory history ∧
      ∃ declared panel, declaredObservations history (normalizeBoundary boundary) = .ok declared ∧
        Pictures tenantID declared panel ∧ panel.items ≠ [] := by
  unfold buildFeatureSnapshot at built
  dsimp only at built
  rw [own] at built
  split_ifs at built with empty shape
  · cases built
  · cases built
  · rw [Bool.not_eq_true', Bool.not_eq_false] at shape
    cases valid : validateFeatureObservations history with
    | error cause =>
      rw [valid] at built
      cases built
    | ok done =>
      cases cut : declaredObservations history (normalizeBoundary boundary) with
      | error cause =>
        rw [valid, cut] at built
        cases built
      | ok declared =>
        cases indexed : indexObservations ranges declared tenantID with
        | error cause =>
          simp only [valid, cut, indexed, bind, Except.bind] at built
          cases built
        | ok series =>
          obtain ⟨panel, pictures, indexes⟩ := pictures_of_indexed indexed
          refine ⟨shape, (validateFeatureObservations_ok history).mp valid, declared, panel, rfl,
            pictures, fun none => ?_⟩
          simp [valid, cut, indexed, bind, Except.bind, indexes.rows_eq_nil.mpr none,
            wrapInvalid] at built

/-! ### The order of the observations -/

theorem declaredObservations_perm {shuffled : List Observation} (shuffle : history.Perm shuffled)
    (cut : declaredObservations history boundary = .ok declared) :
    ∃ others, declaredObservations shuffled boundary = .ok others ∧ declared.Perm others := by
  unfold declaredObservations at cut ⊢
  split_ifs at cut ⊢ with unlimited
  · exact ⟨shuffled, rfl, Except.ok.inj cut ▸ shuffle⟩
  · cases parsed : Calendar.parseDate boundary.sourceCutoffDate with
    | none =>
      rw [parsed] at cut
      cases cut
    | some day =>
      rw [parsed] at cut
      exact ⟨_, rfl, Except.ok.inj cut ▸ shuffle.filter _⟩

theorem buildDataset_perm {shuffled : List Observation} (shuffle : history.Perm shuffled)
    (other : Ranges) {dataset : Dataset}
    (built : buildDataset ranges history tenant = .ok dataset) :
    buildDataset other shuffled tenant = .ok dataset := by
  obtain ⟨named, panel, pictures, some⟩ := buildDataset_ok rfl built
  rw [pictures.buildDataset rfl named some] at built
  rw [← built]
  exact (pictures.perm shuffle).buildDataset rfl named some other

theorem buildFeatureSnapshot_perm {shuffled : List Observation} (shuffle : history.Perm shuffled)
    (other : Ranges) {snapshot : FeatureSnapshot}
    (built : buildFeatureSnapshot ranges history tenant boundary = .ok snapshot) :
    buildFeatureSnapshot other shuffled tenant boundary = .ok snapshot := by
  obtain ⟨shape, acceptable, declared, panel, cut, pictures, some⟩ :=
    buildFeatureSnapshot_ok rfl built
  obtain ⟨others, otherCut, declaredShuffle⟩ := declaredObservations_perm shuffle cut
  rw [pictures.buildFeatureSnapshot rfl shape acceptable cut some] at built
  rw [← built]
  exact (pictures.perm declaredShuffle).buildFeatureSnapshot rfl shape (acceptable.perm shuffle)
    otherCut some other

end Panel

/-- A loop over a map in some order. -/
noncomputable def Ranging.listed (Key : Type) : Ranging Key where
  arrange := Finset.toList
  nodup := Finset.nodup_toList
  mem := fun _ _ => Finset.mem_toList

/-- The same loop the other way round. -/
noncomputable def Ranging.reversed (Key : Type) : Ranging Key where
  arrange := fun keys => keys.toList.reverse
  nodup := fun keys => List.nodup_reverse.mpr keys.nodup_toList
  mem := fun _ _ => List.mem_reverse.trans Finset.mem_toList

/-- Every loop in one kind of order. -/
def Ranges.each (ranging : ∀ Key, Ranging Key) : Ranges where
  dense := ranging _
  denseDates := fun _ => ranging _
  labelable := ranging _
  labelableDates := fun _ => ranging _
  seen := ranging _
  build := ranging _
  buildDates := fun _ => ranging _
  hash := fun _ _ => ranging _

/-- The builders ignore the order of the observations and the orders of their loops over maps:
they succeed on the same histories, with the same examples, rows and checksums. -/
theorem builders_ignore_order (history shuffled : List Observation)
    (shuffle : history.Perm shuffled) (tenantID : Bytes) (boundary : SourceBoundary)
    (ranges others : Ranges) :
    ((∃ dataset, buildDataset ranges history tenantID = .ok dataset) ↔
      ∃ dataset, buildDataset others shuffled tenantID = .ok dataset) ∧
    (∀ dataset other, buildDataset ranges history tenantID = .ok dataset →
      buildDataset others shuffled tenantID = .ok other →
        dataset.examples = other.examples ∧ datasetChecksum dataset = datasetChecksum other) ∧
    ((∃ snapshot, buildFeatureSnapshot ranges history tenantID boundary = .ok snapshot) ↔
      ∃ snapshot, buildFeatureSnapshot others shuffled tenantID boundary = .ok snapshot) ∧
    (∀ snapshot other, buildFeatureSnapshot ranges history tenantID boundary = .ok snapshot →
      buildFeatureSnapshot others shuffled tenantID boundary = .ok other →
        snapshot.rows = other.rows ∧ snapshot.checksum = other.checksum ∧
          snapshot.snapshotID = other.snapshotID) := by
  refine ⟨⟨?_, ?_⟩, ?_, ⟨?_, ?_⟩, ?_⟩
  · rintro ⟨dataset, built⟩
    exact ⟨dataset, buildDataset_perm shuffle others built⟩
  · rintro ⟨dataset, built⟩
    exact ⟨dataset, buildDataset_perm shuffle.symm ranges built⟩
  · intro dataset other built otherBuilt
    rw [buildDataset_perm shuffle others built] at otherBuilt
    cases otherBuilt
    exact ⟨rfl, rfl⟩
  · rintro ⟨snapshot, built⟩
    exact ⟨snapshot, buildFeatureSnapshot_perm shuffle others built⟩
  · rintro ⟨snapshot, built⟩
    exact ⟨snapshot, buildFeatureSnapshot_perm shuffle.symm ranges built⟩
  · intro snapshot other built otherBuilt
    rw [buildFeatureSnapshot_perm shuffle others built] at otherBuilt
    cases otherBuilt
    exact ⟨rfl, rfl, rfl⟩

def shopTenant : Bytes := ascii "11111111-1111-4111-8111-111111111111"

/-- Nine days of one item, which sells out and is filled up again. -/
def shopHistory : List Observation :=
  [("2025-01-01", 3), ("2025-01-02", 2), ("2025-01-03", 1), ("2025-01-04", 0), ("2025-01-05", 5),
    ("2025-01-06", 4), ("2025-01-07", 3), ("2025-01-08", 2), ("2025-01-09", 1)].map
      fun (date, quantity) => ⟨shopTenant, ascii "item-1", ascii date, quantity⟩

def shopPanel : Panel where
  items := [(ascii "item-1", {
    start := ⟨2025, 1, 1, by decide, by decide, by decide, by decide⟩
    quantities := [3, 2, 1, 0, 5, 4, 3, 2, 1]
    nonempty := by decide
    nonnegative := by decide
    readable := by decide +kernel
    short := by decide })]
  sorted := List.pairwise_singleton _ _
  named := by decide

theorem shopPanel_pictures : Pictures shopTenant shopHistory shopPanel := by
  have same : cells shopTenant shopHistory = shopPanel.cells := by decide +kernel
  rw [Pictures, same]

/-- Two days have a week after them, and the rows of both are the same whichever way the days
are read. -/
theorem builders_ignore_order_sample :
    (∃ dataset other, buildDataset (.each .listed) shopHistory shopTenant = .ok dataset ∧
      buildDataset (.each .reversed) shopHistory.reverse shopTenant = .ok other ∧
      dataset.examples.length = 2 ∧ dataset.examples = other.examples) ∧
    ∃ snapshot other,
      buildFeatureSnapshot (.each .listed) shopHistory shopTenant {} = .ok snapshot ∧
      buildFeatureSnapshot (.each .reversed) shopHistory.reverse shopTenant {} = .ok other ∧
      snapshot.rows.length = 2 ∧ snapshot.rows = other.rows := by
  obtain ⟨datasets, examples, snapshots, rows⟩ := builders_ignore_order shopHistory
    shopHistory.reverse (List.reverse_perm _).symm shopTenant {} (.each .listed) (.each .reversed)
  have own : Strings.toLower (Strings.trimSpace shopTenant) = shopTenant := by decide +kernel
  have built := shopPanel_pictures.buildDataset own (by decide) (by simp [shopPanel])
    (.each .listed)
  have acceptable := (validateFeatureObservations_ok shopHistory).mp (by decide +kernel)
  have cut : declaredObservations shopHistory (normalizeBoundary {}) = .ok shopHistory := rfl
  have made := shopPanel_pictures.buildFeatureSnapshot own (by decide +kernel) acceptable cut
    (by simp [shopPanel]) (.each .listed)
  obtain ⟨other, otherBuilt⟩ := datasets.mp ⟨_, built⟩
  obtain ⟨otherRows, otherMade⟩ := snapshots.mp ⟨_, made⟩
  exact ⟨⟨_, other, built, otherBuilt, by decide +kernel, (examples _ _ built otherBuilt).1⟩,
    _, otherRows, made, otherMade, by decide +kernel, (rows _ _ made otherMade).1⟩

/-! ### What the builders say about a history -/

/-- The lines of what is known about an item up to a date. -/
def linesUpTo (known : List Cell) (item date : Bytes) : Bytes :=
  (sortRows (fun cell => [cell.date]) (known.filter fun cell =>
    cell.item = item ∧ Strings.less date cell.date = false)).flatMap fun cell =>
      checksumLine [cell.date, Json.formatInt cell.quantity]

/-- An item is out of stock on a day of the week after a date. -/
def RunsOut (known : List Cell) (item date : Bytes) : Prop :=
  ∃ cell ∈ known, cell.item = item ∧ cell.quantity = 0 ∧
    ∃ ahead ∈ List.range' 1 horizonDays, addDays date ahead = some cell.date

instance (known : List Cell) (item date : Bytes) : Decidable (RunsOut known item date) :=
  inferInstanceAs (Decidable (∃ cell ∈ known, _))

section Described

variable {tenantID : Bytes} {history : List Observation} {panel : Panel} {item : Bytes × Span}
  {place : Nat}

/-- The cells of an item are those of its days. -/
theorem Pictures.mem_cells (pictures : Pictures tenantID history panel)
    (member : item ∈ panel.items) {cell : Cell} (own : cell.item = item.1) :
    cell ∈ cells tenantID history ↔ ∃ place : Nat,
      item.2.quantityAt place = some cell.quantity ∧ cell.date = item.2.text place := by
  simp only [Span.quantityAt_natCast]
  rw [pictures.mem_iff, Panel.mem_cells]
  constructor
  · rintro ⟨other, listed, same, day⟩
    obtain rfl := panel.item_ext member listed (own.symm.trans same)
    exact Span.mem_days.mp day
  · intro day
    exact ⟨item, member, own, Span.mem_days.mpr day⟩

theorem Pictures.linesUpTo (pictures : Pictures tenantID history panel)
    (member : item ∈ panel.items) (inside : place < item.2.length) :
    linesUpTo (cells tenantID history) item.1 (item.2.text place) = item.2.historyText place := by
  let cellAt (earlier : Nat) : Cell :=
    ⟨item.1, item.2.text earlier, (item.2.quantityAt earlier).getD 0⟩
  have sorted : ((List.range (place + 1)).map cellAt).Pairwise fun first second =>
      lessBy [first.date] [second.date] = true := by
    rw [List.pairwise_map]
    refine (List.pairwise_map.mp (Span.firstTexts_sorted inside)).imp fun below => ?_
    exact lessBy_cons_of_less below _ _
  have distinct : (cells tenantID history).Nodup :=
    pictures.nodup_iff.mpr (List.Nodup.of_map _ panel.legal.distinct)
  have different : ((List.range (place + 1)).map cellAt).Nodup := sorted.imp fun below same => by
    rw [same, lessBy_cons_self] at below
    cases below
  have wide : ∀ cell : Cell, [cell.date].length = 1 := fun _ => rfl
  rw [Forecast.linesUpTo, sortRows_of_increasing wide ((List.perm_ext_iff_of_nodup
    (distinct.filter _) different).mpr fun cell => ?_) sorted, List.flatMap_map]
  · rfl
  · rw [List.mem_filter, decide_eq_true_eq, List.mem_map]
    constructor
    · rintro ⟨present, own, early⟩
      obtain ⟨earlier, found, date⟩ := (pictures.mem_cells member own).mp present
      have bound := (Span.quantityAt_isSome earlier).mp (by rw [found]; rfl)
      rw [date, ← Bool.not_eq_true, Span.text_less_iff inside (by omega)] at early
      refine ⟨earlier, List.mem_range.mpr (by omega), ?_⟩
      cases cell
      simp_all [cellAt]
    · rintro ⟨earlier, bound, rfl⟩
      rw [List.mem_range] at bound
      obtain ⟨quantity, found⟩ : ∃ quantity, item.2.quantityAt earlier = some quantity :=
        Option.isSome_iff_exists.mp ((Span.quantityAt_isSome _).mpr (by omega))
      refine ⟨(pictures.mem_cells member rfl).mpr ⟨earlier, by simp [cellAt, found], rfl⟩, rfl, ?_⟩
      rw [← Bool.not_eq_true, Span.text_less_iff inside (by omega)]
      omega

theorem Pictures.label (pictures : Pictures tenantID history panel)
    (member : item ∈ panel.items) (inside : place < item.2.length) :
    item.2.label place =
      if RunsOut (cells tenantID history) item.1 (item.2.text place) then 1 else 0 := by
  refine if_congr ?_ rfl rfl
  rw [List.any_eq_true]
  constructor
  · rintro ⟨ahead, listed, empty⟩
    refine ⟨⟨item.1, item.2.text (place + ahead : Nat), 0⟩, (pictures.mem_cells member rfl).mpr
      ⟨place + ahead, ?_, rfl⟩, rfl, rfl, ahead, listed, Span.addDays_text inside _⟩
    exact beq_iff_eq.mp empty
  · rintro ⟨cell, present, own, empty, ahead, listed, dated⟩
    obtain ⟨later, found, date⟩ := (pictures.mem_cells member own).mp present
    have bound := (Span.quantityAt_isSome later).mp (by rw [found]; rfl)
    rw [Span.addDays_text inside, date, Option.some.injEq] at dated
    have same := Span.text_injective (by omega) dated
    exact ⟨ahead, listed, by rw [same, found, empty]; rfl⟩

end Described

/-- `BuildDataset` fails only on a history that pictures no panel. The hash of an example covers
what was observed of its item up to its date and nothing later, and its label says whether
the item runs out in the week after. -/
theorem examples_describe_history (ranges : Ranges) (history : List Observation) (tenant : Bytes) :
    let tenantID := Strings.toLower (Strings.trimSpace tenant)
    Ends (fun dataset => ∀ row ∈ dataset.examples,
        row.historyHash = digest (linesUpTo (cells tenantID history) row.itemID row.asOfDate) ∧
        row.label = if RunsOut (cells tenantID history) row.itemID row.asOfDate then 1 else 0)
      (tenantID = [] ∨ ∀ panel, Pictures tenantID history panel → panel.items = [])
      (buildDataset ranges history tenant) := by
  intro tenantID
  cases built : buildDataset ranges history tenant with
  | error cause =>
    refine or_iff_not_imp_left.mpr fun named panel pictures => ?_
    by_contra some
    rw [pictures.buildDataset rfl named some ranges] at built
    cases built
  | ok dataset =>
    obtain ⟨named, panel, pictures, some⟩ := buildDataset_ok rfl built
    rw [pictures.buildDataset rfl named some] at built
    cases built
    intro row member
    obtain ⟨item, listed, made⟩ := List.mem_flatMap.mp member
    obtain ⟨place, bound, split⟩ := List.mem_filterMap.mp made
    obtain ⟨entry, -, rfl⟩ := Option.map_eq_some_iff.mp split
    rw [List.mem_range] at bound
    have inside : place < item.2.length := by omega
    exact ⟨congrArg digest (pictures.linesUpTo listed inside).symm, pictures.label listed inside⟩

/-- The split of a date goes by its number among the labelable dates. -/
theorem Panel.splits_numbered {panel : Panel} {date : Bytes} {entry : DateSplit}
    (found : panel.splits.find? date = some entry) : ∃ place,
      panel.labelableDates[place]? = some date ∧ splitOf (place + 1) = some entry.split := by
  obtain ⟨member, rfl⟩ := Table.find?_eq_some_iff.mp found
  rcases Table.mem_storeAll member with stored | ⟨none, -⟩
  · obtain ⟨⟨date, place⟩, listed, made⟩ := List.mem_filterMap.mp stored
    obtain ⟨split, numbered, rfl⟩ := Option.map_eq_some_iff.mp made
    exact ⟨place, List.mk_mem_zipIdx_iff_getElem?.mp listed, numbered⟩
  · cases none

theorem splitOf_order {first second : Nat} {split other : Bytes}
    (found : splitOf first = some split) (next : splitOf second = some other)
    (different : split ≠ other) : first < second ↔ split = splitTrain ∨ other = splitTest := by
  have apart : splitTrain ≠ splitValidation ∧ splitTrain ≠ splitTest ∧
      splitValidation ≠ splitTest := by decide
  grind [splitOf]

/-- The splits of a dataset follow one another in time: of two examples of different splits the
earlier one is of the training split, or the later one of the test split. -/
theorem splits_in_order (ranges : Ranges) (history : List Observation) (tenant : Bytes) :
    Ends (fun dataset => ∀ first ∈ dataset.examples, ∀ second ∈ dataset.examples,
        first.split ≠ second.split → (Strings.less first.asOfDate second.asOfDate = true ↔
          first.split = splitTrain ∨ second.split = splitTest)) True
      (buildDataset ranges history tenant) := by
  cases built : buildDataset ranges history tenant with
  | error cause => trivial
  | ok dataset =>
    obtain ⟨named, panel, pictures, nonempty⟩ := buildDataset_ok rfl built
    rw [pictures.buildDataset rfl named nonempty] at built
    cases built
    have numbered : ∀ row ∈ panel.examples (Strings.toLower (Strings.trimSpace tenant)),
        ∃ place, panel.labelableDates[place]? = some row.asOfDate ∧
          splitOf (place + 1) = some row.split := by
      intro row member
      obtain ⟨item, listed, made⟩ := List.mem_flatMap.mp member
      obtain ⟨place, bound, split⟩ := List.mem_filterMap.mp made
      obtain ⟨entry, found, rfl⟩ := Option.map_eq_some_iff.mp split
      exact Panel.splits_numbered found
    have sorted : panel.labelableDates.Pairwise fun first second =>
        Strings.less first second = true :=
      sortRows_sorted id (by simpa using List.nodup_dedup _)
    rw [List.pairwise_iff_getElem] at sorted
    intro first firstListed second secondListed different
    obtain ⟨place, dated, split⟩ := numbered first firstListed
    obtain ⟨later, laterDated, laterSplit⟩ := numbered second secondListed
    obtain ⟨inside, dated⟩ := List.getElem?_eq_some_iff.mp dated
    obtain ⟨laterInside, laterDated⟩ := List.getElem?_eq_some_iff.mp laterDated
    rw [← splitOf_order split laterSplit different, ← dated, ← laterDated, Nat.succ_lt_succ_iff]
    refine ⟨fun below => ?_, sorted place later inside laterInside⟩
    by_contra notBefore
    rcases Nat.lt_or_eq_of_le (not_lt.mp notBefore) with after | rfl
    · simp [Strings.less_asymm (sorted later place laterInside inside after)] at below
    · simp [Strings.less_irrefl] at below

/-- What an example and a row of features both say. -/
def Example.heading (row : Example) : List Bytes :=
  [row.rowID, row.tenantID, row.itemID, row.asOfDate, row.split, row.sourceCutoffDate,
    row.historyHash]

def FeatureRow.heading (row : FeatureRow) : List Bytes :=
  [row.rowID, row.tenantID, row.itemID, row.asOfDate, row.split, row.sourceCutoffDate,
    row.historyHash]

/-- Where `BuildFeatureSnapshot` returns a snapshot, `BuildDataset` returns the examples of its
rows, one for each and in their order, for the observations up to the cutoff. -/
theorem snapshot_fits_dataset (ranges others : Ranges) (history : List Observation)
    (tenant : Bytes) (boundary : SourceBoundary) :
    Ends (fun snapshot => ∃ declared dataset,
        declaredObservations history (normalizeBoundary boundary) = .ok declared ∧
        buildDataset others declared tenant = .ok dataset ∧
        dataset.examples.map Example.heading = snapshot.rows.map FeatureRow.heading) True
      (buildFeatureSnapshot ranges history tenant boundary) := by
  cases built : buildFeatureSnapshot ranges history tenant boundary with
  | error cause => trivial
  | ok snapshot =>
    obtain ⟨shape, acceptable, declared, panel, cut, pictures, some⟩ :=
      buildFeatureSnapshot_ok rfl built
    rw [pictures.buildFeatureSnapshot rfl shape acceptable cut some] at built
    cases built
    have named : Strings.toLower (Strings.trimSpace tenant) ≠ [] := by
      intro empty
      rw [empty] at shape
      cases shape
    refine ⟨declared, _, cut, pictures.buildDataset rfl named some others, ?_⟩
    simp only [Panel.dataset, Panel.snapshot, finalizeFeatureSnapshot, Panel.examples, Panel.rows,
      madeOf, List.map_flatMap, List.map_filterMap, Option.map_map]
    rfl

end Forecast

end SeshatOps
