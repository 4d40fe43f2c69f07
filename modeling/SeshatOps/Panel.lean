/-
This file gives the builders of the forecasts an abstract model. A panel lists the items of a
tenant with their spans: a first day and one quantity for each day from it on. A span has no
gaps by construction, so what the builders look up by the texts of dates becomes arithmetic
on places in a list.

A history pictures a panel when its observations for the tenant are the days of the panel,
each one once. Whether it does depends on neither the order of the observations nor the
order in which maps are ranged over, and `indexObservations` succeeds exactly on the
histories that picture a panel.
-/

import SeshatOps.Dataset
import SeshatOps.Loops
import SeshatOps.SortedReads

namespace SeshatOps

open Relational Sorting Loops

/-! ### The order of strings -/

namespace Strings

theorem less_iff (first second : Bytes) :
    less first second = true ↔ first.map UInt8.toNat < second.map UInt8.toNat := by
  rw [less, decide_eq_true_eq]

theorem less_irrefl (text : Bytes) : less text text = false := by
  rw [← Bool.not_eq_true, less_iff]
  exact lt_irrefl _

theorem less_asymm {first second : Bytes} (below : less first second = true) :
    less second first = false := by
  rw [← Bool.not_eq_true, less_iff]
  exact lt_asymm ((less_iff _ _).mp below)

theorem ne_of_less {first second : Bytes} (below : less first second = true) :
    first ≠ second := by
  rintro rfl
  rw [less_irrefl] at below
  cases below

end Strings

theorem lessBy_cons_self (column : Bytes) (first second : List Bytes) :
    lessBy (column :: first) (column :: second) = lessBy first second := by
  rw [lessBy, if_neg (not_not.mpr rfl)]

theorem lessBy_cons_of_less {column other : Bytes} (below : Strings.less column other = true)
    (first second : List Bytes) : lessBy (column :: first) (other :: second) = true := by
  rw [lessBy, if_pos (Strings.ne_of_less below), below]

namespace Forecast

/-- Texts that go up stay as they are. -/
theorem sortStrings_of_sorted {texts : List Bytes}
    (sorted : texts.Pairwise fun first second => Strings.less first second = true) :
    sortStrings texts = texts := by
  refine List.Pairwise.insertionSort_eq (sorted.imp fun below => ?_)
  rw [lessBy, if_pos (Strings.ne_of_less below).symm, Strings.less_asymm below]

theorem sortStrings_congr {first second : List Bytes} (firstDistinct : first.Nodup)
    (secondDistinct : second.Nodup) (same : ∀ text, text ∈ first ↔ text ∈ second) :
    sortStrings first = sortStrings second := by
  have wide : ∀ text : Bytes, [text].length = 1 := fun _ => rfl
  exact sortRows_congr wide firstDistinct secondDistinct same fun text _ other _ equal =>
    List.singleton_inj.mp equal

/-- Rows that are sorted by a column without duplicates go up in it. -/
theorem sortRows_sorted {Row : Type} (column : Row → Bytes) {rows : List Row}
    (distinct : (rows.map column).Nodup) :
    (sortRows (fun row => [column row]) rows).Pairwise fun first second =>
      Strings.less (column first) (column second) = true := by
  have wide : ∀ row : Row, [column row].length = 1 := fun _ => rfl
  have sorted := (sorts_columns wide).pairwise rows
  have nodup : ((sortRows (fun row => [column row]) rows).map column).Nodup :=
    ((List.perm_insertionSort _ _).map column).nodup_iff.mpr distinct
  refine (sorted.and (List.pairwise_map.mp nodup)).imp ?_
  rintro first second ⟨notAbove, different⟩
  rw [lessBy, if_pos (Ne.symm different)] at notAbove
  rw [← Bool.not_eq_true, Strings.less_iff, not_lt] at notAbove
  rw [Strings.less_iff]
  refine lt_of_le_of_ne notAbove fun equal => different ?_
  exact List.map_injective_iff.mpr (fun _ _ => UInt8.toNat_inj.mp) equal

theorem mem_sortStrings {text : Bytes} {texts : List Bytes} :
    text ∈ sortStrings texts ↔ text ∈ texts := List.mem_insertionSort _

/-! ### Ranging over maps -/

section Ranging

variable {Row Key : Type} [DecidableEq Key] {key : Row → Key}

/-- A loop over a map visits each entry once. -/
theorem Ranging.entries_perm (ranging : Ranging Key) (table : Table key) :
    (ranging.entries table).Perm table.rows := by
  have found : ∀ row ∈ table.rows, table.find? (key row) = some row := fun row member =>
    Table.find?_eq_some_iff.mpr ⟨member, rfl⟩
  have whole : (table.rows.map key).filterMap table.find? = table.rows := by
    rw [List.filterMap_map]
    refine (List.filterMap_congr fun row member => ?_).trans (List.filterMap_some ..)
    exact found row member
  have keys : (ranging.visit (table.rows.map key)).Perm (table.rows.map key) :=
    (List.perm_ext_iff_of_nodup (ranging.nodup_visit _) table.unique).mpr
      (ranging.mem_visit (table.rows.map key))
  have listed := keys.filterMap table.find?
  rwa [whole] at listed

end Ranging

/-- The dates of an item come out in one order, whatever the loop. -/
theorem sortedDates_eq (ranging : Ranging Bytes) (days : Table Day.date) :
    sortedDates ranging days = sortStrings (days.rows.map Day.date) :=
  sortStrings_congr (ranging.nodup_visit _) days.unique (ranging.mem_visit _)

/-! ### Spans -/

/-- Days that follow one another, each with its quantity. -/
structure Span where
  start : Calendar.Date
  quantities : List Int
  nonempty : quantities ≠ []
  nonnegative : ∀ quantity ∈ quantities, 0 ≤ quantity
  readable : ∀ place < quantities.length, (start.plus place).readable = true
  short : quantities.length ≤ 106752

namespace Span

variable (span : Span)

def length : Nat := span.quantities.length

/-- The text of a day, counted from the start of the span. -/
def text (offset : Int) : Bytes := (span.start.plus offset).format

/-- The quantity of a day, counted from the start of the span. -/
def quantityAt (offset : Int) : Option Int :=
  if 0 ≤ offset then span.quantities[offset.toNat]? else none

/-- The days of the span. -/
def days : List Day :=
  span.quantities.zipIdx.map fun (quantity, place) => ⟨span.text place, quantity⟩

variable {span}

theorem mem_days {day : Day} : day ∈ span.days ↔
    ∃ place : Nat, span.quantities[place]? = some day.quantity ∧ day.date = span.text place := by
  simp only [days, List.mem_map, Prod.exists, List.mk_mem_zipIdx_iff_getElem?]
  constructor
  · rintro ⟨quantity, place, found, rfl⟩
    exact ⟨place, found, rfl⟩
  · rintro ⟨place, found, date⟩
    exact ⟨day.quantity, place, found, by rw [← date]⟩

theorem readable_of_place {place : Nat} (inside : place < span.length) :
    (span.start.plus place).readable = true := span.readable place inside

/-- Only a day of the span has the text of a day of the span. -/
theorem text_injective {place : Nat} {offset : Int} (inside : place < span.length)
    (same : span.text offset = span.text place) : offset = place := by
  have readable := Calendar.readable_of_format same.symm (readable_of_place inside)
  have dates := Calendar.format_injective readable (readable_of_place inside) same
  exact Calendar.Date.plus_injective span.start dates

theorem text_less_iff {first second : Nat} (firstInside : first < span.length)
    (secondInside : second < span.length) :
    Strings.less (span.text first) (span.text second) = true ↔ first < second := by
  rw [text, text, Calendar.format_less_iff (readable_of_place firstInside)
    (readable_of_place secondInside)]
  constructor
  · intro below
    by_contra notBelow
    rcases Nat.lt_or_eq_of_le (Nat.le_of_not_lt notBelow) with above | same
    · exact lt_asymm below (Calendar.Date.plus_lt_plus span.start (Int.ofNat_lt.mpr above))
    · exact lt_irrefl _ (same ▸ below)
  · intro below
    exact Calendar.Date.plus_lt_plus span.start (Int.ofNat_lt.mpr below)

/-- The texts of the first days, in order. -/
def firstTexts (span : Span) (count : Nat) : List Bytes :=
  (List.range count).map fun place : Nat => span.text place

/-- The texts of the days, in order. -/
def texts (span : Span) : List Bytes := span.firstTexts span.length

theorem firstTexts_sorted {count : Nat} (bound : count ≤ span.length) :
    (span.firstTexts count).Pairwise fun first second => Strings.less first second = true := by
  rw [firstTexts, List.pairwise_map]
  refine (List.pairwise_lt_range).imp_of_mem ?_
  intro first second firstMember secondMember below
  rw [List.mem_range] at firstMember secondMember
  exact (text_less_iff (by omega) (by omega)).mpr below

theorem firstTexts_nodup {count : Nat} (bound : count ≤ span.length) :
    (span.firstTexts count).Nodup := (firstTexts_sorted bound).imp Strings.ne_of_less

theorem mem_firstTexts {count : Nat} {date : Bytes} :
    date ∈ span.firstTexts count ↔ ∃ place < count, date = span.text place := by
  simp only [firstTexts, List.mem_map, List.mem_range]
  exact exists_congr fun place => and_congr_right fun _ => eq_comm

theorem map_date_days : span.days.map Day.date = span.texts := by
  rw [days, texts, firstTexts, List.map_map, List.range_eq_range', length,
    ← List.zipIdx_map_snd 0, List.map_map]
  rfl

theorem exists_day (span : Span) : ∃ day, day ∈ span.days := by
  obtain ⟨quantity, rest, split⟩ := List.exists_cons_of_ne_nil span.nonempty
  exact ⟨⟨span.text (0 : Nat), quantity⟩, mem_days.mpr ⟨0, by rw [split]; rfl, rfl⟩⟩

theorem quantityAt_natCast (place : Nat) : span.quantityAt place = span.quantities[place]? := by
  rw [quantityAt, if_pos (by omega), Int.toNat_natCast]

theorem quantityAt_isSome (offset : Int) :
    (span.quantityAt offset).isSome = true ↔ 0 ≤ offset ∧ offset < span.length := by
  unfold quantityAt length
  split_ifs with positive
  · rw [isSome_getElem?]
    omega
  · simp [positive]

/-- Adding days to a day of the span. -/
theorem addDays_text {place : Nat} (inside : place < span.length) (count : Int) :
    addDays (span.text place) count = some (span.text (place + count)) := by
  rw [addDays, text, Calendar.parseDate_format (readable_of_place inside), Option.map_some,
    Calendar.Date.plus_plus]
  rfl

end Span

/-! ### Maps that hold a span -/

/-- A map of days holds a span. -/
def Holds (days : Table Day.date) (span : Span) : Prop :=
  ∀ day, day ∈ days.rows ↔ day ∈ span.days

section Holding

variable {days : Table Day.date} {span : Span}

theorem Holds.find? (holds : Holds days span) (offset : Int) :
    days.find? (span.text offset) =
      (span.quantityAt offset).map fun quantity => ⟨span.text offset, quantity⟩ := by
  refine Option.ext fun day => ?_
  rw [Table.find?_eq_some_iff, holds, Span.mem_days, Option.map_eq_some_iff]
  constructor
  · rintro ⟨⟨place, found, date⟩, own⟩
    have inside := (List.getElem?_eq_some_iff.mp found).1
    have same := Span.text_injective inside (own.symm.trans date)
    refine ⟨day.quantity, ?_, by rw [← own]⟩
    rw [same, Span.quantityAt_natCast, found]
  · rintro ⟨quantity, found, rfl⟩
    have inside := (Span.quantityAt_isSome offset).mp (by rw [found]; rfl)
    obtain ⟨place, rfl⟩ : ∃ place : Nat, offset = place := ⟨offset.toNat, by omega⟩
    rw [Span.quantityAt_natCast] at found
    exact ⟨⟨place, found, rfl⟩, rfl⟩

theorem Holds.mem_dates (holds : Holds days span) (date : Bytes) :
    date ∈ days.rows.map Day.date ↔ date ∈ span.texts := by
  rw [Span.texts, Span.mem_firstTexts, List.mem_map]
  constructor
  · rintro ⟨day, member, rfl⟩
    obtain ⟨place, found, same⟩ := Span.mem_days.mp ((holds day).mp member)
    exact ⟨place, (List.getElem?_eq_some_iff.mp found).1, same⟩
  · rintro ⟨place, inside, rfl⟩
    have found : span.quantities[place]? = some span.quantities[place] :=
      List.getElem?_eq_getElem inside
    exact ⟨⟨span.text place, _⟩, (holds _).mpr (Span.mem_days.mpr ⟨place, found, rfl⟩), rfl⟩

theorem Holds.sortedDates (holds : Holds days span) (ranging : Ranging Bytes) :
    sortedDates ranging days = span.texts := by
  rw [sortedDates_eq, Span.texts, ← sortStrings_of_sorted (Span.firstTexts_sorted le_rfl)]
  exact sortStrings_congr days.unique (Span.firstTexts_nodup le_rfl) holds.mem_dates

theorem Span.texts_cons (span : Span) : ∃ rest, span.texts = span.text 0 :: rest := by
  obtain ⟨rest, split⟩ : ∃ rest, List.range span.length = 0 :: rest := by
    cases size : span.length with
    | zero => exact absurd (List.length_eq_zero_iff.mp size) span.nonempty
    | succ less => exact ⟨_, List.range_succ_eq_map⟩
  exact ⟨_, by rw [Span.texts, Span.firstTexts, split, List.map_cons]; rfl⟩

theorem Span.getLast_texts (span : Span) (nonempty : span.texts ≠ []) :
    span.texts.getLast nonempty = span.text ((span.length - 1 : Nat) : Int) := by
  rw [List.getLast_eq_getElem]
  simp [Span.texts, Span.firstTexts]

theorem Span.length_texts (span : Span) : span.texts.length = span.length := by
  rw [Span.texts, Span.firstTexts, List.length_map, List.length_range]

theorem Span.length_pos (span : Span) : 0 < span.length := List.length_pos_of_ne_nil span.nonempty

/-- A span passes the check of its dates. -/
theorem Holds.requireDense (holds : Holds days span) (ranging : Ranging Bytes) (key : SeriesKey) :
    requireDense ranging ⟨key, days⟩ = .ok () := by
  have positive := span.length_pos
  have short : span.length ≤ 106752 := span.short
  obtain ⟨rest, split⟩ := span.texts_cons
  have first : Calendar.parseDate (span.text 0) = some span.start := by
    have readable := Span.readable_of_place positive
    exact Calendar.parseDate_format readable
  have last : Calendar.parseDate (span.text ((span.length - 1 : Nat) : Int)) =
      some (span.start.plus ((span.length - 1 : Nat) : Int)) :=
    Calendar.parseDate_format (Span.readable_of_place (by omega))
  have ending := span.getLast_texts (split ▸ List.cons_ne_nil _ _)
  have lengths := span.length_texts
  have daily : followsDaily span.start span.texts = true := by
    rw [followsDaily, List.all_eq_true]
    rintro ⟨date, place⟩ member
    rw [List.mk_mem_zipIdx_iff_getElem?] at member
    obtain ⟨inside, same⟩ := List.getElem?_eq_some_iff.mp member
    rw [beq_iff_eq, ← same]
    simp [Span.texts, Span.firstTexts, Span.text]
  unfold Forecast.requireDense
  simp only [holds.sortedDates ranging]
  simp only [split] at ending lengths daily ⊢
  simp only [first, ending, last, daily]
  have count : daysBetween span.start (span.start.plus ((span.length - 1 : Nat) : Int)) + 1 =
      (span.text 0 :: rest).length := by
    rw [daysBetween, Calendar.Date.ordinal_plus, lengths]
    omega
  rw [if_neg (not_not.mpr count)]
  rfl

/-- What passes the check of its dates has dates that follow one another. -/
theorem requireDense_ok {ranging : Ranging Bytes} {key : SeriesKey}
    (dense : requireDense ranging ⟨key, days⟩ = .ok ()) : ∃ start : Calendar.Date,
      Forecast.sortedDates ranging days ≠ [] ∧
      (Forecast.sortedDates ranging days).length ≤ 106752 ∧
      ∀ (place : Nat) date, (Forecast.sortedDates ranging days)[place]? = some date →
        date = (start.plus place).format := by
  unfold Forecast.requireDense at dense
  dsimp only at dense
  generalize Forecast.sortedDates ranging days = dates at dense
  cases dates with
  | nil => cases dense
  | cons first rest =>
    cases begun : Calendar.parseDate first with
    | none => simp [begun, wrapInvalid] at dense
    | some start =>
      simp only [begun] at dense
      cases ended : Calendar.parseDate ((first :: rest).getLast (List.cons_ne_nil first rest)) with
      | none => simp [ended, wrapInvalid] at dense
      | some stop =>
        simp only [ended] at dense
        split_ifs at dense with count daily
        · cases dense
        · cases dense
        · rw [daysBetween] at count
          rw [Bool.not_eq_true', Bool.not_eq_false, followsDaily, List.all_eq_true] at daily
          refine ⟨start, List.cons_ne_nil _ _, by omega, fun place date found => ?_⟩
          exact beq_iff_eq.mp (daily (date, place) (List.mk_mem_zipIdx_iff_getElem?.mpr found))

/-- What passes the check of its dates is a span. -/
theorem exists_span_of_requireDense {ranging : Ranging Bytes} {key : SeriesKey}
    (nonnegative : ∀ day ∈ days.rows, 0 ≤ day.quantity)
    (dated : ∀ day ∈ days.rows, (Calendar.parseDate day.date).isSome = true)
    (dense : requireDense ranging ⟨key, days⟩ = .ok ()) : ∃ span, Holds days span := by
  have listed : ∀ date, date ∈ Forecast.sortedDates ranging days ↔ date ∈ days.rows.map Day.date :=
    fun date => mem_sortStrings.trans (ranging.mem_visit _ date)
  obtain ⟨start, nonempty, short, daily⟩ := requireDense_ok dense
  generalize Forecast.sortedDates ranging days = dates at listed nonempty short daily
  have stored : ∀ date ∈ dates, ∃ day ∈ days.rows, days.find? date = some day ∧
      day.date = date := by
    intro date member
    obtain ⟨day, row, rfl⟩ := List.mem_map.mp ((listed date).mp member)
    exact ⟨day, row, Table.find?_eq_some_iff.mpr ⟨row, rfl⟩, rfl⟩
  let quantities := dates.map fun date => ((days.find? date).map Day.quantity).getD 0
  have size : quantities.length = dates.length := List.length_map _
  refine ⟨⟨start, quantities, fun empty => nonempty (List.map_eq_nil_iff.mp empty), ?_, ?_,
    size.trans_le short⟩, fun day => ?_⟩
  · intro quantity member
    obtain ⟨date, listing, rfl⟩ := List.mem_map.mp member
    obtain ⟨day, row, found, -⟩ := stored date listing
    rw [found]
    exact nonnegative day row
  · intro place inside
    have bound : place < dates.length := size ▸ inside
    have found : dates[place]? = some dates[place] := List.getElem?_eq_getElem bound
    obtain ⟨day, row, -, own⟩ := stored _ (List.mem_of_getElem? found)
    obtain ⟨date, parsed⟩ := Option.isSome_iff_exists.mp (dated day row)
    obtain ⟨readable, written⟩ := Calendar.parseDate_eq_some_iff.mp parsed
    rw [own, daily place _ found] at written
    exact Calendar.readable_of_format written readable
  · rw [Span.mem_days]
    constructor
    · intro row
      obtain ⟨place, found⟩ := List.getElem?_of_mem ((listed _).mpr (List.mem_map_of_mem row))
      refine ⟨place, ?_, daily place _ found⟩
      have same : days.find? day.date = some day :=
        Table.find?_eq_some_iff.mpr ⟨row, rfl⟩
      simp only [List.getElem?_map, found, Option.map_some, same, Option.getD_some, quantities]
    · rintro ⟨place, found, date⟩
      obtain ⟨listing, member, quantity⟩ := Option.map_eq_some_iff.mp
        ((List.getElem?_map ..).symm.trans found)
      obtain ⟨other, row, same, own⟩ := stored listing (List.mem_of_getElem? member)
      rw [same] at quantity
      have equal : day = other := by
        cases day
        cases other
        exact congrArg₂ Day.mk (date.trans ((daily place _ member).symm.trans own.symm))
          quantity.symm
      rw [equal]
      exact row

end Holding

/-! ### The observations of a tenant -/

/-- What an observation says about a tenant. -/
structure Cell where
  item : Bytes
  date : Bytes
  quantity : Int
  deriving DecidableEq

/-- The day that a cell is about. -/
def Cell.key (cell : Cell) : Bytes × Bytes := (cell.item, cell.date)

/-- The day of an item, as a cell. -/
def Day.cell (item : Bytes) (day : Day) : Cell := ⟨item, day.date, day.quantity⟩

def Cell.valid (cell : Cell) : Prop :=
  cell.item ≠ [] ∧ 0 ≤ cell.quantity ∧ (Calendar.parseDate cell.date).isSome = true

/-- What an observation says about the tenant, when it is one of the tenant. -/
def cellOf (tenantID : Bytes) (observation : Observation) : Option Cell :=
  if Strings.toLower (Strings.trimSpace observation.tenantID) = tenantID then
    some ⟨Strings.toLower (Strings.trimSpace observation.itemID), observation.asOfDate,
      observation.quantityOnHand⟩
  else none

/-- What a history says about a tenant. -/
def cells (tenantID : Bytes) (observations : List Observation) : List Cell :=
  observations.filterMap (cellOf tenantID)

/-- Cells that `indexObservations` takes: all of them valid, one for each day of an item. -/
structure Legal (cells : List Cell) : Prop where
  valid : ∀ cell ∈ cells, cell.valid
  distinct : (cells.map Cell.key).Nodup

theorem Legal.front {front back : List Cell} (legal : Legal (front ++ back)) : Legal front where
  valid := fun cell member => legal.valid cell (List.mem_append_left _ member)
  distinct := (List.sublist_append_left _ _).map Cell.key |>.nodup legal.distinct

theorem legal_concat {front : List Cell} {cell : Cell} :
    Legal (front ++ [cell]) ↔ Legal front ∧ cell.valid ∧ cell.key ∉ front.map Cell.key := by
  have both : ∀ cells, Legal cells ↔
      (∀ cell ∈ cells, cell.valid) ∧ (cells.map Cell.key).Nodup :=
    fun cells => ⟨fun legal => ⟨legal.valid, legal.distinct⟩, fun parts => ⟨parts.1, parts.2⟩⟩
  rw [both, both]
  exact valid_nodup_concat

/-- A map of series gathers cells. -/
structure Gathers (tenantID : Bytes) (cells : List Cell) (series : Table Series.key) : Prop where
  tenant : ∀ entry ∈ series.rows, entry.key.1 = tenantID
  nonempty : ∀ entry ∈ series.rows, entry.days.rows ≠ []
  days : ∀ entry ∈ series.rows, ∀ day, day ∈ entry.days.rows ↔ day.cell entry.key.2 ∈ cells
  series : ∀ cell ∈ cells, ∃ entry ∈ series.rows, entry.key = (tenantID, cell.item)

/-- The days that are gathered for an item. -/
def gatheredDays (series : Table Series.key) (key : SeriesKey) : Table Day.date :=
  ((series.find? key).map Series.days).getD .empty

section Gathering

variable {tenantID : Bytes} {listed : List Cell} {series : Table Series.key}

theorem Gathers.mem_gatheredDays (gathers : Gathers tenantID listed series) (item : Bytes)
    (day : Day) : day ∈ (gatheredDays series (tenantID, item)).rows ↔ day.cell item ∈ listed := by
  unfold gatheredDays
  cases found : series.find? (tenantID, item) with
  | none =>
    refine ⟨fun member => absurd member List.not_mem_nil, fun member => ?_⟩
    obtain ⟨entry, row, own⟩ := gathers.series _ member
    exact absurd own (Table.find?_eq_none_iff.mp found entry row)
  | some entry =>
    obtain ⟨row, own⟩ := Table.find?_eq_some_iff.mp found
    have days := gathers.days entry row day
    rw [own] at days
    exact days

theorem Gathers.find?_isSome (gathers : Gathers tenantID listed series) (item date : Bytes) :
    ((gatheredDays series (tenantID, item)).find? date).isSome = true ↔
      (item, date) ∈ listed.map Cell.key := by
  rw [Option.isSome_iff_exists, List.mem_map]
  constructor
  · rintro ⟨day, found⟩
    obtain ⟨row, rfl⟩ := Table.find?_eq_some_iff.mp found
    exact ⟨_, (gathers.mem_gatheredDays item day).mp row, rfl⟩
  · rintro ⟨cell, member, same⟩
    obtain ⟨rfl, rfl⟩ := Prod.mk.inj same
    exact ⟨⟨cell.date, cell.quantity⟩, Table.find?_eq_some_iff.mpr
      ⟨(gathers.mem_gatheredDays _ _).mpr member, rfl⟩⟩

/-- A cell of a new day is gathered by storing its day. -/
theorem Gathers.store (gathers : Gathers tenantID listed series) {cell : Cell}
    (fresh : cell.key ∉ listed.map Cell.key) :
    Gathers tenantID (listed ++ [cell]) (series.store ⟨(tenantID, cell.item),
      (gatheredDays series (tenantID, cell.item)).store ⟨cell.date, cell.quantity⟩⟩) where
  tenant := Table.forall_mem_store gathers.tenant rfl
  nonempty := Table.forall_mem_store gathers.nonempty
    (List.ne_nil_of_mem (Table.mem_store_self _ _))
  days := by
    intro entry member day
    rw [List.mem_append, List.mem_singleton]
    rcases Table.mem_store.mp member with ⟨old, other⟩ | rfl
    · rw [gathers.days entry old day, or_iff_left]
      rintro rfl
      exact other (Prod.ext (gathers.tenant entry old) rfl)
    · rw [Table.mem_store, gathers.mem_gatheredDays]
      constructor
      · rintro (⟨old, -⟩ | rfl)
        · exact Or.inl old
        · exact Or.inr rfl
      · rintro (old | new)
        · refine Or.inl ⟨old, fun same => fresh ?_⟩
          exact List.mem_map.mpr ⟨_, old, Prod.ext rfl same⟩
        · exact Or.inr (by rw [← new]; rfl)
  series := by
    intro other member
    by_cases same : other.item = cell.item
    · exact ⟨_, Table.mem_store_self _ _, by rw [same]⟩
    · rcases List.mem_append.mp member with old | new
      · obtain ⟨entry, row, own⟩ := gathers.series other old
        refine ⟨entry, Table.mem_store_of_ne _ row fun equal => same ?_, own⟩
        rw [own] at equal
        exact (Prod.mk.inj equal).2
      · rw [List.mem_singleton.mp new] at same
        exact absurd rfl same

end Gathering

/-- One observation. -/
theorem indexed_step {tenantID : Bytes} {listed : List Cell} {series : Table Series.key}
    (legal : Legal listed) (gathers : Gathers tenantID listed series) (observation : Observation) :
    Ends (fun next => Legal (listed ++ cells tenantID [observation]) ∧
        Gathers tenantID (listed ++ cells tenantID [observation]) next)
      (¬ Legal (listed ++ cells tenantID [observation]))
      (indexObservation tenantID series observation) := by
  unfold indexObservation
  dsimp only
  by_cases own : Strings.toLower (Strings.trimSpace observation.tenantID) = tenantID
  · have single : cells tenantID [observation] =
        [⟨Strings.toLower (Strings.trimSpace observation.itemID), observation.asOfDate,
          observation.quantityOnHand⟩] := by
      simp [cells, cellOf, own]
    rw [single, if_neg (not_not.mpr own), own]
    generalize Strings.toLower (Strings.trimSpace observation.itemID) = item
    by_cases empty : item = []
    · rw [if_pos empty]
      exact fun legal => (legal_concat.mp legal).2.1.1 empty
    · rw [if_neg empty]
      by_cases negative : observation.quantityOnHand < 0
      · rw [if_pos negative]
        exact fun legal => absurd (legal_concat.mp legal).2.1.2.1 (not_le.mpr negative)
      · rw [if_neg negative]
        cases parsed : Calendar.parseDate observation.asOfDate with
        | none =>
          intro legal
          have dated := (legal_concat.mp legal).2.1.2.2
          simp [parsed] at dated
        | some day =>
          have written := (Calendar.parseDate_eq_some_iff.mp parsed).2
          simp only [written, ne_eq, not_true_eq_false, if_false]
          have presence := gathers.find?_isSome item observation.asOfDate
          rw [gatheredDays] at presence
          by_cases present : (item, observation.asOfDate) ∈ listed.map Cell.key
          · rw [if_pos (presence.mpr present)]
            exact fun legal => (legal_concat.mp legal).2.2 present
          · rw [if_neg fun found => present (presence.mp found)]
            have valid : Cell.valid ⟨item, observation.asOfDate, observation.quantityOnHand⟩ :=
              ⟨empty, not_lt.mp negative, by rw [parsed]; rfl⟩
            exact ⟨legal_concat.mpr ⟨legal, valid, present⟩, gathers.store present⟩
  · have none : cells tenantID [observation] = [] := by simp [cells, cellOf, own]
    rw [none, List.append_nil, if_pos own]
    exact ⟨legal, gathers⟩

/-- The loop over the observations. -/
theorem indexed_fold (tenantID : Bytes) (observations : List Observation) :
    Ends (fun series => Legal (cells tenantID observations) ∧
        Gathers tenantID (cells tenantID observations) series)
      (¬ Legal (cells tenantID observations))
      (observations.foldlM (indexObservation tenantID) .empty) := by
  have whole : ∀ front last, cells tenantID (front ++ [last]) =
      cells tenantID front ++ cells tenantID [last] := fun _ _ => List.filterMap_append
  refine foldlM_ends (fun front series => Legal (cells tenantID front) ∧
    Gathers tenantID (cells tenantID front) series)
    (fun front => ¬ Legal (cells tenantID front)) ?_ ?_ ?_ observations
  · exact ⟨⟨List.forall_mem_nil _, List.nodup_nil⟩, List.forall_mem_nil _, List.forall_mem_nil _,
      List.forall_mem_nil _, List.forall_mem_nil _⟩
  · intro front series last reached
    rw [whole]
    exact indexed_step reached.1 reached.2 last
  · intro front last illegal legal
    rw [whole] at legal
    exact illegal legal.front

/-! ### Panels -/

/-- The items of a tenant in order, each with its span. -/
structure Panel where
  items : List (Bytes × Span)
  sorted : items.Pairwise fun first second => Strings.less first.1 second.1 = true
  named : ∀ item ∈ items, item.1 ≠ []

/-- The cells of an item. -/
def itemCells (item : Bytes × Span) : List Cell := item.2.days.map (Day.cell item.1)

theorem mem_itemCells {item : Bytes × Span} {cell : Cell} :
    cell ∈ itemCells item ↔ cell.item = item.1 ∧ ⟨cell.date, cell.quantity⟩ ∈ item.2.days := by
  rw [itemCells, List.mem_map]
  constructor
  · rintro ⟨day, member, rfl⟩
    exact ⟨rfl, member⟩
  · rintro ⟨own, member⟩
    exact ⟨_, member, by cases cell; cases own; rfl⟩

namespace Panel

variable (panel : Panel)

def cells : List Cell := panel.items.flatMap itemCells

variable {panel}

theorem mem_cells {cell : Cell} : cell ∈ panel.cells ↔
    ∃ item ∈ panel.items, cell.item = item.1 ∧ ⟨cell.date, cell.quantity⟩ ∈ item.2.days := by
  simp only [cells, List.mem_flatMap, mem_itemCells]

theorem names_nodup : (panel.items.map Prod.fst).Nodup := by
  rw [List.nodup_iff_pairwise_ne, List.pairwise_map]
  exact panel.sorted.imp Strings.ne_of_less

/-- Two items of one name are one item. -/
theorem item_ext {first second : Bytes × Span} (firstMember : first ∈ panel.items)
    (secondMember : second ∈ panel.items) (same : first.1 = second.1) : first = second :=
  List.inj_on_of_nodup_map names_nodup firstMember secondMember same

/-- The cells of a panel are valid, and no day has two of them. -/
theorem legal (panel : Panel) : Legal panel.cells where
  valid := by
    intro cell member
    obtain ⟨item, listed, own, day⟩ := mem_cells.mp member
    obtain ⟨place, found, date⟩ := Span.mem_days.mp day
    have readable := Span.readable_of_place (List.getElem?_eq_some_iff.mp found).1
    refine ⟨own ▸ panel.named item listed, item.2.nonnegative _ (List.mem_of_getElem? found), ?_⟩
    rw [show cell.date = item.2.text place from date, Span.text,
      Calendar.parseDate_format readable]
    rfl
  distinct := by
    have keys : ∀ item : Bytes × Span,
        (itemCells item).map Cell.key = item.2.texts.map (Prod.mk item.1) := by
      intro item
      rw [itemCells, ← Span.map_date_days, List.map_map, List.map_map]
      rfl
    rw [cells, List.map_flatMap, List.nodup_flatMap]
    refine ⟨fun item _ => ?_, panel.sorted.imp fun {first second} below => ?_⟩
    · rw [keys]
      exact (Span.firstTexts_nodup le_rfl).map (Prod.mk_right_injective _)
    · intro key firstMember secondMember
      simp only [keys] at firstMember secondMember
      obtain ⟨_, _, rfl⟩ := List.mem_map.mp firstMember
      obtain ⟨_, _, same⟩ := List.mem_map.mp secondMember
      exact Strings.ne_of_less below (Prod.mk.inj same).1.symm

end Panel

/-- A series is the one of an item. -/
def Represents (tenantID : Bytes) (entry : Series) (item : Bytes × Span) : Prop :=
  entry.key = (tenantID, item.1) ∧ Holds entry.days item.2

/-- A map of series indexes a panel. -/
def Indexes (tenantID : Bytes) (series : Table Series.key) (panel : Panel) : Prop :=
  ∃ entries, series.rows.Perm entries ∧ List.Forall₂ (Represents tenantID) entries panel.items

/-- A history pictures a panel. -/
def Pictures (tenantID : Bytes) (observations : List Observation) (panel : Panel) : Prop :=
  (cells tenantID observations).Perm panel.cells

/-- The order of the observations does not show in the picture. -/
theorem Pictures.perm {tenantID : Bytes} {first second : List Observation} {panel : Panel}
    (pictures : Pictures tenantID first panel) (shuffled : first.Perm second) :
    Pictures tenantID second panel :=
  (shuffled.filterMap (cellOf tenantID)).symm.trans pictures

section Indexing

variable {tenantID : Bytes} {observations : List Observation} {ranges : Ranges}
  {series : Table Series.key} {panel : Panel}

/-- What is indexed is gathered, and every series of it has passed the check of its dates. -/
theorem indexObservations_ok :
    indexObservations ranges observations tenantID = .ok series ↔
      observations.foldlM (indexObservation tenantID) .empty = .ok series ∧
        ∀ entry ∈ series.rows, requireDense (ranges.denseDates entry.key) entry = .ok () := by
  have visited : ∀ table : Table Series.key, ∀ entry,
      entry ∈ ranges.dense.entries table ↔ entry ∈ table.rows :=
    fun table entry => (ranges.dense.entries_perm table).mem_iff
  unfold indexObservations
  cases outcome : observations.foldlM (indexObservation tenantID) .empty with
  | error cause => simp [bind, Except.bind]
  | ok gathered =>
    have checks : (ranges.dense.entries gathered).forM (fun entry =>
        requireDense (ranges.denseDates entry.key) entry) = .ok () ↔
          ∀ entry ∈ gathered.rows, requireDense (ranges.denseDates entry.key) entry = .ok () := by
      simp only [forM_ok_iff, visited]
    simp only [bind, Except.bind, Except.ok.injEq]
    cases passed : (ranges.dense.entries gathered).forM fun entry =>
        requireDense (ranges.denseDates entry.key) entry with
    | error cause =>
      constructor
      · intro same
        cases same
      · rintro ⟨rfl, each⟩
        rw [passed] at checks
        cases checks.mpr each
    | ok done =>
      refine ⟨fun same => ?_, fun both => congrArg Except.ok both.1⟩
      cases same
      exact ⟨rfl, checks.mp passed⟩

/-- Different series are those of items of different names. -/
theorem represented_nodup {items : List (Bytes × Span)}
    (represented : List.Forall₂ (Represents tenantID) series.rows items) :
    (items.map Prod.fst).Nodup := by
  have keys : series.rows.map Series.key = (items.map Prod.fst).map (Prod.mk tenantID) := by
    rw [List.map_map]
    exact map_eq_of_forall₂ (fun _ _ related => related.1) represented
  exact List.Nodup.of_map (Prod.mk tenantID) (keys ▸ series.unique)

theorem exists_panel (indexed : indexObservations ranges observations tenantID = .ok series) :
    ∃ panel, Pictures tenantID observations panel := by
  obtain ⟨gathered, dense⟩ := indexObservations_ok.mp indexed
  have fold := indexed_fold tenantID observations
  rw [gathered] at fold
  obtain ⟨legal, gathers⟩ := fold
  have held : ∀ entry ∈ series.rows, ∃ item, Represents tenantID entry item := by
    intro entry row
    have valid : ∀ day ∈ entry.days.rows, Cell.valid (day.cell entry.key.2) := fun day member =>
      legal.valid _ ((gathers.days entry row day).mp member)
    obtain ⟨span, holds⟩ := exists_span_of_requireDense
      (fun day member => (valid day member).2.1) (fun day member => (valid day member).2.2)
      (dense entry row)
    exact ⟨(entry.key.2, span), Prod.ext (gathers.tenant entry row) rfl, holds⟩
  obtain ⟨items, represented⟩ := exists_forall₂ held
  have names := represented_nodup represented
  have sortedMember : ∀ item, item ∈ sortRows (fun item : Bytes × Span => [item.1]) items ↔
      item ∈ items := fun item => List.mem_insertionSort _
  let panel : Panel := {
    items := sortRows (fun item => [item.1]) items
    sorted := sortRows_sorted Prod.fst names
    named := by
      intro item member
      obtain ⟨entry, row, own, -⟩ := exists_left represented ((sortedMember item).mp member)
      obtain ⟨day, present⟩ := List.exists_mem_of_ne_nil _ (gathers.nonempty entry row)
      have valid := legal.valid _ ((gathers.days entry row day).mp present)
      rw [own] at valid
      exact valid.1 }
  refine ⟨panel, (List.perm_ext_iff_of_nodup (List.Nodup.of_map _ legal.distinct)
    (List.Nodup.of_map _ panel.legal.distinct)).mpr fun cell => ?_⟩
  rw [Panel.mem_cells]
  constructor
  · intro member
    obtain ⟨entry, row, own⟩ := gathers.series cell member
    obtain ⟨item, listed, key, holds⟩ := exists_right represented row
    refine ⟨item, (sortedMember item).mpr listed, (Prod.mk.inj (own.symm.trans key)).2, ?_⟩
    refine (holds _).mp ((gathers.days entry row _).mpr ?_)
    rw [own]
    exact member
  · rintro ⟨item, member, own, day⟩
    obtain ⟨entry, row, key, holds⟩ := exists_left represented ((sortedMember item).mp member)
    have listed := (gathers.days entry row _).mp ((holds _).mpr day)
    rw [key, ← own] at listed
    exact listed

/-- The map of a panel that the history pictures is indexed, whatever the orders of the loops. -/
theorem Pictures.indexed (pictures : Pictures tenantID observations panel) (ranges : Ranges) :
    ∃ series, indexObservations ranges observations tenantID = .ok series ∧
      Indexes tenantID series panel := by
  have legal : Legal (cells tenantID observations) := by
    refine ⟨fun cell member => panel.legal.valid cell (pictures.mem_iff.mp member), ?_⟩
    exact (pictures.map Cell.key).nodup_iff.mpr panel.legal.distinct
  have fold := indexed_fold tenantID observations
  cases gathered : observations.foldlM (indexObservation tenantID) .empty with
  | error cause =>
    rw [gathered] at fold
    exact absurd legal fold
  | ok series =>
    rw [gathered] at fold
    have gathers := fold.2
    have held : ∀ entry ∈ series.rows, ∃ item ∈ panel.items, Represents tenantID entry item := by
      intro entry row
      obtain ⟨first, present⟩ := List.exists_mem_of_ne_nil _ (gathers.nonempty entry row)
      obtain ⟨item, listed, own, -⟩ := Panel.mem_cells.mp
        (pictures.mem_iff.mp ((gathers.days entry row first).mp present))
      refine ⟨item, listed, Prod.ext (gathers.tenant entry row) own, fun day => ?_⟩
      rw [gathers.days entry row day, pictures.mem_iff, Panel.mem_cells]
      constructor
      · rintro ⟨other, member, same, day⟩
        rw [panel.item_ext listed member (own.symm.trans same)]
        exact day
      · intro day
        exact ⟨item, listed, own, day⟩
    have passed : ∀ entry ∈ series.rows,
        requireDense (ranges.denseDates entry.key) entry = .ok () := by
      intro entry row
      obtain ⟨item, -, -, holds⟩ := held entry row
      exact holds.requireDense _ _
    obtain ⟨items, related⟩ := exists_forall₂ held
    have represented := related.imp fun _ _ both => both.2
    have same : panel.items.Perm items := by
      refine (List.perm_ext_iff_of_nodup (List.Nodup.of_map _ Panel.names_nodup)
        (List.Nodup.of_map _ (represented_nodup represented))).mpr fun item => ?_
      constructor
      · intro listed
        obtain ⟨day, member⟩ := item.2.exists_day
        have cell : day.cell item.1 ∈ panel.cells :=
          Panel.mem_cells.mpr ⟨item, listed, rfl, member⟩
        obtain ⟨entry, row, own⟩ := gathers.series _ (pictures.mem_iff.mpr cell)
        obtain ⟨other, member, otherListed, key, -⟩ := exists_right related row
        have name : item.1 = other.1 := (Prod.mk.inj (own.symm.trans key)).2
        rw [panel.item_ext listed otherListed name]
        exact member
      · intro member
        obtain ⟨entry, row, listed, -⟩ := exists_left related member
        exact listed
    obtain ⟨entries, flipped, shuffled⟩ := List.perm_comp_forall₂ same represented.flip
    exact ⟨series, indexObservations_ok.mpr ⟨gathered, passed⟩, entries, shuffled.symm,
      flipped.flip⟩

/-- What is indexed is a panel that the history pictures. -/
theorem pictures_of_indexed
    (indexed : indexObservations ranges observations tenantID = .ok series) :
    ∃ panel, Pictures tenantID observations panel ∧ Indexes tenantID series panel := by
  obtain ⟨panel, pictures⟩ := exists_panel indexed
  obtain ⟨other, same, indexes⟩ := pictures.indexed ranges
  rw [indexed] at same
  exact ⟨panel, pictures, Except.ok.inj same ▸ indexes⟩

end Indexing

end Forecast

end SeshatOps
