/-
This file says that what a reading function sorts depends on the rows alone, not on the
order in which they are stored.
-/

import SeshatOps.Rebuild
import SeshatOps.Sorting

namespace SeshatOps

open Relational Event Sorting

/-! ### Sorting by columns -/

/-- A row of texts, as numbers. -/
def columnKey (columns : List Bytes) : List (List Nat) :=
  columns.map fun column => column.map UInt8.toNat

theorem columnKey_injective {first second : List Bytes}
    (same : columnKey first = columnKey second) : first = second :=
  List.map_injective_iff.mpr (List.map_injective_iff.mpr fun _ _ => UInt8.toNat_inj.mp) same

/-- The order by columns is the order of the rows as lists of numbers. -/
theorem lessBy_iff {first second : List Bytes} (same : first.length = second.length) :
    lessBy first second = true ↔ columnKey first < columnKey second := by
  induction first generalizing second with
  | nil =>
    rw [List.length_nil] at same
    rw [List.length_eq_zero_iff.mp same.symm]
    simp [lessBy, columnKey]
  | cons column rest hypothesis =>
    cases second with
    | nil => cases same
    | cons other others =>
      have rests := hypothesis (Nat.succ.inj same)
      simp only [lessBy, columnKey, List.map_cons, List.cons_lt_cons_iff] at rests ⊢
      by_cases tied : column = other
      · subst tied
        simpa using rests
      · have apart : column.map UInt8.toNat ≠ other.map UInt8.toNat := fun equal =>
          tied (List.map_injective_iff.mpr (fun _ _ => UInt8.toNat_inj.mp) equal)
        simp [tied, apart, Strings.less]

section Columns

variable {Row : Type} {columns : Row → List Bytes} {width : Nat}

theorem lessBy_eq_false (wide : ∀ row, (columns row).length = width) (first second : Row) :
    lessBy (columns second) (columns first) = false ↔
      columnKey (columns first) ≤ columnKey (columns second) := by
  rw [← Bool.not_eq_true, lessBy_iff ((wide second).trans (wide first).symm), not_lt]

theorem sorts_columns (wide : ∀ row, (columns row).length = width) :
    Sorts fun first second => lessBy (columns second) (columns first) = false := by
  have keyed := Sorts.of_key fun row => columnKey (columns row)
  simpa only [lessBy_eq_false wide] using keyed

/-- Rows without ties are sorted the same in whatever order they come. -/
theorem sortRows_congr (wide : ∀ row, (columns row).length = width) {first second : List Row}
    (firstDistinct : first.Nodup) (secondDistinct : second.Nodup)
    (same : ∀ row, row ∈ first ↔ row ∈ second)
    (untied : ∀ row ∈ first, ∀ other ∈ first, columns row = columns other → row = other) :
    sortRows columns first = sortRows columns second := by
  refine (sorts_columns wide).insertionSort_congr firstDistinct secondDistinct same ?_
  intro row member other otherMember below above
  rw [lessBy_eq_false wide] at below above
  exact untied row member other otherMember (columnKey_injective (le_antisymm below above))

/-- Some of the rows, in order. -/
theorem filter_sortRows (wide : ∀ row, (columns row).length = width) (kept : Row → Bool)
    {rows selected : List Row} (distinct : rows.Nodup) (selectedDistinct : selected.Nodup)
    (same : ∀ row, row ∈ selected ↔ row ∈ rows ∧ kept row = true)
    (untied : ∀ row ∈ rows, ∀ other ∈ rows, columns row = columns other → row = other) :
    (sortRows columns rows).filter kept = sortRows columns selected := by
  have sorted := ((sorts_columns wide).pairwise rows).filter kept
  refine (List.Pairwise.insertionSort_eq sorted).symm.trans (sortRows_congr wide ?_ selectedDistinct
    (fun row => ?_) fun row member other otherMember => ?_)
  · exact ((List.perm_insertionSort _ _).nodup_iff.mpr distinct).filter kept
  · rw [List.mem_filter, List.mem_insertionSort, same]
  · rw [List.mem_filter, List.mem_insertionSort] at member otherMember
    exact untied row member.1 other otherMember.1

/-- Rows that go up are what their rows are sorted to, in whatever order they come. -/
theorem sortRows_of_increasing (wide : ∀ row, (columns row).length = width)
    {rows increasing : List Row} (shuffled : rows.Perm increasing)
    (up : increasing.Pairwise fun first second =>
      lessBy (columns first) (columns second) = true) :
    sortRows columns rows = increasing := by
  have below : ∀ {first second : Row}, lessBy (columns first) (columns second) = true →
      columnKey (columns first) < columnKey (columns second) := fun {first second} =>
    (lessBy_iff ((wide first).trans (wide second).symm)).mp
  have distinct : (increasing.map columns).Nodup := by
    refine List.pairwise_map.mpr (up.imp fun less same => ?_)
    exact absurd (below less) (same ▸ lt_irrefl _)
  have nodup := List.Nodup.of_map columns distinct
  have sorted : sortRows columns increasing = increasing :=
    List.Pairwise.insertionSort_eq (up.imp fun less =>
      (lessBy_eq_false wide _ _).mpr (below less).le)
  rw [← sorted]
  refine sortRows_congr wide (shuffled.nodup_iff.mpr nodup) nodup (fun _ => shuffled.mem_iff) ?_
  intro row member other otherMember same
  exact List.inj_on_of_nodup_map distinct (shuffled.mem_iff.mp member)
    (shuffled.mem_iff.mp otherMember) same

end Columns

/-! ### Sorting the outbox -/

theorem Collation.sorts (collation : Collation) : Sorts fun first second =>
    collation.le first second = true :=
  ⟨collation.total, collation.trans⟩

/-- The order of the outbox, column by column. -/
def Collation.byColumns (collation : Collation) : OutboxRow → OutboxRow → Prop :=
  lex (fun first second => collation.le first second = true) OutboxRow.aggregateID <|
    lex (· ≤ ·) OutboxRow.aggregateVersion <| lex (· ≤ ·) OutboxRow.recordedAt
      fun first second => collation.le first.eventID second.eventID = true

theorem Collation.precedes_iff (collation : Collation) (first second : OutboxRow) :
    collation.precedes first second = true ↔ collation.byColumns first second := by
  unfold Collation.precedes Collation.byColumns lex
  split_ifs <;> simp

theorem Collation.sorts_precedes (collation : Collation) : Sorts fun first second =>
    collation.precedes first second = true := by
  have byID : Sorts fun first second : OutboxRow =>
      collation.le first.eventID second.eventID = true :=
    ⟨fun _ _ => collation.total _ _, fun _ _ _ => collation.trans _ _ _⟩
  have integers : Sorts fun first second : Int => first ≤ second := Sorts.of_key id
  have sorts : Sorts collation.byColumns := collation.sorts.lex collation.antisymm
    (integers.lex (fun _ _ => le_antisymm) (integers.lex (fun _ _ => le_antisymm) byID))
  simpa only [collation.precedes_iff] using sorts

theorem Collation.precedes_tied (collation : Collation) {first second : OutboxRow}
    (early : collation.precedes first second = true)
    (late : collation.precedes second first = true) : first.eventID = second.eventID := by
  rw [collation.precedes_iff] at early late
  obtain ⟨early, late⟩ := lex_tied collation.antisymm early late
  obtain ⟨early, late⟩ := lex_tied (fun _ _ => le_antisymm) early late
  obtain ⟨early, late⟩ := lex_tied (fun _ _ => le_antisymm) early late
  exact collation.antisymm _ _ early late

end SeshatOps
