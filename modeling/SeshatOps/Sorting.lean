/-
This file is about sorted lists: what insertion sort returns depends on the members of the
list alone, as long as no two of them are tied.
-/

import Mathlib.Data.List.Sort
import Mathlib.Data.List.Lex

namespace Sorting

variable {Element Key : Type}

/-- A relation by which lists can be sorted. -/
structure Sorts (before : Element → Element → Prop) : Prop where
  total : ∀ first second, before first second ∨ before second first
  trans : ∀ first second third, before first second → before second third → before first third

/-- Elements in the order of their keys. -/
theorem Sorts.of_key [LinearOrder Key] (key : Element → Key) :
    Sorts fun first second => key first ≤ key second :=
  ⟨fun first second => le_total (key first) (key second), fun _ _ _ => le_trans⟩

/-- Elements in the order of a column, and where it ties, in a further order. -/
def lex (le : Key → Key → Prop) [DecidableEq Key] (key : Element → Key)
    (before : Element → Element → Prop) (first second : Element) : Prop :=
  if key first ≠ key second then le (key first) (key second) else before first second

section Lexicographic

variable {le : Key → Key → Prop} [DecidableEq Key] {key : Element → Key}
  {before : Element → Element → Prop} {first second : Element}

theorem lex_of_eq (same : key first = key second) :
    lex le key before first second ↔ before first second := by
  rw [lex, if_neg (not_not.mpr same)]

theorem lex_of_ne (different : key first ≠ key second) :
    lex le key before first second ↔ le (key first) (key second) := by
  rw [lex, if_pos different]

theorem Sorts.lex (column : Sorts le)
    (antisymm : ∀ first second, le first second → le second first → first = second)
    (sorts : Sorts before) : Sorts (lex le key before) := by
  refine ⟨fun first second => ?_, fun first second third early late => ?_⟩
  · by_cases same : key first = key second
    · rw [lex_of_eq same, lex_of_eq same.symm]
      exact sorts.total first second
    · rw [lex_of_ne same, lex_of_ne (Ne.symm same)]
      exact column.total _ _
  · by_cases firstSecond : key first = key second
    · rw [lex_of_eq firstSecond] at early
      by_cases secondThird : key second = key third
      · rw [lex_of_eq secondThird] at late
        exact (lex_of_eq (firstSecond.trans secondThird)).mpr (sorts.trans _ _ _ early late)
      · rw [lex_of_ne secondThird, ← firstSecond] at late
        exact (lex_of_ne (firstSecond ▸ secondThird)).mpr late
    · rw [lex_of_ne firstSecond] at early
      by_cases secondThird : key second = key third
      · exact (lex_of_ne (secondThird ▸ firstSecond)).mpr (secondThird ▸ early)
      · rw [lex_of_ne secondThird] at late
        have different : key first ≠ key third := fun same =>
          firstSecond (antisymm _ _ early (same ▸ late))
        exact (lex_of_ne different).mpr (column.trans _ _ _ early late)

theorem lex_tied (antisymm : ∀ first second, le first second → le second first → first = second)
    (early : lex le key before first second) (late : lex le key before second first) :
    before first second ∧ before second first := by
  by_cases same : key first = key second
  · exact ⟨(lex_of_eq same).mp early, (lex_of_eq same.symm).mp late⟩
  · rw [lex_of_ne same] at early
    rw [lex_of_ne (Ne.symm same)] at late
    exact absurd (antisymm _ _ early late) same

end Lexicographic

theorem Sorts.pairwise {before : Element → Element → Prop} [DecidableRel before]
    (sorts : Sorts before) (list : List Element) : (list.insertionSort before).Pairwise before := by
  have total : Std.Total before := ⟨sorts.total⟩
  have trans : IsTrans Element before := ⟨sorts.trans⟩
  exact List.pairwise_insertionSort before list

/-- Lists with the same members are sorted to the same list. -/
theorem Sorts.insertionSort_congr {before : Element → Element → Prop} [DecidableRel before]
    (sorts : Sorts before) {first second : List Element} (firstDistinct : first.Nodup)
    (secondDistinct : second.Nodup) (same : ∀ element, element ∈ first ↔ element ∈ second)
    (untied : ∀ element ∈ first, ∀ other ∈ first, before element other → before other element →
      element = other) :
    first.insertionSort before = second.insertionSort before := by
  have perm : first.Perm second :=
    (List.perm_ext_iff_of_nodup firstDistinct secondDistinct).mpr same
  refine List.Perm.eq_of_pairwise ?_ (sorts.pairwise first) (sorts.pairwise second)
    ((List.perm_insertionSort before first).trans
      (perm.trans (List.perm_insertionSort before second).symm))
  intro element other firstMember secondMember
  rw [List.mem_insertionSort] at firstMember secondMember
  exact untied element firstMember other ((same other).mpr secondMember)

end Sorting
