/-
This file is a small library about average precision. A ranking is a list of hits and misses;
its average precision is the mean, over the hits, of the share of hits among the elements up
to the hit. It lies between 0 and 1, and it is 1 exactly when no miss is ranked above a hit.
-/

import Mathlib.Algebra.Field.Rat
import Mathlib.Algebra.Order.Field.Basic
import Mathlib.Algebra.Order.Ring.Rat
import Mathlib.Data.List.Basic

namespace Precision

/-- The share of hits up to a hit, after some elements with some hits among them. -/
def share (place seen : Nat) : ℚ := ((seen + 1 : Nat) : ℚ) / ((place + 1 : Nat) : ℚ)

/-- The sum of the shares at the hits, after some elements with some hits among them. -/
def total (place seen : Nat) : List Bool → ℚ
  | [] => 0
  | true :: rest => share place seen + total (place + 1) (seen + 1) rest
  | false :: rest => total (place + 1) seen rest

def average (hits : List Bool) : ℚ := total 0 0 hits / (hits.count true : ℚ)

/-- No miss comes before a hit. -/
def HitsFirst (hits : List Bool) : Prop :=
  hits.Pairwise fun first second => second = true → first = true

section Bounds

variable {place seen : Nat}

theorem share_le_one (few : seen ≤ place) : share place seen ≤ 1 := by
  refine (div_le_one (Nat.cast_pos.mpr (Nat.succ_pos place))).mpr ?_
  exact Nat.cast_le.mpr (Nat.succ_le_succ few)

theorem share_lt_one (fewer : seen < place) : share place seen < 1 := by
  refine (div_lt_one (Nat.cast_pos.mpr (Nat.succ_pos place))).mpr ?_
  exact Nat.cast_lt.mpr (Nat.succ_lt_succ fewer)

theorem share_self (place : Nat) : share place place = 1 :=
  div_self (Nat.cast_ne_zero.mpr (Nat.succ_ne_zero place))

theorem share_pos : 0 < share place seen :=
  div_pos (Nat.cast_pos.mpr (Nat.succ_pos seen)) (Nat.cast_pos.mpr (Nat.succ_pos place))

theorem count_hit (rest : List Bool) :
    ((true :: rest).count true : ℚ) = (rest.count true : ℚ) + 1 := by
  rw [List.count_cons_self, Nat.cast_succ]

theorem count_miss (rest : List Bool) : (false :: rest).count true = rest.count true :=
  List.count_cons_of_ne Bool.false_ne_true

theorem total_nonneg (hits : List Bool) : 0 ≤ total place seen hits := by
  induction hits generalizing place seen with
  | nil => exact le_rfl
  | cons hit rest hypothesis =>
    cases hit with
    | false => exact hypothesis
    | true => exact add_nonneg share_pos.le hypothesis

theorem total_pos {hits : List Bool} (some : true ∈ hits) : 0 < total place seen hits := by
  induction hits generalizing place seen with
  | nil => cases some
  | cons hit rest hypothesis =>
    cases hit with
    | false =>
      have later : true ∈ rest := by simpa using some
      exact hypothesis later
    | true => exact add_pos_of_pos_of_nonneg share_pos (total_nonneg rest)

theorem total_le_count {hits : List Bool} (few : seen ≤ place) :
    total place seen hits ≤ (hits.count true : ℚ) := by
  induction hits generalizing place seen with
  | nil => simp [total]
  | cons hit rest hypothesis =>
    cases hit with
    | false =>
      rw [count_miss]
      exact hypothesis (Nat.le_succ_of_le few)
    | true =>
      have later := hypothesis (Nat.succ_le_succ few)
      rw [total, count_hit, add_comm]
      exact add_le_add later (share_le_one few)

/-- After a miss, hits are no longer worth a whole. -/
theorem total_lt_count {hits : List Bool} (fewer : seen < place) (some : true ∈ hits) :
    total place seen hits < (hits.count true : ℚ) := by
  induction hits generalizing place seen with
  | nil => cases some
  | cons hit rest hypothesis =>
    cases hit with
    | false =>
      rw [count_miss]
      exact hypothesis (Nat.lt_succ_of_lt fewer) (by simpa using some)
    | true =>
      have later : total (place + 1) (seen + 1) rest ≤ (rest.count true : ℚ) :=
        total_le_count (Nat.succ_le_succ fewer.le)
      rw [total, count_hit, add_comm]
      exact add_lt_add_of_le_of_lt later (share_lt_one fewer)

theorem total_eq_count_iff (hits : List Bool) :
    total place place hits = (hits.count true : ℚ) ↔ HitsFirst hits := by
  induction hits generalizing place with
  | nil => simp [total, HitsFirst]
  | cons hit rest hypothesis =>
    cases hit with
    | false =>
      rw [total, count_miss, HitsFirst, List.pairwise_cons]
      constructor
      · intro same
        have none : true ∉ rest := fun some =>
          absurd same (total_lt_count (Nat.lt_succ_self place) some).ne
        refine ⟨fun other member hit => absurd (hit ▸ member) none, ?_⟩
        refine List.pairwise_of_forall_mem_list fun _ _ other member hit => ?_
        exact absurd (hit ▸ member) none
      · rintro ⟨misses, -⟩
        have none : true ∉ rest := fun some => Bool.false_ne_true (misses true some rfl)
        have bound : total (place + 1) place rest ≤ (rest.count true : ℚ) :=
          total_le_count (Nat.le_succ place)
        rw [List.count_eq_zero_of_not_mem none, Nat.cast_zero] at bound ⊢
        exact le_antisymm bound (total_nonneg rest)
    | true =>
      have later : total (place + 1) (place + 1) rest = (rest.count true : ℚ) ↔ HitsFirst rest :=
        hypothesis
      rw [total, share_self, count_hit, add_comm, add_left_inj, later]
      refine ⟨fun first => ?_, fun first => (List.pairwise_cons.mp first).2⟩
      exact List.pairwise_cons.mpr ⟨fun _ _ _ => rfl, first⟩

end Bounds

section Average

variable {hits : List Bool} (some : true ∈ hits)

include some

theorem count_pos : (0 : ℚ) < (hits.count true : ℚ) := by
  exact Nat.cast_pos.mpr (List.count_pos_iff.mpr some)

theorem average_pos : 0 < average hits := div_pos (total_pos some) (count_pos some)

theorem average_le_one : average hits ≤ 1 := by
  rw [average, div_le_one (count_pos some)]
  exact total_le_count le_rfl

theorem average_eq_one_iff : average hits = 1 ↔ HitsFirst hits := by
  rw [average, div_eq_one_iff_eq (count_pos some).ne', total_eq_count_iff]

end Average

end Precision
