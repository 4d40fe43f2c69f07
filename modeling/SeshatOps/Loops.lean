/-
This file is a small library about loops over lists that may fail, and about lists whose
elements correspond one by one. It says when such a loop comes to an end without an error
and what it then returns.
-/

import Mathlib.Data.List.Forall2
import Mathlib.Data.List.Induction
import Mathlib.Data.List.Nodup
import Mathlib.Data.List.Pairwise
import Mathlib.Data.List.Perm.Basic

namespace Loops

/-! ### Loops that may fail -/

section Fallible

variable {Error First Second : Type}

/-- A loop over a list returns what it would return for the corresponding elements. -/
theorem mapM_forall₂ {Third : Type} {act : First → Except Error Third} {value : Second → Third}
    {related : First → Second → Prop}
    (each : ∀ element other, related element other → act element = .ok (value other))
    {list : List First} {others : List Second} (correspond : List.Forall₂ related list others) :
    list.mapM act = .ok (others.map value) := by
  induction correspond with
  | nil => rfl
  | cons head tail hypothesis =>
    rw [List.mapM_cons, each _ _ head, hypothesis]
    rfl

/-- A loop over a list returns results that meet what is expected of the corresponding
elements. -/
theorem exists_mapM_forall₂ {Third : Type} {act : First → Except Error Third}
    {related : First → Second → Prop} {expected : Second → Third → Prop}
    (each : ∀ element other, related element other →
      ∃ result, act element = .ok result ∧ expected other result)
    {list : List First} {others : List Second} (correspond : List.Forall₂ related list others) :
    ∃ results, list.mapM act = .ok results ∧ List.Forall₂ expected others results := by
  induction correspond with
  | nil => exact ⟨[], rfl, .nil⟩
  | cons head tail hypothesis =>
    obtain ⟨result, done, met⟩ := each _ _ head
    obtain ⟨results, rest, others⟩ := hypothesis
    refine ⟨result :: results, ?_, .cons met others⟩
    rw [List.mapM_cons, done, rest]
    rfl

theorem forM_ok_iff {act : First → Except Error Unit} (list : List First) :
    list.forM act = .ok () ↔ ∀ element ∈ list, act element = .ok () := by
  induction list with
  | nil => exact ⟨fun _ => List.forall_mem_nil _, fun _ => rfl⟩
  | cons element rest hypothesis =>
    rw [List.forall_mem_cons, ← hypothesis]
    show (act element >>= fun _ => rest.forM act) = .ok () ↔ _
    cases outcome : act element with
    | error | ok => simp [bind, Except.bind]

/-- What is known of a computation, by how it ends. -/
def Ends (good : Second → Prop) (bad : Prop) : Except Error Second → Prop
  | .ok value => good value
  | .error _ => bad

/-- A loop with a state that may fail: what each round keeps holds at the end, and what
follows from a failure cannot be mended by later rounds. -/
theorem foldlM_ends {State Element : Type} {act : State → Element → Except Error State}
    (good : List Element → State → Prop) (bad : List Element → Prop) {state : State}
    (start : good [] state)
    (step : ∀ front state element, good front state →
      Ends (good (front ++ [element])) (bad (front ++ [element])) (act state element))
    (lasting : ∀ front element, bad front → bad (front ++ [element])) (list : List Element) :
    Ends (good list) (bad list) (list.foldlM act state) := by
  induction list using List.reverseRecOn with
  | nil => exact start
  | append_singleton front last hypothesis =>
    rw [List.foldlM_append]
    cases outcome : front.foldlM act state with
    | error cause =>
      rw [outcome] at hypothesis
      exact lasting front last hypothesis
    | ok reached =>
      rw [outcome] at hypothesis
      have single : [last].foldlM act reached = act reached last := bind_pure _
      show Ends _ _ ([last].foldlM act reached)
      rw [single]
      exact step front reached last hypothesis

end Fallible

/-- One more element of a list whose elements are valid and have different keys. -/
theorem valid_nodup_concat {Element Key : Type} {valid : Element → Prop} {key : Element → Key}
    {front : List Element} {last : Element} :
    ((∀ element ∈ front ++ [last], valid element) ∧ ((front ++ [last]).map key).Nodup) ↔
      ((∀ element ∈ front, valid element) ∧ (front.map key).Nodup) ∧ valid last ∧
        key last ∉ front.map key := by
  rw [List.forall_mem_append, List.forall_mem_singleton, List.map_append, List.map_singleton,
    ← List.concat_eq_append, List.nodup_concat]
  constructor
  · rintro ⟨⟨earlier, own⟩, fresh, distinct⟩
    exact ⟨⟨earlier, distinct⟩, own, fresh⟩
  · rintro ⟨⟨earlier, distinct⟩, own, fresh⟩
    exact ⟨⟨earlier, own⟩, fresh, distinct⟩

/-- Of two elements of a list, one comes before the other. -/
theorem pairwise_either {Element : Type} {related : Element → Element → Prop}
    {list : List Element} (ordered : list.Pairwise related) {first second : Element}
    (firstMember : first ∈ list) (secondMember : second ∈ list) (different : first ≠ second) :
    related first second ∨ related second first := by
  have symmetric : Std.Symm fun first second => related first second ∨ related second first :=
    ⟨fun _ _ => Or.symm⟩
  have either : list.Pairwise fun first second =>
      related first second ∨ related second first := ordered.imp Or.inl
  exact either.forall firstMember secondMember different

/-! ### Lists that correspond -/

section Correspondence

variable {First Second : Type} {related : First → Second → Prop}
  {list : List First} {others : List Second}

theorem exists_forall₂ (each : ∀ element ∈ list, ∃ other, related element other) :
    ∃ others, List.Forall₂ related list others := by
  induction list with
  | nil => exact ⟨[], .nil⟩
  | cons element rest hypothesis =>
    rw [List.forall_mem_cons] at each
    obtain ⟨other, head⟩ := each.1
    obtain ⟨others, tail⟩ := hypothesis each.2
    exact ⟨other :: others, .cons head tail⟩

theorem exists_right (correspond : List.Forall₂ related list others) {element : First}
    (member : element ∈ list) : ∃ other ∈ others, related element other := by
  induction correspond with
  | nil => cases member
  | cons head tail hypothesis =>
    rcases List.mem_cons.mp member with rfl | later
    · exact ⟨_, List.mem_cons_self .., head⟩
    · obtain ⟨other, listed, matched⟩ := hypothesis later
      exact ⟨other, List.mem_cons_of_mem _ listed, matched⟩

theorem exists_left (correspond : List.Forall₂ related list others) {other : Second}
    (member : other ∈ others) : ∃ element ∈ list, related element other :=
  exists_right correspond.flip member

theorem map_eq_of_forall₂ {Third : Type} {first : First → Third} {second : Second → Third}
    (each : ∀ element other, related element other → first element = second other)
    (correspond : List.Forall₂ related list others) : list.map first = others.map second := by
  induction correspond with
  | nil => rfl
  | cons head tail hypothesis =>
    rw [List.map_cons, List.map_cons, each _ _ head, hypothesis]

end Correspondence

end Loops
