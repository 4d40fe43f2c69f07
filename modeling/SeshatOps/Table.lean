/-
This file is a small library of keyed tables. A table is a list of rows together
with the proof that no two rows share a primary key, so a table with two rows of
one key cannot be built, and no later proof has to carry the uniqueness along.

Three operations cover what the statements of a relational store do to one row
set: `find?` reads the row of a key, `store` is an insert that replaces the row
of its own key, and `discard` is a delete by predicate. Each comes with the
membership statement that later proofs use in place of its definition.
-/

import Mathlib.Data.List.Induction
import Mathlib.Data.List.Nodup

namespace Relational

/-- Rows told apart by a primary key. -/
structure Table {Row Key : Type} (key : Row → Key) where
  rows : List Row
  unique : (rows.map key).Nodup

namespace Table

section Rows

variable {Row Key : Type} {key : Row → Key}

/-- The table without rows. -/
def empty : Table key := ⟨[], List.nodup_nil⟩

@[simp] theorem rows_empty : (empty : Table key).rows = [] := rfl

/-- Two rows of one key are one row. -/
theorem eq_of_key (table : Table key) {first second : Row} (firstMember : first ∈ table.rows)
    (secondMember : second ∈ table.rows) (same : key first = key second) : first = second :=
  List.inj_on_of_nodup_map table.unique firstMember secondMember same

/-- `DELETE FROM table WHERE doomed`. -/
def discard (table : Table key) (doomed : Row → Bool) : Table key where
  rows := table.rows.filter fun row => !doomed row
  unique := (List.filter_sublist.map key).nodup table.unique

theorem mem_discard (table : Table key) (doomed : Row → Bool) (row : Row) :
    row ∈ (table.discard doomed).rows ↔ row ∈ table.rows ∧ doomed row = false := by
  simp [discard]

/-- Tables with the same rows are the same table. -/
theorem eq_of_rows {first second : Table key} (same : first.rows = second.rows) :
    first = second := by
  cases first
  cases second
  cases same
  rfl

/-- A query that one row of the table answers. -/
theorem filter_eq_singleton (table : Table key) (wanted : Row → Bool) {row : Row}
    (member : row ∈ table.rows) (matched : wanted row = true)
    (only : ∀ other ∈ table.rows, wanted other = true → other = row) :
    table.rows.filter wanted = [row] := by
  have nodup : (table.rows.filter wanted).Nodup :=
    (List.Nodup.of_map key table.unique).filter wanted
  have same : ∀ other ∈ table.rows.filter wanted, other = row := fun other found =>
    only other (List.mem_filter.mp found).1 (List.mem_filter.mp found).2
  have present : row ∈ table.rows.filter wanted := List.mem_filter.mpr ⟨member, matched⟩
  have copies := List.eq_replicate_of_mem same
  rw [copies, List.nodup_replicate] at nodup
  have positive := List.length_pos_of_mem present
  rw [copies, show (table.rows.filter wanted).length = 1 by omega]
  rfl

end Rows

section Keyed

variable {Row Key : Type} {key : Row → Key} [DecidableEq Key]

/-- The row of a key. -/
def find? (table : Table key) (wanted : Key) : Option Row :=
  table.rows.find? fun row => key row = wanted

/-- Put a row under its own key, in place of the row that has the key now. -/
def store (table : Table key) (row : Row) : Table key where
  rows := (table.rows.filter fun other => key other ≠ key row) ++ [row]
  unique := by
    rw [List.map_append, List.nodup_append]
    refine ⟨(List.filter_sublist.map key).nodup table.unique, List.nodup_singleton _, ?_⟩
    intro first firstMember second secondMember same
    obtain ⟨other, otherMember, rfl⟩ := List.mem_map.mp firstMember
    simp only [List.map_cons, List.map_nil, List.mem_singleton] at secondMember
    simp only [List.mem_filter, decide_eq_true_eq] at otherMember
    exact otherMember.2 (same.trans secondMember)

theorem mem_store {table : Table key} {row other : Row} :
    other ∈ (table.store row).rows ↔
      (other ∈ table.rows ∧ key other ≠ key row) ∨ other = row := by
  simp [store]

theorem mem_store_self (table : Table key) (row : Row) : row ∈ (table.store row).rows :=
  mem_store.mpr (Or.inr rfl)

theorem mem_store_of_ne (table : Table key) {row other : Row} (member : other ∈ table.rows)
    (different : key other ≠ key row) : other ∈ (table.store row).rows :=
  mem_store.mpr (Or.inl ⟨member, different⟩)

/-- What holds of every row and of a row that is stored holds of every row afterwards. -/
theorem forall_mem_store {table : Table key} {stored : Row} {holds : Row → Prop}
    (each : ∀ row ∈ table.rows, holds row) (own : holds stored) :
    ∀ row ∈ (table.store stored).rows, holds row := by
  intro row member
  rcases mem_store.mp member with ⟨old, -⟩ | rfl
  · exact each row old
  · exact own

/-- Storing a row changes no row of another key. -/
theorem mem_store_iff_of_ne (table : Table key) {stored row : Row}
    (different : key row ≠ key stored) :
    row ∈ (table.store stored).rows ↔ row ∈ table.rows := by
  rw [mem_store]
  refine ⟨?_, fun member => Or.inl ⟨member, different⟩⟩
  rintro (⟨member, -⟩ | rfl)
  · exact member
  · exact absurd rfl different

theorem find?_eq_some_iff {table : Table key} {wanted : Key} {row : Row} :
    table.find? wanted = some row ↔ row ∈ table.rows ∧ key row = wanted := by
  constructor
  · intro found
    exact ⟨List.mem_of_find?_eq_some found, by simpa using List.find?_some found⟩
  · rintro ⟨member, rfl⟩
    cases found : table.find? (key row) with
    | none =>
      have absent := List.find?_eq_none.mp found row member
      simp at absent
    | some other =>
      have sameKey : key other = key row := by simpa using List.find?_some found
      rw [eq_of_key table (List.mem_of_find?_eq_some found) member sameKey]

theorem find?_eq_none_iff {table : Table key} {wanted : Key} :
    table.find? wanted = none ↔ ∀ row ∈ table.rows, key row ≠ wanted := by
  simp [find?, List.find?_eq_none]

/-- Tables with the same rows under a key find the same there. -/
theorem find?_congr {first second : Table key} {wanted : Key}
    (same : ∀ row, key row = wanted → (row ∈ first.rows ↔ row ∈ second.rows)) :
    first.find? wanted = second.find? wanted := by
  refine Option.ext fun row => ?_
  rw [find?_eq_some_iff, find?_eq_some_iff]
  exact ⟨fun found => ⟨(same row found.2).mp found.1, found.2⟩,
    fun found => ⟨(same row found.2).mpr found.1, found.2⟩⟩

@[simp] theorem find?_empty (wanted : Key) : (empty : Table key).find? wanted = none := rfl

@[simp] theorem find?_store_self (table : Table key) (row : Row) :
    (table.store row).find? (key row) = some row :=
  find?_eq_some_iff.mpr ⟨mem_store_self table row, rfl⟩

theorem find?_store_of_ne (table : Table key) {row : Row} {wanted : Key}
    (different : wanted ≠ key row) : (table.store row).find? wanted = table.find? wanted := by
  cases found : table.find? wanted with
  | none =>
    rw [find?_eq_none_iff] at found ⊢
    intro other member same
    rcases mem_store.mp member with ⟨old, _⟩ | rfl
    · exact found other old same
    · exact different same.symm
  | some other =>
    rw [find?_eq_some_iff] at found ⊢
    exact ⟨mem_store_of_ne table found.1 (found.2 ▸ different), found.2⟩

/-- A key that has a row has one whatever is stored. -/
theorem isSome_find?_store (table : Table key) (row : Row) (wanted : Key)
    (present : (table.find? wanted).isSome = true) :
    ((table.store row).find? wanted).isSome = true := by
  by_cases same : wanted = key row
  · subst same
    simp
  · rwa [find?_store_of_ne table same]

/-- A new row comes after the rows that are there. -/
theorem rows_store_of_absent (table : Table key) {row : Row}
    (absent : table.find? (key row) = none) :
    (table.store row).rows = table.rows ++ [row] := by
  have others := find?_eq_none_iff.mp absent
  simp only [store, List.append_cancel_right_eq, List.filter_eq_self, decide_eq_true_eq]
  exact others

theorem find?_discard (table : Table key) (doomed : Row → Bool) (wanted : Key) :
    (table.discard doomed).find? wanted =
      (table.find? wanted).filter fun row => !doomed row := by
  cases found : table.find? wanted with
  | none =>
    rw [find?_eq_none_iff] at found
    rw [Option.filter_none, find?_eq_none_iff]
    intro row member
    exact found row ((mem_discard table doomed row).mp member).1
  | some row =>
    obtain ⟨member, sameKey⟩ := find?_eq_some_iff.mp found
    cases verdict : doomed row with
    | false =>
      rw [Option.filter_some, verdict]
      exact find?_eq_some_iff.mpr
        ⟨(mem_discard table doomed row).mpr ⟨member, verdict⟩, sameKey⟩
    | true =>
      rw [Option.filter_some, verdict]
      refine find?_eq_none_iff.mpr fun other otherMember same => ?_
      obtain ⟨old, kept⟩ := (mem_discard table doomed other).mp otherMember
      rw [eq_of_key table old member (same.trans sameKey.symm), verdict] at kept
      exact absurd kept (by simp)

/-- A delete does not see a doomed row that was stored in the place of no other than a doomed
one. -/
theorem discard_store (table : Table key) (doomed : Row → Bool) {row : Row}
    (goes : doomed row = true)
    (gone : ∀ other ∈ table.rows, key other = key row → doomed other = true) :
    (table.store row).discard doomed = table.discard doomed := by
  refine eq_of_rows ?_
  simp only [discard, store, List.filter_append, List.filter_filter, List.filter_cons, goes,
    Bool.not_true, Bool.false_eq_true, if_false, List.filter_nil, List.append_nil]
  refine List.filter_congr fun other member => ?_
  by_cases same : key other = key row
  · simp [same, gone other member same]
  · simp [same]

/-- Storing a row that is not counted raises no count. -/
theorem countP_store_le (table : Table key) (counted : Row → Bool) {row : Row}
    (after : counted row = false) :
    (table.store row).rows.countP counted ≤ table.rows.countP counted := by
  simp only [store, List.countP_append, List.countP_cons, List.countP_nil, after, if_false,
    Bool.false_eq_true, Nat.add_zero]
  exact List.filter_sublist.countP_le

/-- Overwriting a counted row by one that is not counted lowers the count. -/
theorem countP_store_lt (table : Table key) (counted : Row → Bool) {row old : Row}
    (found : table.find? (key row) = some old) (before : counted old = true)
    (after : counted row = false) :
    (table.store row).rows.countP counted < table.rows.countP counted := by
  obtain ⟨member, sameKey⟩ := find?_eq_some_iff.mp found
  have stored : (table.store row).rows.countP counted =
      (table.rows.filter fun other => key other ≠ key row).countP counted := by
    simp [store, List.countP_append, after]
  have replaced : 0 < (table.rows.filter fun other => !decide (key other ≠ key row)).countP
      counted := by
    rw [List.countP_pos_iff]
    exact ⟨old, by simp [member, sameKey], before⟩
  rw [stored, List.countP_eq_countP_filter_add table.rows counted
    fun other => decide (key other ≠ key row)]
  omega

/-- Store rows one after the other. -/
def storeAll (table : Table key) (rows : List Row) : Table key := rows.foldl store table

theorem storeAll_concat (table : Table key) (rows : List Row) (row : Row) :
    table.storeAll (rows ++ [row]) = (table.storeAll rows).store row := by
  rw [storeAll, List.foldl_append]
  rfl

/-- A row that is there at the end was stored, or was there before and not replaced. -/
theorem mem_storeAll {table : Table key} {rows : List Row} {row : Row}
    (member : row ∈ (table.storeAll rows).rows) :
    row ∈ rows ∨ row ∈ table.rows ∧ ∀ other ∈ rows, key other ≠ key row := by
  induction rows using List.reverseRecOn with
  | nil => exact Or.inr ⟨member, by simp⟩
  | append_singleton front last hypothesis =>
    rw [storeAll_concat, mem_store] at member
    rcases member with ⟨earlier, different⟩ | rfl
    · rcases hypothesis earlier with stored | ⟨old, kept⟩
      · exact Or.inl (List.mem_append_left _ stored)
      · refine Or.inr ⟨old, fun other listed => ?_⟩
        rcases List.mem_append.mp listed with listed | single
        · exact kept other listed
        · rw [List.mem_singleton.mp single]
          exact different.symm
    · exact Or.inl (by simp)

/-- Every stored key has a row at the end. -/
theorem exists_mem_storeAll (table : Table key) {rows : List Row} {row : Row}
    (member : row ∈ rows) : ∃ other ∈ (table.storeAll rows).rows, key other = key row := by
  induction rows using List.reverseRecOn with
  | nil => cases member
  | append_singleton front last hypothesis =>
    rw [storeAll_concat]
    by_cases same : key last = key row
    · exact ⟨last, mem_store_self _ last, same⟩
    · rcases List.mem_append.mp member with earlier | single
      · obtain ⟨other, stored, own⟩ := hypothesis earlier
        exact ⟨other, mem_store_of_ne _ stored fun equal => same (equal.symm.trans own), own⟩
      · rw [List.mem_singleton.mp single] at same
        exact absurd rfl same

/-- Rows with different keys are all kept. -/
theorem rows_storeAll (table : Table key) {rows : List Row}
    (distinct : ((table.rows ++ rows).map key).Nodup) :
    (table.storeAll rows).rows = table.rows ++ rows := by
  induction rows generalizing table with
  | nil => simp [storeAll]
  | cons row rest hypothesis =>
    have absent : table.find? (key row) = none := by
      rw [find?_eq_none_iff]
      intro other member same
      rw [List.map_append, List.nodup_append] at distinct
      exact distinct.2.2 _ (List.mem_map.mpr ⟨other, member, rfl⟩) _ (by simp) same
    have stored := table.rows_store_of_absent absent
    rw [storeAll, List.foldl_cons, ← storeAll, hypothesis, stored, List.append_assoc,
      List.singleton_append]
    rwa [stored, List.append_assoc, List.singleton_append]

/-- Leaving out all rows of some keys leaves out their rows and no others. -/
theorem mem_storeAll_filter (kept : Row → Bool)
    (byKey : ∀ first second, key first = key second → kept first = kept second)
    (rows : List Row) (row : Row) :
    row ∈ ((empty : Table key).storeAll (rows.filter kept)).rows ↔
      row ∈ ((empty : Table key).storeAll rows).rows ∧ kept row = true := by
  induction rows using List.reverseRecOn with
  | nil => simp [storeAll]
  | append_singleton front last hypothesis =>
    rw [List.filter_append, storeAll_concat, mem_store]
    cases stays : kept last with
    | true =>
      rw [List.filter_singleton, stays, cond_true, storeAll_concat, mem_store, hypothesis]
      constructor
      · rintro (⟨⟨stored, own⟩, different⟩ | rfl)
        · exact ⟨Or.inl ⟨stored, different⟩, own⟩
        · exact ⟨Or.inr rfl, stays⟩
      · rintro ⟨⟨stored, different⟩ | rfl, own⟩
        · exact Or.inl ⟨⟨stored, own⟩, different⟩
        · exact Or.inr rfl
    | false =>
      rw [List.filter_singleton, stays, cond_false, List.append_nil, hypothesis]
      constructor
      · rintro ⟨stored, own⟩
        refine ⟨Or.inl ⟨stored, fun same => ?_⟩, own⟩
        rw [byKey row last same, stays] at own
        cases own
      · rintro ⟨⟨stored, -⟩ | rfl, own⟩
        · exact ⟨stored, own⟩
        · rw [stays] at own
          cases own

end Keyed

end Table

end Relational
