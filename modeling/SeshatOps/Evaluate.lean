/-
This file models the evaluation of predictions on one split of a dataset. `Evaluate` takes
exactly one prediction for each row of the split. A prediction without a score abstains; the
scored rows are summed up by their Brier score and, ranked by score and row id, by their
average precision. Scores and metrics are rational numbers here.

The main result says on which predictions the evaluation succeeds, that it does not depend
on the order of the examples or the predictions, and where its metrics lie.
-/

import Mathlib.Algebra.BigOperators.Group.List.Basic
import Mathlib.Algebra.Order.BigOperators.Group.List
import Mathlib.Data.Prod.Lex
import Mathlib.Order.Interval.Set.Defs
import Mathlib.Order.Monotone.Defs
import SeshatOps.Loops
import SeshatOps.Panel
import SeshatOps.Precision

namespace SeshatOps

open Relational Sorting Loops

namespace Forecast

/-! ### Predictions and results -/

/-- The score of a row. A prediction without a score abstains. -/
structure Prediction where
  rowID : Bytes
  score : Option ℚ
  deriving DecidableEq

structure Result where
  split : Bytes
  n : Nat
  predicted : Nat := 0
  abstained : Nat := 0
  coverage : ℚ := 0
  ap : Option ℚ := none
  brier : Option ℚ := none
  defined : Bool := false
  reason : Bytes := []
  deriving DecidableEq

structure ScoredRow where
  rowID : Bytes
  score : ℚ
  label : Int
  deriving DecidableEq

/-- `undefined`. -/
def Result.undefined (result : Result) (reason : String) : Result :=
  { result with defined := false, reason := ascii reason }

/-! ### Metrics -/

/-- The order of `averagePrecision`: by score downwards, then by row id. -/
def ranksAbove (first second : ScoredRow) : Bool :=
  if first.score ≠ second.score then decide (second.score < first.score)
  else Strings.less first.rowID second.rowID

/-- `sort.SliceStable` by that order. -/
def rank (rows : List ScoredRow) : List ScoredRow :=
  rows.insertionSort fun first second => ranksAbove second first = false

def positives (rows : List ScoredRow) : Nat := rows.countP fun row => row.label == 1

/-- The loop of `averagePrecision` over the ranked rows. -/
def precisionSum (place seen : Nat) : List ScoredRow → ℚ
  | [] => 0
  | row :: rest =>
      if row.label ≠ 1 then precisionSum (place + 1) seen rest
      else ((seen + 1 : Nat) : ℚ) / ((place + 1 : Nat) : ℚ) +
        precisionSum (place + 1) (seen + 1) rest

def averagePrecision (rows : List ScoredRow) : ℚ :=
  precisionSum 0 0 (rank rows) / (positives (rank rows) : ℚ)

def brierScore (rows : List ScoredRow) : ℚ :=
  (rows.map fun row =>
    let d := row.score - (row.label : ℚ)
    d * d).sum / (rows.length : ℚ)

/-! ### Evaluation -/

/-- The loop of `indexPredictions`. -/
def indexPrediction (byID : Table Prediction.rowID) (prediction : Prediction) :
    Except Invalid (Table Prediction.rowID) :=
  if prediction.rowID = [] then wrapInvalid "empty row_id" []
  else if (byID.find? prediction.rowID).isSome then
    wrapInvalid "duplicate row_id %s" [.text prediction.rowID]
  else
    match prediction.score with
    | none => .ok (byID.store prediction)
    | some score =>
        if score < 0 ∨ 1 < score then wrapInvalid "score %v" [.score score]
        else .ok (byID.store prediction)

def indexPredictions (predictions : List Prediction) : Except Invalid (Table Prediction.rowID) :=
  predictions.foldlM indexPrediction .empty

/-- What the loop of `Evaluate` over the examples leaves. -/
structure Consumed where
  left : Table Prediction.rowID
  abstained : Nat
  scored : List ScoredRow

/-- A row with its score, or an abstention. -/
def Consumed.count (consumed : Consumed) (row : Example) : Option ℚ → Consumed
  | none => { consumed with abstained := consumed.abstained + 1 }
  | some score => { consumed with scored := ⟨row.rowID, score, row.label⟩ :: consumed.scored }

/-- The loop of `Evaluate` over the examples. -/
def consume : List Example → Table Prediction.rowID → Except Invalid Consumed
  | [], byID => .ok ⟨byID, 0, []⟩
  | row :: rest, byID =>
      match byID.find? row.rowID with
      | none => wrapInvalid "omitted row_id %s" [.text row.rowID]
      | some prediction => do
          let consumed ← consume rest (byID.discard fun other => other.rowID = row.rowID)
          return consumed.count row prediction.score

/-- The share of the rows that have a score. -/
def coverageOf (predicted n : Nat) : ℚ := if 0 < n then (predicted : ℚ) / (n : ℚ) else 0

/-- The end of `Evaluate`, when every row has had its prediction. -/
def summarize (split : Bytes) (examples : List Example) (abstained : Nat)
    (scored : List ScoredRow) : Result :=
  let base : Result := {
    split := split
    n := examples.length
    predicted := scored.length
    abstained := abstained
    coverage := coverageOf scored.length examples.length }
  let pos := examples.countP fun row => row.label == 1
  let neg := examples.countP fun row => row.label != 1
  if pos = 0 ∨ neg = 0 then base.undefined "degenerate class"
  else if base.predicted = 0 then base.undefined "all abstain"
  else
    let base := { base with brier := some (brierScore scored) }
    if positives scored = 0 then base.undefined "undefined average precision"
    else { base with ap := some (averagePrecision scored), defined := true }

/-- `Evaluate` on the rows of a split. -/
def evaluateRows (split : Bytes) (examples : List Example) (predictions : List Prediction) :
    Except Invalid Result := do
  let byID ← indexPredictions predictions
  if examples = [] then
    if byID.rows ≠ [] then wrapInvalid "extra row_id" []
    else return Result.undefined { split := split, n := examples.length } "empty split"
  else if byID.rows.length ≠ examples.length then
    wrapInvalid "prediction count %d, want %d" [.number byID.rows.length, .number examples.length]
  else do
    let consumed ← consume examples byID
    if consumed.left.rows ≠ [] then wrapInvalid "extra row_id" []
    else return summarize split examples consumed.abstained consumed.scored

def evaluate (dataset : Dataset) (split : Bytes) (predictions : List Prediction) :
    Except Invalid Result :=
  if split ≠ splitTrain ∧ split ≠ splitValidation ∧ split ≠ splitTest then
    wrapInvalid "split %s" [.text split]
  else evaluateRows split (dataset.examples.filter fun row => row.split = split) predictions

/-! ### What an evaluation asks for -/

/-- Examples with row ids of their own and labels 0 or 1. -/
structure WellLabelled (dataset : Dataset) : Prop where
  distinct : (dataset.examples.map Example.rowID).Nodup
  named : ∀ row ∈ dataset.examples, row.rowID ≠ []
  labels : ∀ row ∈ dataset.examples, row.label = 0 ∨ row.label = 1

/-- The rows of a split. -/
def splitRows (dataset : Dataset) (split : Bytes) : List Example :=
  dataset.examples.filter fun row => row.split = split

/-- The predictions name each row of the split once and nothing else, with scores from 0
to 1. -/
structure Covers (dataset : Dataset) (split : Bytes) (predictions : List Prediction) : Prop where
  distinct : (predictions.map Prediction.rowID).Nodup
  same : ∀ rowID, rowID ∈ predictions.map Prediction.rowID ↔
    rowID ∈ (splitRows dataset split).map Example.rowID
  scores : ∀ prediction ∈ predictions, ∀ score, prediction.score = some score →
    0 ≤ score ∧ score ≤ 1

/-- The score that the predictions give a row, if they do not abstain. -/
def scoreOf (predictions : List Prediction) (rowID : Bytes) : Option ℚ :=
  (predictions.find? fun prediction => prediction.rowID = rowID).bind Prediction.score

/-- The row of an example with its score. -/
def scoredBy (predictions : List Prediction) (row : Example) : Option ScoredRow :=
  (scoreOf predictions row.rowID).map fun score => ⟨row.rowID, score, row.label⟩

/-- The rows of a split that have a score. -/
def scoredRows (dataset : Dataset) (split : Bytes) (predictions : List Prediction) :
    List ScoredRow := (splitRows dataset split).filterMap (scoredBy predictions)

/-- Every scored positive is ranked above every scored negative. -/
def RanksPositivesFirst (rows : List ScoredRow) : Prop :=
  ∀ positive ∈ rows, ∀ negative ∈ rows, positive.label = 1 → negative.label = 0 →
    ranksAbove positive negative = true

/-- The predictions with every score mapped by a function. -/
def rescore (change : ℚ → ℚ) (prediction : Prediction) : Prediction :=
  { prediction with score := prediction.score.map change }

/-! ### The loops -/

/-- A prediction that `indexPredictions` takes. -/
def Prediction.valid (prediction : Prediction) : Prop :=
  prediction.rowID ≠ [] ∧ ∀ score, prediction.score = some score → 0 ≤ score ∧ score ≤ 1

/-- Predictions that `indexPredictions` takes. -/
def Indexable (predictions : List Prediction) : Prop :=
  (∀ prediction ∈ predictions, prediction.valid) ∧ (predictions.map Prediction.rowID).Nodup

/-- One prediction. -/
theorem indexPrediction_ends {front : List Prediction} {byID : Table Prediction.rowID}
    (indexable : Indexable front) (rows : byID.rows = front) (last : Prediction) :
    Ends (fun next => Indexable (front ++ [last]) ∧ next.rows = front ++ [last])
      (¬ Indexable (front ++ [last])) (indexPrediction byID last) := by
  have whole : Indexable (front ++ [last]) ↔
      Indexable front ∧ last.valid ∧ last.rowID ∉ front.map Prediction.rowID := valid_nodup_concat
  have presence : (byID.find? last.rowID).isSome = true ↔
      last.rowID ∈ front.map Prediction.rowID := by
    rw [← rows, Option.isSome_iff_exists, List.mem_map]
    simp only [Table.find?_eq_some_iff]
  rw [whole]
  unfold indexPrediction
  by_cases empty : last.rowID = []
  · rw [if_pos empty]
    exact fun both => both.2.1.1 empty
  rw [if_neg empty]
  by_cases present : (byID.find? last.rowID).isSome = true
  · rw [if_pos present]
    exact fun both => both.2.2 (presence.mp present)
  rw [if_neg present]
  have fresh : last.rowID ∉ front.map Prediction.rowID := fun member =>
    present (presence.mpr member)
  have stored : (byID.store last).rows = front ++ [last] := by
    rw [← rows]
    exact byID.rows_store_of_absent (Option.not_isSome_iff_eq_none.mp present)
  cases scored : last.score with
  | none =>
    refine ⟨⟨indexable, ⟨empty, fun score found => ?_⟩, fresh⟩, stored⟩
    rw [scored] at found
    cases found
  | some score =>
    by_cases outside : score < 0 ∨ 1 < score
    · dsimp only
      rw [if_pos outside]
      intro both
      obtain ⟨low, high⟩ := both.2.1.2 score scored
      rcases outside with below | above
      · exact absurd low (not_le.mpr below)
      · exact absurd high (not_le.mpr above)
    · dsimp only
      rw [if_neg outside]
      rw [not_or, not_lt, not_lt] at outside
      refine ⟨⟨indexable, ⟨empty, fun other found => ?_⟩, fresh⟩, stored⟩
      rw [scored] at found
      exact Option.some.inj found ▸ outside

/-- The predictions of a map are those that were indexed, in order. -/
theorem indexPredictions_ends (predictions : List Prediction) :
    Ends (fun byID : Table Prediction.rowID => Indexable predictions ∧ byID.rows = predictions)
      (¬ Indexable predictions) (indexPredictions predictions) := by
  refine foldlM_ends
    (fun front (byID : Table Prediction.rowID) => Indexable front ∧ byID.rows = front)
    (fun front => ¬ Indexable front) ?_ ?_ ?_ predictions
  · exact ⟨⟨List.forall_mem_nil _, List.nodup_nil⟩, rfl⟩
  · intro front byID last reached
    exact indexPrediction_ends reached.1 reached.2 last
  · intro front last wrong indexable
    exact wrong (valid_nodup_concat.mp indexable).1

/-- The loop over the examples, for examples of different row ids. -/
theorem consume_ends {examples : List Example} (distinct : (examples.map Example.rowID).Nodup)
    (byID : Table Prediction.rowID) :
    Ends (fun consumed =>
        (∀ row ∈ examples, (byID.find? row.rowID).isSome = true) ∧
        (∀ prediction, prediction ∈ consumed.left.rows ↔
          prediction ∈ byID.rows ∧ prediction.rowID ∉ examples.map Example.rowID) ∧
        consumed.scored = examples.filterMap (scoredBy byID.rows) ∧
        consumed.abstained + consumed.scored.length = examples.length)
      (∃ row ∈ examples, byID.find? row.rowID = none) (consume examples byID) := by
  induction examples generalizing byID with
  | nil => exact ⟨List.forall_mem_nil _, by simp, rfl, rfl⟩
  | cons row rest hypothesis =>
    rw [List.map_cons, List.nodup_cons] at distinct
    have later := hypothesis distinct.2 (byID.discard fun other => other.rowID = row.rowID)
    have unchanged : ∀ other ∈ rest, (byID.discard fun prediction =>
        prediction.rowID = row.rowID).find? other.rowID = byID.find? other.rowID := by
      intro other member
      have different : other.rowID ≠ row.rowID := fun same =>
        distinct.1 (same ▸ List.mem_map_of_mem member)
      refine Table.find?_congr fun prediction own => ?_
      rw [Table.mem_discard, decide_eq_false_iff_not, own]
      exact and_iff_left different
    rw [consume]
    cases found : byID.find? row.rowID with
    | none => exact ⟨row, List.mem_cons_self .., found⟩
    | some prediction =>
      cases outcome : consume rest (byID.discard fun other => other.rowID = row.rowID) with
      | error cause =>
        rw [outcome] at later
        obtain ⟨other, member, missing⟩ := later
        exact ⟨other, List.mem_cons_of_mem _ member, (unchanged other member).symm.trans missing⟩
      | ok consumed =>
        rw [outcome] at later
        obtain ⟨present, left, scored, count⟩ := later
        have rows : rest.filterMap (scoredBy (byID.discard fun other =>
            other.rowID = row.rowID).rows) = rest.filterMap (scoredBy byID.rows) := by
          refine List.filterMap_congr fun other member => ?_
          exact congrArg (fun found : Option Prediction => (found.bind Prediction.score).map
            fun score => (⟨other.rowID, score, other.label⟩ : ScoredRow)) (unchanged other member)
        have own : scoredBy byID.rows row =
            prediction.score.map fun score => ⟨row.rowID, score, row.label⟩ := by
          exact congrArg (fun found : Option Prediction => (found.bind Prediction.score).map
            fun score => (⟨row.rowID, score, row.label⟩ : ScoredRow)) found
        have presence : ∀ other ∈ row :: rest, (byID.find? other.rowID).isSome = true := by
          rw [List.forall_mem_cons, found]
          exact ⟨rfl, fun other member => unchanged other member ▸ present other member⟩
        have remaining : ∀ other, other ∈ consumed.left.rows ↔
            other ∈ byID.rows ∧ other.rowID ∉ (row :: rest).map Example.rowID := by
          intro other
          rw [left, Table.mem_discard, decide_eq_false_iff_not, List.map_cons, List.mem_cons,
            not_or, and_assoc]
        rw [List.filterMap_cons, own]
        show Ends _ _ (.ok (consumed.count row prediction.score))
        cases prediction.score with
        | none =>
          refine ⟨presence, remaining, scored.trans rows, ?_⟩
          show consumed.abstained + 1 + consumed.scored.length = rest.length + 1
          omega
        | some value =>
          refine ⟨presence, remaining, congrArg _ (scored.trans rows), ?_⟩
          show consumed.abstained + (consumed.scored.length + 1) = rest.length + 1
          omega

/-! ### When the evaluation succeeds -/

/-- What an evaluation comes to. -/
def outcome (dataset : Dataset) (split : Bytes) (predictions : List Prediction) : Result :=
  let examples := splitRows dataset split
  let scored := scoredRows dataset split predictions
  if examples = [] then Result.undefined { split := split, n := examples.length } "empty split"
  else summarize split examples (examples.length - scored.length) scored

/-- A split that is declared. -/
def DeclaredSplit (split : Bytes) : Prop :=
  split = splitTrain ∨ split = splitValidation ∨ split = splitTest

section Evaluation

variable {dataset : Dataset} {split : Bytes} {predictions : List Prediction}

theorem WellLabelled.splitRows_nodup (labelled : WellLabelled dataset) (split : Bytes) :
    ((splitRows dataset split).map Example.rowID).Nodup :=
  (List.filter_sublist.map Example.rowID).nodup labelled.distinct

/-- Predictions that name each row of the split once. -/
theorem Covers.perm (covers : Covers dataset split predictions)
    (labelled : WellLabelled dataset) :
    (predictions.map Prediction.rowID).Perm ((splitRows dataset split).map Example.rowID) :=
  (List.perm_ext_iff_of_nodup covers.distinct (labelled.splitRows_nodup split)).mpr covers.same

theorem Covers.indexable (covers : Covers dataset split predictions)
    (labelled : WellLabelled dataset) : Indexable predictions := by
  refine ⟨fun prediction member => ⟨?_, covers.scores prediction member⟩, covers.distinct⟩
  obtain ⟨row, inside, same⟩ := List.mem_map.mp
    ((covers.same _).mp (List.mem_map_of_mem member))
  rw [← same]
  exact labelled.named row (List.mem_filter.mp inside).1

theorem evaluate_of_declared (declared : DeclaredSplit split) :
    evaluate dataset split predictions =
      evaluateRows split (splitRows dataset split) predictions := by
  have known : ¬ (split ≠ splitTrain ∧ split ≠ splitValidation ∧ split ≠ splitTest) := by
    rintro ⟨train, validation, test⟩
    rcases declared with same | same | same
    · exact train same
    · exact validation same
    · exact test same
  rw [evaluate, if_neg known]
  rfl

/-- The evaluation succeeds on predictions that cover the split. -/
theorem Covers.evaluate (covers : Covers dataset split predictions)
    (labelled : WellLabelled dataset) (declared : DeclaredSplit split) :
    evaluate dataset split predictions = .ok (outcome dataset split predictions) := by
  have lengths : predictions.length = (splitRows dataset split).length := by
    have same := (covers.perm labelled).length_eq
    rwa [List.length_map, List.length_map] at same
  have index := indexPredictions_ends predictions
  rw [evaluate_of_declared declared, evaluateRows]
  cases indexed : indexPredictions predictions with
  | error cause =>
    rw [indexed] at index
    exact absurd (covers.indexable labelled) index
  | ok byID =>
    rw [indexed] at index
    have rows := index.2
    simp only [bind, Except.bind]
    unfold outcome
    by_cases empty : splitRows dataset split = []
    · have none : byID.rows = [] := by
        rw [rows, ← List.length_eq_zero_iff, lengths, empty, List.length_nil]
      simp only [empty, if_true, none, ne_eq, not_true_eq_false, if_false]
      rfl
    · rw [if_neg empty, if_neg (by rw [rows, lengths]; exact not_not.mpr rfl), if_neg empty]
      have ends := consume_ends (labelled.splitRows_nodup split) byID
      have found : ∀ row ∈ splitRows dataset split, (byID.find? row.rowID).isSome = true := by
        intro row member
        obtain ⟨prediction, listed, same⟩ := List.mem_map.mp
          ((covers.same _).mpr (List.mem_map_of_mem member))
        exact Option.isSome_iff_exists.mpr ⟨prediction, Table.find?_eq_some_iff.mpr
          ⟨rows ▸ listed, same⟩⟩
      cases consumed : consume (splitRows dataset split) byID with
      | error cause =>
        rw [consumed] at ends
        obtain ⟨row, member, missing⟩ := ends
        have present := found row member
        rw [missing] at present
        cases present
      | ok result =>
        rw [consumed] at ends
        obtain ⟨-, left, scored, count⟩ := ends
        have none : result.left.rows = [] := by
          refine List.eq_nil_iff_forall_not_mem.mpr fun prediction member => ?_
          obtain ⟨listed, foreign⟩ := (left prediction).mp member
          rw [rows] at listed
          exact foreign ((covers.same _).mp (List.mem_map_of_mem listed))
        have same : result.scored = scoredRows dataset split predictions := by
          rw [scored, rows]
          rfl
        have abstained : result.abstained =
            (splitRows dataset split).length - (scoredRows dataset split predictions).length := by
          rw [← same]
          omega
        simp only [none, ne_eq, not_true_eq_false, if_false, same, abstained]
        rfl

/-- Predictions on which the evaluation succeeds cover the split. -/
theorem covers_of_evaluate {result : Result} (labelled : WellLabelled dataset)
    (declared : DeclaredSplit split)
    (evaluated : evaluate dataset split predictions = .ok result) :
    Covers dataset split predictions := by
  have index := indexPredictions_ends predictions
  rw [evaluate_of_declared declared, evaluateRows] at evaluated
  cases indexed : indexPredictions predictions with
  | error cause =>
    rw [indexed] at evaluated
    cases evaluated
  | ok byID =>
    rw [indexed] at index evaluated
    obtain ⟨indexable, rows⟩ := index
    have scores : ∀ prediction ∈ predictions, ∀ score, prediction.score = some score →
        0 ≤ score ∧ score ≤ 1 := fun prediction member => (indexable.1 prediction member).2
    simp only [bind, Except.bind] at evaluated
    split_ifs at evaluated with empty extra count
    · cases evaluated
    · rw [rows, not_not] at extra
      refine ⟨indexable.2, fun rowID => ?_, scores⟩
      rw [extra, empty]
      rfl
    · cases evaluated
    · have ends := consume_ends (labelled.splitRows_nodup split) byID
      cases consumed : consume (splitRows dataset split) byID with
      | error cause =>
        rw [consumed] at evaluated
        cases evaluated
      | ok final =>
        rw [consumed] at ends evaluated
        obtain ⟨present, left, -, -⟩ := ends
        simp only at evaluated
        split_ifs at evaluated with extra
        · cases evaluated
        · rw [not_not] at extra
          refine ⟨indexable.2, fun rowID => ⟨fun member => ?_, fun member => ?_⟩, scores⟩
          · obtain ⟨prediction, listed, rfl⟩ := List.mem_map.mp member
            by_contra foreign
            have kept := (left prediction).mpr ⟨rows ▸ listed, foreign⟩
            rw [extra] at kept
            cases kept
          · obtain ⟨row, inside, rfl⟩ := List.mem_map.mp member
            obtain ⟨prediction, found⟩ := Option.isSome_iff_exists.mp (present row inside)
            obtain ⟨listed, same⟩ := Table.find?_eq_some_iff.mp found
            rw [rows] at listed
            exact List.mem_map.mpr ⟨prediction, listed, same⟩

end Evaluation

/-! ### Ranking -/

/-- The place of a row in the ranking, lower for higher scores. -/
def rankKey (row : ScoredRow) : Lex (OrderDual ℚ × List Nat) :=
  toLex (OrderDual.toDual row.score, row.rowID.map UInt8.toNat)

theorem ranksAbove_iff (first second : ScoredRow) :
    ranksAbove first second = true ↔ rankKey first < rankKey second := by
  rw [rankKey, rankKey, Prod.Lex.toLex_lt_toLex, OrderDual.toDual_lt_toDual, ranksAbove]
  by_cases tied : first.score = second.score
  · rw [if_neg (not_not.mpr tied), Strings.less_iff, tied]
    simp
  · rw [if_pos tied, decide_eq_true_eq]
    simp [tied]

theorem ranksAbove_eq_false (first second : ScoredRow) :
    ranksAbove second first = false ↔ rankKey first ≤ rankKey second := by
  rw [← Bool.not_eq_true, ranksAbove_iff, not_lt]

theorem sorts_rank : Sorts fun first second => ranksAbove second first = false := by
  have keyed := Sorts.of_key rankKey
  simpa only [← ranksAbove_eq_false] using keyed

theorem rank_perm (rows : List ScoredRow) : (rank rows).Perm rows := List.perm_insertionSort _ _

theorem rankKey_rowID {first second : ScoredRow} (same : rankKey first = rankKey second) :
    first.rowID = second.rowID := by
  have texts := congrArg (fun key => (ofLex key).2) same
  exact List.map_injective_iff.mpr (fun _ _ => UInt8.toNat_inj.mp) texts

section Ranking

variable {rows : List ScoredRow} (distinct : (rows.map ScoredRow.rowID).Nodup)

include distinct

theorem rank_congr {others : List ScoredRow} (shuffled : rows.Perm others) :
    rank rows = rank others := by
  have nodup := List.Nodup.of_map _ distinct
  refine sorts_rank.insertionSort_congr nodup (shuffled.nodup_iff.mp nodup)
    (fun _ => shuffled.mem_iff) ?_
  intro row member other otherMember below above
  rw [ranksAbove_eq_false] at below above
  exact List.inj_on_of_nodup_map distinct member otherMember
    (rankKey_rowID (le_antisymm below above))

/-- The rows of a ranking go down. -/
theorem rank_strict : (rank rows).Pairwise fun first second =>
    ranksAbove first second = true := by
  have sorted := sorts_rank.pairwise rows
  have nodup : ((rank rows).map ScoredRow.rowID).Nodup :=
    ((rank_perm rows).map _).nodup_iff.mpr distinct
  refine (sorted.and (List.pairwise_map.mp nodup)).imp ?_
  rintro first second ⟨notBelow, different⟩
  rw [ranksAbove_eq_false] at notBelow
  rw [ranksAbove_iff]
  exact lt_of_le_of_ne notBelow fun same => different (rankKey_rowID same)

end Ranking

/-! ### Average precision -/

/-- Whether a row is a positive one. -/
def ScoredRow.hit (row : ScoredRow) : Bool := row.label == 1

theorem precisionSum_eq (place seen : Nat) (rows : List ScoredRow) :
    precisionSum place seen rows = Precision.total place seen (rows.map ScoredRow.hit) := by
  induction rows generalizing place seen with
  | nil => rfl
  | cons row rest hypothesis =>
    rw [precisionSum, List.map_cons]
    by_cases positive : row.label = 1
    · have hit : row.hit = true := beq_iff_eq.mpr positive
      rw [if_neg (not_not.mpr positive), hit, Precision.total, hypothesis]
      rfl
    · have miss : row.hit = false := beq_eq_false_iff_ne.mpr positive
      rw [if_pos positive, miss, Precision.total, hypothesis]

theorem positives_eq (rows : List ScoredRow) :
    positives rows = (rows.map ScoredRow.hit).count true := by
  rw [List.count_eq_countP, List.countP_map]
  refine List.countP_congr fun row _ => ?_
  simp [ScoredRow.hit]

theorem averagePrecision_eq (rows : List ScoredRow) :
    averagePrecision rows = Precision.average ((rank rows).map ScoredRow.hit) := by
  rw [averagePrecision, precisionSum_eq, positives_eq]
  rfl

theorem exists_hit {rows : List ScoredRow} (some : positives rows ≠ 0) :
    true ∈ (rank rows).map ScoredRow.hit := by
  rw [positives_eq] at some
  have member := List.count_pos_iff.mp (Nat.pos_of_ne_zero some)
  exact ((rank_perm rows).map _).mem_iff.mpr member

/-- Average precision is 1 exactly when the positives are ranked first. -/
theorem averagePrecision_eq_one_iff {rows : List ScoredRow}
    (distinct : (rows.map ScoredRow.rowID).Nodup)
    (labels : ∀ row ∈ rows, row.label = 0 ∨ row.label = 1) (some : positives rows ≠ 0) :
    averagePrecision rows = 1 ↔ RanksPositivesFirst rows := by
  have strict := rank_strict distinct
  have listed : ∀ row, row ∈ rank rows ↔ row ∈ rows := fun _ => (rank_perm rows).mem_iff
  rw [averagePrecision_eq, Precision.average_eq_one_iff (exists_hit some), Precision.HitsFirst,
    List.pairwise_map]
  constructor
  · intro hitsFirst positive member negative negativeMember hit miss
    have different : positive ≠ negative := by
      rintro rfl
      rw [hit] at miss
      cases miss
    have either := pairwise_either (strict.and hitsFirst) ((listed positive).mpr member)
      ((listed negative).mpr negativeMember) different
    refine either.elim And.left fun below => ?_
    have wrong := beq_iff_eq.mp (below.2 (beq_iff_eq.mpr hit))
    rw [miss] at wrong
    cases wrong
  · intro positivesFirst
    refine strict.imp_of_mem ?_
    intro first second firstMember secondMember above hit
    rw [listed] at firstMember secondMember
    by_contra miss
    have negative : first.label = 0 := (labels first firstMember).resolve_right fun positive =>
      miss (beq_iff_eq.mpr positive)
    have below := positivesFirst second secondMember first firstMember (beq_iff_eq.mp hit) negative
    rw [ranksAbove_iff] at above below
    exact lt_asymm above below

/-! ### Brier score -/

theorem square_le_one {score : ℚ} {label : Int} (low : 0 ≤ score) (high : score ≤ 1)
    (either : label = 0 ∨ label = 1) :
    (score - (label : ℚ)) * (score - (label : ℚ)) ≤ 1 := by
  rcases either with rfl | rfl
  · rw [Int.cast_zero, sub_zero]
    exact mul_le_one₀ high low high
  · rw [Int.cast_one, ← neg_sub 1 score, neg_mul_neg]
    have small : 1 - score ≤ 1 := sub_le_self 1 low
    exact mul_le_one₀ small (sub_nonneg.mpr high) small

theorem brierScore_nonneg (rows : List ScoredRow) : 0 ≤ brierScore rows := by
  refine div_nonneg (List.sum_nonneg fun square member => ?_) (Nat.cast_nonneg _)
  obtain ⟨row, -, rfl⟩ := List.mem_map.mp member
  exact mul_self_nonneg _

theorem brierScore_le_one {rows : List ScoredRow}
    (scores : ∀ row ∈ rows, 0 ≤ row.score ∧ row.score ≤ 1)
    (labels : ∀ row ∈ rows, row.label = 0 ∨ row.label = 1) : brierScore rows ≤ 1 := by
  refine div_le_one_of_le₀ ?_ (Nat.cast_nonneg _)
  induction rows with
  | nil => exact le_rfl
  | cons row rest hypothesis =>
    rw [List.forall_mem_cons] at scores labels
    rw [List.map_cons, List.sum_cons, List.length_cons, Nat.cast_succ, add_comm]
    exact add_le_add (hypothesis scores.2 labels.2)
      (square_le_one scores.1.1 scores.1.2 labels.1)

/-! ### Orders of examples and predictions -/

section Orders

variable {dataset : Dataset} {split : Bytes} {predictions others : List Prediction}
  {examples : List Example}

theorem scoreOf_perm (distinct : (predictions.map Prediction.rowID).Nodup)
    (shuffled : predictions.Perm others) (rowID : Bytes) :
    scoreOf others rowID = scoreOf predictions rowID := by
  have distinctOthers := (shuffled.map Prediction.rowID).nodup_iff.mp distinct
  let first : Table Prediction.rowID := ⟨predictions, distinct⟩
  let second : Table Prediction.rowID := ⟨others, distinctOthers⟩
  have same : second.find? rowID = first.find? rowID :=
    Table.find?_congr fun _ _ => shuffled.mem_iff.symm
  exact congrArg (fun found : Option Prediction => found.bind Prediction.score) same

theorem scoredRows_perm (distinct : (predictions.map Prediction.rowID).Nodup)
    (shuffled : predictions.Perm others) (moved : dataset.examples.Perm examples) :
    (scoredRows dataset split predictions).Perm
      (scoredRows { dataset with examples := examples } split others) := by
  have each : scoredBy others = scoredBy predictions := by
    funext row
    rw [scoredBy, scoredBy, scoreOf_perm distinct shuffled]
  rw [scoredRows, scoredRows, each]
  exact (moved.filter _).filterMap _

theorem scoredRows_rowIDs (labelled : WellLabelled dataset) (split : Bytes)
    (predictions : List Prediction) :
    ((scoredRows dataset split predictions).map ScoredRow.rowID).Nodup := by
  have rowIDs : ((scoredRows dataset split predictions).map ScoredRow.rowID).Sublist
      ((splitRows dataset split).map Example.rowID) := by
    unfold scoredRows
    induction splitRows dataset split with
    | nil => exact .slnil
    | cons row rest hypothesis =>
      rw [List.filterMap_cons]
      cases found : scoredBy predictions row with
      | none => exact hypothesis.cons _
      | some scored =>
        obtain ⟨score, -, rfl⟩ := Option.map_eq_some_iff.mp found
        exact hypothesis.cons_cons _
  exact rowIDs.nodup (labelled.splitRows_nodup split)

theorem summarize_perm {first second : List Example} {rows scored : List ScoredRow}
    (distinct : (rows.map ScoredRow.rowID).Nodup) (moved : first.Perm second)
    (shuffled : rows.Perm scored) (abstained : Nat) :
    summarize split first abstained rows = summarize split second abstained scored := by
  have brier : brierScore rows = brierScore scored := by
    rw [brierScore, brierScore, (shuffled.map _).sum_eq, shuffled.length_eq]
  have precision : averagePrecision rows = averagePrecision scored := by
    rw [averagePrecision, averagePrecision, rank_congr distinct shuffled]
  have hits : positives rows = positives scored := shuffled.countP_eq _
  unfold summarize
  simp only [moved.length_eq, shuffled.length_eq, moved.countP_eq, brier, precision, hits]

theorem outcome_perm (labelled : WellLabelled dataset)
    (distinct : (predictions.map Prediction.rowID).Nodup)
    (moved : dataset.examples.Perm examples) (shuffled : predictions.Perm others) :
    outcome { dataset with examples := examples } split others =
      outcome dataset split predictions := by
  have rows : (splitRows dataset split).Perm
      (splitRows { dataset with examples := examples } split) := moved.filter _
  have scored : (scoredRows dataset split predictions).Perm
      (scoredRows { dataset with examples := examples } split others) :=
    scoredRows_perm distinct shuffled moved
  have empty : splitRows { dataset with examples := examples } split = [] ↔
      splitRows dataset split = [] := by
    rw [← List.length_eq_zero_iff, ← rows.length_eq, List.length_eq_zero_iff]
  unfold outcome
  simp only [empty, ← rows.length_eq, ← scored.length_eq,
    summarize_perm (scoredRows_rowIDs labelled split predictions) rows scored]

theorem WellLabelled.perm (labelled : WellLabelled dataset)
    (moved : dataset.examples.Perm examples) :
    WellLabelled { dataset with examples := examples } where
  distinct := (moved.map _).nodup_iff.mp labelled.distinct
  named := fun row member => labelled.named row (moved.mem_iff.mpr member)
  labels := fun row member => labelled.labels row (moved.mem_iff.mpr member)

theorem Covers.shuffle (covers : Covers dataset split predictions)
    (moved : dataset.examples.Perm examples) (shuffled : predictions.Perm others) :
    Covers { dataset with examples := examples } split others where
  distinct := (shuffled.map _).nodup_iff.mp covers.distinct
  same := by
    intro rowID
    have rows : (splitRows dataset split).Perm
        (splitRows { dataset with examples := examples } split) := moved.filter _
    rw [← (shuffled.map _).mem_iff, covers.same, (rows.map _).mem_iff]
  scores := fun prediction member => covers.scores prediction (shuffled.mem_iff.mpr member)

end Orders

/-! ### Mapping the scores -/

/-- A scored row with its score mapped by a function. -/
def ScoredRow.rescore (change : ℚ → ℚ) (row : ScoredRow) : ScoredRow :=
  { row with score := change row.score }

theorem scoreOf_rescore (change : ℚ → ℚ) (predictions : List Prediction) (rowID : Bytes) :
    scoreOf (predictions.map (rescore change)) rowID =
      (scoreOf predictions rowID).map change := by
  have found : (predictions.map (rescore change)).find? (fun prediction =>
      prediction.rowID = rowID) = (predictions.find? fun prediction =>
        prediction.rowID = rowID).map (rescore change) := by
    rw [List.find?_map]
    rfl
  rw [scoreOf, scoreOf, found]
  cases predictions.find? fun prediction => prediction.rowID = rowID with
  | none => rfl
  | some prediction => rfl

theorem scoredRows_rescore (change : ℚ → ℚ) (dataset : Dataset) (split : Bytes)
    (predictions : List Prediction) :
    scoredRows dataset split (predictions.map (rescore change)) =
      (scoredRows dataset split predictions).map (ScoredRow.rescore change) := by
  rw [scoredRows, scoredRows, List.map_filterMap]
  refine List.filterMap_congr fun row _ => ?_
  rw [scoredBy, scoreOf_rescore, scoredBy]
  cases scoreOf predictions row.rowID with
  | none => rfl
  | some score => rfl

section Rescoring

variable {change : ℚ → ℚ} (rising : StrictMonoOn change (Set.Icc 0 1))

include rising

theorem ranksAbove_rescore {first second : ScoredRow} (firstInside : first.score ∈ Set.Icc 0 1)
    (secondInside : second.score ∈ Set.Icc 0 1) :
    ranksAbove (first.rescore change) (second.rescore change) = ranksAbove first second := by
  have same : change first.score = change second.score ↔ first.score = second.score :=
    rising.injOn.eq_iff firstInside secondInside
  have less : change second.score < change first.score ↔ second.score < first.score :=
    rising.lt_iff_lt secondInside firstInside
  simp only [ranksAbove, ScoredRow.rescore, ne_eq, same, less]

/-- A strictly increasing function of the scores keeps average precision. -/
theorem averagePrecision_rescore {rows : List ScoredRow}
    (inside : ∀ row ∈ rows, row.score ∈ Set.Icc 0 1) :
    averagePrecision (rows.map (ScoredRow.rescore change)) = averagePrecision rows := by
  have ranked : rank (rows.map (ScoredRow.rescore change)) =
      (rank rows).map (ScoredRow.rescore change) := by
    refine (List.map_insertionSort _ _ _ _ fun first firstMember second secondMember => ?_).symm
    rw [ranksAbove_rescore rising (inside second secondMember) (inside first firstMember)]
  rw [averagePrecision_eq, averagePrecision_eq, ranked, List.map_map]
  rfl

end Rescoring

theorem summarize_ap_congr {split : Bytes} {examples : List Example} {abstained : Nat}
    {first second : List ScoredRow} (lengths : first.length = second.length)
    (hits : positives first = positives second)
    (precision : averagePrecision first = averagePrecision second) :
    (summarize split examples abstained first).ap =
      (summarize split examples abstained second).ap := by
  unfold summarize
  simp only [lengths, hits, precision]
  split_ifs <;> rfl

theorem summarize_defined {split : Bytes} {examples : List Example} {abstained : Nat}
    {scored : List ScoredRow}
    (defined : (summarize split examples abstained scored).defined = true) :
    positives scored ≠ 0 ∧
      (summarize split examples abstained scored).brier = some (brierScore scored) ∧
      (summarize split examples abstained scored).ap = some (averagePrecision scored) := by
  unfold summarize at defined ⊢
  simp only at defined ⊢
  split_ifs at defined ⊢ with degenerate abstains none
  · cases defined
  · cases defined
  · cases defined
  · exact ⟨none, rfl, rfl⟩

theorem summarize_counts (split : Bytes) (examples : List Example) (abstained : Nat)
    (scored : List ScoredRow) :
    (summarize split examples abstained scored).n = examples.length ∧
      (summarize split examples abstained scored).predicted = scored.length ∧
      (summarize split examples abstained scored).abstained = abstained := by
  unfold summarize
  simp only
  split_ifs
  · exact ⟨rfl, rfl, rfl⟩
  · exact ⟨rfl, rfl, rfl⟩
  · exact ⟨rfl, rfl, rfl⟩
  · exact ⟨rfl, rfl, rfl⟩

section Main

variable {dataset : Dataset} {split : Bytes} {predictions : List Prediction}

theorem scoredRows_length_le :
    (scoredRows dataset split predictions).length ≤ (splitRows dataset split).length :=
  List.length_filterMap_le _ _

/-- A scored row is a row of the split, with the score of a prediction. -/
theorem mem_scoredRows {row : ScoredRow} (member : row ∈ scoredRows dataset split predictions) :
    (∃ source ∈ dataset.examples, row.label = source.label) ∧
      ∃ prediction ∈ predictions, prediction.score = some row.score := by
  obtain ⟨source, inside, scored⟩ := List.mem_filterMap.mp member
  obtain ⟨score, found, rfl⟩ := Option.map_eq_some_iff.mp scored
  obtain ⟨prediction, listed, own⟩ := Option.bind_eq_some_iff.mp found
  exact ⟨⟨source, (List.mem_filter.mp inside).1, rfl⟩, prediction,
    List.mem_of_find?_eq_some listed, own⟩

theorem outcome_counts : (outcome dataset split predictions).n =
    (outcome dataset split predictions).predicted +
      (outcome dataset split predictions).abstained := by
  have few : (scoredRows dataset split predictions).length ≤ (splitRows dataset split).length :=
    scoredRows_length_le
  unfold outcome
  by_cases empty : splitRows dataset split = []
  · rw [if_pos empty, empty]
    rfl
  · obtain ⟨n, predicted, abstained⟩ := summarize_counts split (splitRows dataset split)
      ((splitRows dataset split).length - (scoredRows dataset split predictions).length)
      (scoredRows dataset split predictions)
    rw [if_neg empty, n, predicted, abstained]
    omega

theorem outcome_defined (defined : (outcome dataset split predictions).defined = true) :
    positives (scoredRows dataset split predictions) ≠ 0 ∧
      (outcome dataset split predictions).brier =
        some (brierScore (scoredRows dataset split predictions)) ∧
      (outcome dataset split predictions).ap =
        some (averagePrecision (scoredRows dataset split predictions)) := by
  unfold outcome at defined ⊢
  by_cases empty : splitRows dataset split = []
  · rw [if_pos empty] at defined
    cases defined
  · rw [if_neg empty] at defined ⊢
    exact summarize_defined defined

theorem outcome_rescore {change : ℚ → ℚ} (rising : StrictMonoOn change (Set.Icc 0 1))
    (covers : Covers dataset split predictions) :
    (outcome dataset split (predictions.map (rescore change))).ap =
      (outcome dataset split predictions).ap := by
  have inside : ∀ row ∈ scoredRows dataset split predictions, row.score ∈ Set.Icc 0 1 := by
    intro row member
    obtain ⟨-, prediction, listed, own⟩ := mem_scoredRows member
    exact covers.scores prediction listed row.score own
  unfold outcome
  dsimp only
  rw [scoredRows_rescore, List.length_map]
  by_cases empty : splitRows dataset split = []
  · rw [if_pos empty, if_pos empty]
  · rw [if_neg empty, if_neg empty]
    refine summarize_ap_congr (List.length_map _) ?_ (averagePrecision_rescore rising inside)
    rw [positives_eq, positives_eq, List.map_map]
    rfl

theorem Covers.rescore {change : ℚ → ℚ} (covers : Covers dataset split predictions)
    (bounded : Set.MapsTo change (Set.Icc 0 1) (Set.Icc 0 1)) :
    Covers dataset split (predictions.map (rescore change)) where
  distinct := by
    rw [List.map_map]
    exact covers.distinct
  same := by
    rw [List.map_map]
    exact covers.same
  scores := by
    intro prediction member score own
    obtain ⟨source, listed, rfl⟩ := List.mem_map.mp member
    obtain ⟨old, scored, rfl⟩ := Option.map_eq_some_iff.mp own
    exact bounded (covers.scores source listed old scored)

end Main

/-- An evaluation succeeds exactly on the predictions that cover the split. What it returns does
not depend on the order of examples and predictions. Its metrics lie between 0 and 1, average
precision is 1 exactly when the positives are ranked first, and it depends on the scores by
their order alone. -/
theorem evaluate_exact (dataset : Dataset) (labelled : WellLabelled dataset) (split : Bytes)
    (declared : DeclaredSplit split) (predictions : List Prediction) :
    ((∃ result, evaluate dataset split predictions = .ok result) ↔
      Covers dataset split predictions) ∧
    ∀ result, evaluate dataset split predictions = .ok result →
      result.n = result.predicted + result.abstained ∧
      (∀ examples others, dataset.examples.Perm examples → predictions.Perm others →
        evaluate { dataset with examples := examples } split others = .ok result) ∧
      (result.defined = true → ∃ brier ap, result.brier = some brier ∧ result.ap = some ap ∧
        0 ≤ brier ∧ brier ≤ 1 ∧ 0 < ap ∧ ap ≤ 1 ∧
        (ap = 1 ↔ RanksPositivesFirst (scoredRows dataset split predictions)) ∧
        ∀ change : ℚ → ℚ, StrictMonoOn change (Set.Icc 0 1) →
          Set.MapsTo change (Set.Icc 0 1) (Set.Icc 0 1) →
            ∃ other, evaluate dataset split (predictions.map (rescore change)) = .ok other ∧
              other.ap = some ap) := by
  refine ⟨⟨?_, fun covers => ⟨_, covers.evaluate labelled declared⟩⟩, ?_⟩
  · rintro ⟨result, evaluated⟩
    exact covers_of_evaluate labelled declared evaluated
  · intro result evaluated
    have covers := covers_of_evaluate labelled declared evaluated
    rw [covers.evaluate labelled declared] at evaluated
    obtain rfl := Except.ok.inj evaluated
    refine ⟨outcome_counts, fun examples others moved shuffled => ?_, fun defined => ?_⟩
    · rw [(covers.shuffle moved shuffled).evaluate (labelled.perm moved) declared,
        outcome_perm labelled covers.distinct moved shuffled]
    · obtain ⟨some, brier, ap⟩ := outcome_defined defined
      have scores : ∀ row ∈ scoredRows dataset split predictions,
          0 ≤ row.score ∧ row.score ≤ 1 := by
        intro row member
        obtain ⟨-, prediction, listed, own⟩ := mem_scoredRows member
        exact covers.scores prediction listed row.score own
      have labels : ∀ row ∈ scoredRows dataset split predictions,
          row.label = 0 ∨ row.label = 1 := by
        intro row member
        obtain ⟨⟨source, inside, same⟩, -⟩ := mem_scoredRows member
        rw [same]
        exact labelled.labels source inside
      refine ⟨_, _, brier, ap, brierScore_nonneg _, brierScore_le_one scores labels, ?_, ?_, ?_, ?_⟩
      · rw [averagePrecision_eq]
        exact Precision.average_pos (exists_hit some)
      · rw [averagePrecision_eq]
        exact Precision.average_le_one (exists_hit some)
      · exact averagePrecision_eq_one_iff (scoredRows_rowIDs labelled split predictions) labels some
      · intro change rising bounded
        exact ⟨_, (covers.rescore bounded).evaluate labelled declared,
          (outcome_rescore rising covers).trans ap⟩

def labelledRow (rowID : String) (label : Int) : Example where
  rowID := ascii rowID
  tenantID := []
  itemID := []
  asOfDate := []
  label := label
  split := splitTrain
  sourceCutoffDate := []
  historyHash := []
  protocolID := protocolID

def labelledRows : Dataset := ⟨protocolID, [], [labelledRow "a" 1, labelledRow "b" 0]⟩

theorem evaluate_exact_labelledRows :
    (∃ result, evaluate labelledRows splitTrain
      [⟨ascii "b", some (1 / 4)⟩, ⟨ascii "a", some (3 / 4)⟩] = .ok result) ↔
      Covers labelledRows splitTrain
        [⟨ascii "b", some (1 / 4)⟩, ⟨ascii "a", some (3 / 4)⟩] :=
  (evaluate_exact labelledRows ⟨by decide, by decide, by decide⟩ splitTrain (Or.inl rfl)
    [⟨ascii "b", some (1 / 4)⟩, ⟨ascii "a", some (3 / 4)⟩]).1

end Forecast

end SeshatOps
