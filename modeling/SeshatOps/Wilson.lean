/-
This file models the uncertainty that the offline candidate attaches to a score: the Wilson
interval of a bucket of training rows, widened to contain the smoothed rate that is the score,
and the check that the evaluation makes of it.

The Wilson interval of `k` positives among `n` rows is the set of rates `q` with
`(q - k / n) ^ 2 ≤ z ^ 2 * q * (1 - q) / n`. The producer's comment says that the smoothed rate
`(k + 1) / (n + 2)` can fall outside it. At that rate the inequality is
`(n - 2 k) ^ 2 ≤ z ^ 2 * n * (k + 1) * (n - k + 1)`, and the product on the right is at least
`n ^ 2` for every `z` of at least one: the rate never leaves the interval, and the widening
changes nothing.
-/

import Mathlib.Analysis.Real.Sqrt
import Mathlib.Tactic.FieldSimp
import Mathlib.Tactic.Linarith
import Mathlib.Tactic.NormNum
import Mathlib.Tactic.Positivity
import Mathlib.Tactic.Ring
import SeshatOps.Strings

namespace SeshatOps

namespace Forecast

/-! ### The check of the evaluation -/

/-- `CandidateUncertaintyMethod`. -/
def candidateUncertaintyMethod : Bytes := ascii "wilson-95"

/-- `PredictionUncertainty`, with the numbers of any ordered type for `float64`. -/
structure PredictionUncertainty (Score : Type) where
  method : Bytes
  lower : Score
  upper : Score
  sampleCount : Int

/-- What `validateCandidateUncertainty` reports, inside `ErrInvalidInput`. -/
inductive UncertaintyError (Score : Type)
  /-- `method or sample count` -/
  | methodOrSampleCount
  /-- `score <value>` -/
  | score (found : Score)
  /-- `interval bounds` -/
  | intervalBounds

section Checks

variable {Score : Type} [LinearOrder Score] [Zero Score] [One Score]

/-- The bounds that `validateCandidateScore` sets; exact scores are neither NaN nor infinite. -/
def validateCandidateScore (score : Score) : Except (UncertaintyError Score) Unit :=
  if score < 0 ∨ 1 < score then .error (.score score) else .ok ()

def validateCandidateUncertainty (uncertainty : PredictionUncertainty Score) (risk : Score) :
    Except (UncertaintyError Score) Unit := do
  if uncertainty.method ≠ candidateUncertaintyMethod ∨ uncertainty.sampleCount ≤ 0 then
    .error .methodOrSampleCount
  validateCandidateScore uncertainty.lower
  validateCandidateScore uncertainty.upper
  if uncertainty.upper < uncertainty.lower ∨ risk < uncertainty.lower ∨
      uncertainty.upper < risk then
    .error .intervalBounds

theorem validateCandidateScore_ok {score : Score} (above : 0 ≤ score) (below : score ≤ 1) :
    validateCandidateScore score = .ok () := by
  rw [validateCandidateScore, if_neg]
  rintro (low | high)
  · exact absurd above (not_le.mpr low)
  · exact absurd below (not_le.mpr high)

/-- An interval within the bounds of a score and around the risk passes. -/
theorem validateCandidateUncertainty_ok {uncertainty : PredictionUncertainty Score}
    {risk : Score} (method : uncertainty.method = candidateUncertaintyMethod)
    (counted : 0 < uncertainty.sampleCount) (positive : 0 ≤ uncertainty.lower)
    (low : uncertainty.lower ≤ risk) (high : risk ≤ uncertainty.upper)
    (small : uncertainty.upper ≤ 1) :
    validateCandidateUncertainty uncertainty risk = .ok () := by
  have ordered : uncertainty.lower ≤ uncertainty.upper := low.trans high
  have named : ¬ (uncertainty.method ≠ candidateUncertaintyMethod ∨
      uncertainty.sampleCount ≤ 0) := by
    rintro (other | none)
    · exact other method
    · omega
  have inside : ¬ (uncertainty.upper < uncertainty.lower ∨ risk < uncertainty.lower ∨
      uncertainty.upper < risk) := by
    rintro (crossed | below | above)
    · exact absurd ordered (not_le.mpr crossed)
    · exact absurd low (not_le.mpr below)
    · exact absurd high (not_le.mpr above)
  simp only [validateCandidateUncertainty, if_neg named, if_neg inside,
    validateCandidateScore_ok positive (ordered.trans small),
    validateCandidateScore_ok (positive.trans ordered) small]
  rfl

end Checks

/-! ### The producer -/

noncomputable section

/-- `WILSON_Z`. -/
def wilsonZ : ℝ := 1.96

/-- `_wilson_interval`. -/
def wilsonInterval (positiveCount sampleCount : ℕ) : ℝ × ℝ :=
  let proportion : ℝ := positiveCount / sampleCount
  let denominator : ℝ := 1 + wilsonZ ^ 2 / sampleCount
  let center : ℝ := (proportion + wilsonZ ^ 2 / (2 * sampleCount)) / denominator
  let margin : ℝ := wilsonZ * Real.sqrt
    (proportion * (1 - proportion) / sampleCount + wilsonZ ^ 2 / (4 * sampleCount ^ 2)) /
      denominator
  (max 0 (center - margin), min 1 (center + margin))

/-- The score of a bucket, `(positive_count + 1) / (sample_count + 2)`. -/
def smoothedRisk (positiveCount sampleCount : ℕ) : ℝ :=
  (positiveCount + 1) / (sampleCount + 2)

/-- The uncertainty that `build_artifact` emits: the interval, widened to contain the score. -/
def builtUncertainty (positiveCount sampleCount : ℕ) : PredictionUncertainty ℝ where
  method := candidateUncertaintyMethod
  lower := min (wilsonInterval positiveCount sampleCount).1
    (smoothedRisk positiveCount sampleCount)
  upper := max (wilsonInterval positiveCount sampleCount).2
    (smoothedRisk positiveCount sampleCount)
  sampleCount := sampleCount

/-! ### The score lies in the interval -/

/-- A number whose distance from a center is bounded by its square, after scaling. -/
theorem between_of_sq_le {scale center radius number : ℝ} (positive : 0 < scale)
    (nonneg : 0 ≤ radius) (close : (scale * number - center) ^ 2 ≤ radius ^ 2) :
    (center - radius) / scale ≤ number ∧ number ≤ (center + radius) / scale := by
  obtain ⟨low, high⟩ := abs_le_of_sq_le_sq' close nonneg
  rw [div_le_iff₀ positive, le_div_iff₀ positive]
  constructor
  · linarith
  · linarith

/-- The rates of the interval: those whose squared distance from the proportion is at most
`z ^ 2` times their own variance. -/
theorem mem_wilson_of_sq_le {z count proportion rate : ℝ} (counted : 0 < count) (atLeast : 0 ≤ z)
    (low : 0 ≤ proportion) (high : proportion ≤ 1)
    (close : (rate - proportion) ^ 2 ≤ z ^ 2 * (rate * (1 - rate)) / count) :
    (proportion + z ^ 2 / (2 * count)) / (1 + z ^ 2 / count) -
        z * Real.sqrt (proportion * (1 - proportion) / count + z ^ 2 / (4 * count ^ 2)) /
          (1 + z ^ 2 / count) ≤ rate ∧
      rate ≤ (proportion + z ^ 2 / (2 * count)) / (1 + z ^ 2 / count) +
        z * Real.sqrt (proportion * (1 - proportion) / count + z ^ 2 / (4 * count ^ 2)) /
          (1 + z ^ 2 / count) := by
  have scale : 0 < 1 + z ^ 2 / count := by positivity
  have variance : 0 ≤ proportion * (1 - proportion) / count + z ^ 2 / (4 * count ^ 2) := by
    have spread : 0 ≤ proportion * (1 - proportion) := mul_nonneg low (sub_nonneg.mpr high)
    positivity
  rw [← sub_div, ← add_div]
  refine between_of_sq_le scale (mul_nonneg atLeast (Real.sqrt_nonneg _)) ?_
  rw [mul_pow, Real.sq_sqrt variance]
  -- Both sides differ from the two of `close` by the same number, after scaling.
  have expanded : z ^ 2 * (proportion * (1 - proportion) / count + z ^ 2 / (4 * count ^ 2)) -
      ((1 + z ^ 2 / count) * rate - (proportion + z ^ 2 / (2 * count))) ^ 2 =
      (1 + z ^ 2 / count) *
        (z ^ 2 * (rate * (1 - rate)) / count - (rate - proportion) ^ 2) := by
    field_simp
    ring
  have product : 0 ≤ (1 + z ^ 2 / count) *
      (z ^ 2 * (rate * (1 - rate)) / count - (rate - proportion) ^ 2) :=
    mul_nonneg scale.le (sub_nonneg.mpr close)
  linarith

/-- The inequality of the rates at the smoothed rate. -/
theorem smoothed_sq_le {z count positive : ℝ} (counted : 1 ≤ count) (wide : 1 ≤ z ^ 2)
    (low : 0 ≤ positive) (high : positive ≤ count) :
    ((positive + 1) / (count + 2) - positive / count) ^ 2 ≤
      z ^ 2 * ((positive + 1) / (count + 2) * (1 - (positive + 1) / (count + 2))) / count := by
  have nonzero : count ≠ 0 := by linarith
  have apart : (positive + 1) / (count + 2) - positive / count =
      (count - 2 * positive) / (count * (count + 2)) := by
    field_simp
    ring
  have spread : z ^ 2 * ((positive + 1) / (count + 2) * (1 - (positive + 1) / (count + 2))) /
      count = z ^ 2 * count * ((positive + 1) * (count - positive + 1)) /
        (count * (count + 2)) ^ 2 := by
    field_simp
    ring
  rw [apart, spread, div_pow]
  refine div_le_div_of_nonneg_right ?_ (sq_nonneg _)
  have square : (count - 2 * positive) ^ 2 ≤ count ^ 2 := by
    nlinarith [mul_nonneg low (sub_nonneg.mpr high)]
  have factors : count ≤ (positive + 1) * (count - positive + 1) := by
    nlinarith [mul_nonneg low (sub_nonneg.mpr high)]
  calc (count - 2 * positive) ^ 2
      ≤ 1 * (count * count) := by linarith [square]
    _ ≤ z ^ 2 * (count * ((positive + 1) * (count - positive + 1))) := by
        have nonneg : 0 ≤ count := by linarith
        exact mul_le_mul wide (mul_le_mul_of_nonneg_left factors nonneg) (by positivity)
          (by positivity)
    _ = z ^ 2 * count * ((positive + 1) * (count - positive + 1)) := by ring

theorem smoothedRisk_bounds (positiveCount sampleCount : ℕ) (counted : 1 ≤ sampleCount)
    (part : positiveCount ≤ sampleCount) :
    (wilsonInterval positiveCount sampleCount).1 ≤ smoothedRisk positiveCount sampleCount ∧
      smoothedRisk positiveCount sampleCount ≤ (wilsonInterval positiveCount sampleCount).2 := by
  have least : (1 : ℝ) ≤ sampleCount := by exact_mod_cast counted
  have positive : (0 : ℝ) < sampleCount := by linarith
  have low : (0 : ℝ) ≤ positiveCount := Nat.cast_nonneg _
  have high : (positiveCount : ℝ) ≤ sampleCount := by exact_mod_cast part
  have wide : 1 ≤ wilsonZ ^ 2 := by norm_num [wilsonZ]
  have close := smoothed_sq_le least wide low high
  obtain ⟨below, above⟩ := mem_wilson_of_sq_le positive (by norm_num [wilsonZ])
    (div_nonneg low positive.le) (div_le_one_of_le₀ high positive.le) close
  have nonneg : 0 ≤ smoothedRisk positiveCount sampleCount := by
    unfold smoothedRisk
    positivity
  have small : smoothedRisk positiveCount sampleCount ≤ 1 := by
    rw [smoothedRisk, div_le_one (by positivity)]
    linarith
  exact ⟨max_le nonneg below, le_min small above⟩

/-- For every bucket: the score lies in the raw interval, the interval lies in the unit interval,
widening does not change it, and it passes the check of the evaluation. -/
theorem smoothedRisk_in_wilsonInterval (positiveCount sampleCount : ℕ)
    (counted : 1 ≤ sampleCount) (part : positiveCount ≤ sampleCount) :
    (wilsonInterval positiveCount sampleCount).1 ≤ smoothedRisk positiveCount sampleCount ∧
    smoothedRisk positiveCount sampleCount ≤ (wilsonInterval positiveCount sampleCount).2 ∧
    0 ≤ (wilsonInterval positiveCount sampleCount).1 ∧
    (wilsonInterval positiveCount sampleCount).1 ≤
      (wilsonInterval positiveCount sampleCount).2 ∧
    (wilsonInterval positiveCount sampleCount).2 ≤ 1 ∧
    (builtUncertainty positiveCount sampleCount).lower =
      (wilsonInterval positiveCount sampleCount).1 ∧
    (builtUncertainty positiveCount sampleCount).upper =
      (wilsonInterval positiveCount sampleCount).2 ∧
    validateCandidateUncertainty (builtUncertainty positiveCount sampleCount)
      (smoothedRisk positiveCount sampleCount) = .ok () := by
  obtain ⟨below, above⟩ := smoothedRisk_bounds positiveCount sampleCount counted part
  have nonneg : 0 ≤ (wilsonInterval positiveCount sampleCount).1 := le_max_left _ _
  have small : (wilsonInterval positiveCount sampleCount).2 ≤ 1 := min_le_left _ _
  have lower : (builtUncertainty positiveCount sampleCount).lower =
      (wilsonInterval positiveCount sampleCount).1 := min_eq_left below
  have upper : (builtUncertainty positiveCount sampleCount).upper =
      (wilsonInterval positiveCount sampleCount).2 := max_eq_left above
  refine ⟨below, above, nonneg, below.trans above, small, lower, upper, ?_⟩
  refine validateCandidateUncertainty_ok rfl ?_ ?_ ?_ ?_ ?_
  · exact Int.natCast_pos.mpr counted
  · rw [lower]
    exact nonneg
  · rw [lower]
    exact below
  · rw [upper]
    exact above
  · rw [upper]
    exact small

/-- A bucket of five rows without a positive. -/
theorem smoothedRisk_in_wilsonInterval_five :
    (wilsonInterval 0 5).1 ≤ smoothedRisk 0 5 ∧ smoothedRisk 0 5 ≤ (wilsonInterval 0 5).2 ∧
    validateCandidateUncertainty (builtUncertainty 0 5) (smoothedRisk 0 5) = .ok () := by
  obtain ⟨below, above, -, -, -, -, -, passes⟩ :=
    smoothedRisk_in_wilsonInterval 0 5 (by decide) (by decide)
  exact ⟨below, above, passes⟩

end

end Forecast

end SeshatOps
