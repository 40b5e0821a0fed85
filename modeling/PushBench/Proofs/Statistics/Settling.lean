import PushBench.Proofs.Statistics.Summary

/-!
# Margins of settling measurements

One first sample differs, and all later ones are equal. In exact arithmetic the relative margin is
then `|first - later| * t / (first + more * later)` for `more` later samples and the critical value
`t`. The critical value does not grow and the sum does not shrink, so that the relative margin only
falls.
-/

namespace PushBench

namespace Exact

/-! ## Moments -/

/-- A first number and an equal later number many times. -/
def settling (first later : ℝ) (more : ℕ) : List ℝ := first :: List.replicate more later

section

variable (first later : ℝ) (more : ℕ)

theorem length_settling : (settling first later more).length = more + 1 := by
  rw [settling, List.length_cons, List.length_replicate]

theorem average_settling :
    average (settling first later more) = (first + more * later) / (more + 1) := by
  rw [average, length_settling, settling, List.sum_cons, List.sum_replicate, nsmul_eq_mul,
    Nat.cast_add_one]

theorem squares_settling :
    squares (average (settling first later more)) (settling first later more) =
      (first - later) ^ 2 * more / (more + 1) := by
  have hcount : (more + 1 : ℝ) ≠ 0 := Nat.cast_add_one_ne_zero more
  have hfirst : first - average (settling first later more) =
      more * (first - later) / (more + 1) := by
    rw [average_settling]
    field_simp
    ring
  have hlater : later - average (settling first later more) = -(first - later) / (more + 1) := by
    rw [average_settling]
    field_simp
    ring
  generalize average (settling first later more) = center at hfirst hlater ⊢
  rw [squares, settling, List.map_cons, List.map_replicate, List.sum_cons, List.sum_replicate,
    nsmul_eq_mul, hfirst, hlater]
  field_simp

variable {more} {level : Confidence}

/-- From the second number on only the distance and the count determine the deviation. -/
theorem deviation_settling (hmore : more ≠ 0) :
    deviation (settling first later more) = |first - later| / √(more + 1) := by
  have hne : (more : ℝ) ≠ 0 := Nat.cast_ne_zero.mpr hmore
  rw [deviation, squares_settling, length_settling, Nat.add_sub_cancel, div_right_comm,
    mul_div_cancel_right₀ _ hne, Real.sqrt_div (sq_nonneg _), Real.sqrt_sq_eq_abs]

theorem standardError_settling (hmore : more ≠ 0) :
    standardError (settling first later more) = |first - later| / (more + 1) := by
  have hnonneg : (0 : ℝ) ≤ more + 1 := by positivity
  rw [standardError, deviation_settling first later hmore, length_settling, Nat.cast_add_one,
    div_div, Real.mul_self_sqrt hnonneg]

/-- The ratio of half the width and the mean does not depend on how the sum is shared out. -/
theorem halfWidth_div_average_settling (hmore : more ≠ 0) :
    halfWidth level (settling first later more) / average (settling first later more) =
      |first - later| * level.criticalValue more / (first + more * later) := by
  have hne : (more + 1 : ℝ) ≠ 0 := Nat.cast_add_one_ne_zero more
  rw [halfWidth, standardError_settling first later hmore, average_settling, length_settling,
    Nat.add_sub_cancel, div_mul_eq_mul_div, div_div_div_cancel_right₀ hne]

end

/-! ## Ratios -/

/-- The relative margin after some later numbers; it is zero if the sum is. -/
noncomputable def settledRatio (level : Confidence) (first later : ℝ) (more : ℕ) : ℝ :=
  |first - later| * level.criticalValue more / (first + more * later)

variable {first later : ℝ} {more : ℕ}

theorem settledRatio_nonneg (level : Confidence) (hfirst : 0 ≤ first) (hlater : 0 ≤ later)
    (more : ℕ) : 0 ≤ settledRatio level first later more := by
  have hcritical := (level.criticalValue_pos more).le
  rw [settledRatio]
  positivity

/-- A later number more lowers the critical value and adds to the sum. -/
theorem settledRatio_succ_le (level : Confidence) (hfirst : 0 ≤ first) (hlater : 0 ≤ later)
    (hmore : more ≠ 0) :
    settledRatio level first later (more + 1) ≤ settledRatio level first later more := by
  have hcritical := level.criticalValue_antitone more.le_succ
  have hproduct : 0 ≤ more * later := mul_nonneg more.cast_nonneg hlater
  have hsum : first + more * later ≤ first + (more + 1 : ℕ) * later := by
    have hcount : (more : ℝ) ≤ (more + 1 : ℕ) := Nat.cast_le.mpr more.le_succ
    gcongr
  rcases (add_nonneg hfirst hproduct).lt_or_eq with hpos | hzero
  · have hnonneg := (level.criticalValue_pos more).le
    rw [settledRatio, settledRatio]
    gcongr
  · -- Periods that sum up to zero are all zero.
    obtain ⟨rfl, hnone⟩ := (add_eq_zero_iff_of_nonneg hfirst hproduct).mp hzero.symm
    obtain rfl := (mul_eq_zero.mp hnone).resolve_left (Nat.cast_ne_zero.mpr hmore)
    simp [settledRatio]

end Exact

/-! ## Statistics -/

namespace Statistics

open Exact

/-- Relative margins, one for every number of later samples, that only fall. -/
structure Settle (margin : ℕ → EReal) : Prop where
  /-- One sample does not bound the margin. -/
  zero_eq : margin 0 = ⊤
  nonneg (more : ℕ) : 0 ≤ margin more
  antitone : Antitone margin

variable {first later : ℝ} {level : Confidence}

theorem relativeMargin_settling (hfirst : 0 ≤ first) (hlater : 0 ≤ later) (more iterations : ℕ)
    (level : Confidence) :
    (ofNumbers first (List.replicate more later) iterations level).relativeMargin =
      if more = 0 then ⊤ else ((settledRatio level first later more * 100 : ℝ) : EReal) := by
  have hdescribes : Describes level (settling first later more)
      (ofNumbers first (List.replicate more later) iterations level) :=
    describes_ofNumbers first (List.replicate more later) iterations level
  rw [hdescribes.relativeMargin_eq, hdescribes.margin_eq, hdescribes.mean_eq, length_settling]
  split
  next hfew =>
    have hnone : more = 0 := by omega
    rw [percentOfMean_top, if_pos hnone]
  next hmany =>
    have hmore : more ≠ 0 := by omega
    have haverage : 0 ≤ average (settling first later more) := by
      rw [average_settling]
      positivity
    rw [percentOfMean_of_nonneg _ haverage, if_neg hmore,
      halfWidth_div_average_settling first later hmore, settledRatio]

theorem settle_ofNumbers (hfirst : 0 ≤ first) (hlater : 0 ≤ later) (iterations : ℕ → ℕ)
    (level : Confidence) :
    Settle fun more ↦
      (ofNumbers first (List.replicate more later) (iterations more) level).relativeMargin := by
  simp only [relativeMargin_settling hfirst hlater]
  refine ⟨if_pos rfl, fun more ↦ ?_, antitone_nat_of_succ_le fun more ↦ ?_⟩
  · split
    next => exact le_top
    next =>
      have hratio := settledRatio_nonneg level hfirst hlater more
      exact EReal.coe_nonneg.mpr (by positivity)
  · rw [if_neg more.succ_ne_zero]
    split
    next => exact le_top
    next hmore =>
      have hstep := settledRatio_succ_le level hfirst hlater hmore
      rw [EReal.coe_le_coe_iff]
      gcongr

theorem ofSamples_settling {sample : Sample} {more : ℕ → Sample}
    (hsample : (sample.period : EReal) = first)
    (hmore : ∀ index, ((more index).period : EReal) = later) (count : ℕ) (level : Confidence) :
    (ofSamples (sample :: (List.range count).map more) level : Statistics EReal) =
      ofNumbers first (List.replicate count later)
        (totalIterations (sample :: (List.range count).map more)) level := by
  have hperiods : ((List.range count).map more).map (fun sample ↦ (sample.period : EReal)) =
      (List.replicate count later).map Real.toEReal := by
    rw [List.map_map, List.map_replicate, List.eq_replicate_iff, List.length_map,
      List.length_range]
    refine ⟨rfl, fun value hvalue ↦ ?_⟩
    obtain ⟨index, -, rfl⟩ := List.mem_map.mp hvalue
    exact hmore index
  rw [ofSamples, List.map_cons, hsample, hperiods]

/-- The relative margin is unbounded for one sample, never negative, and never grows as samples of
one period follow a first sample of any other period. This holds of all periods, and of all samples
that have them. -/
theorem relativeMargin_settles (hfirst : 0 ≤ first) (hlater : 0 ≤ later) (level : Confidence) :
    (∀ iterations : ℕ → ℕ, Settle fun count ↦
      (ofPeriods (iterations count) (first : EReal) (List.replicate count (later : EReal))
        level).relativeMargin) ∧
    ∀ (sample : Sample) (more : ℕ → Sample), (sample.period : EReal) = first →
      (∀ index, ((more index).period : EReal) = later) →
      Settle fun count ↦
        (ofSamples (α := EReal) (sample :: (List.range count).map more) level).relativeMargin := by
  constructor
  · intro iterations
    simpa only [ofNumbers, List.map_replicate] using settle_ofNumbers hfirst hlater iterations level
  · intro sample more hsample hmore
    simp only [ofSamples_settling hsample hmore]
    exact settle_ofNumbers hfirst hlater _ level

/-- A first sample of 110 nanoseconds an invocation, and 100 from the second on. -/
theorem relativeMargin_settles_after_noise :
    (0 : ℝ) ≤ 110 ∧ (0 : ℝ) ≤ 100 ∧ Settle fun count ↦
      (ofSamples (⟨1100, 10⟩ :: (List.range count).map fun _ ↦ ⟨1000, 10⟩) .ninetyFive :
        Statistics EReal).relativeMargin := by
  have hnoisy : (0 : ℝ) ≤ 110 := by norm_num
  have hsteady : (0 : ℝ) ≤ 100 := by norm_num
  refine ⟨hnoisy, hsteady, (relativeMargin_settles hnoisy hsteady .ninetyFive).2 _ _ ?_ ?_⟩
  · rw [period_coe, period]
    norm_num
  · intro index
    rw [period_coe, period]
    norm_num

end Statistics

end PushBench
