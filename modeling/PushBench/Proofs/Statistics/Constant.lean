import PushBench.Proofs.Number.Exact
import PushBench.Statistics.Summary

/-!
# Statistics of equal periods

In exact arithmetic samples that all have the same period have that period as their mean, and no
margin as soon as there are two of them.
-/

namespace PushBench

namespace Exact

theorem sum_replicate (count : Nat) (value : ℝ) :
    Scalar.sum (List.replicate count (value : EReal)) = ((count * value : ℝ) : EReal) := by
  have hsum := sum_map_coe (List.replicate count value)
  rwa [List.map_replicate, List.sum_replicate, nsmul_eq_mul] at hsum

theorem coe_div_natCast (value : ℝ) (count : Nat) :
    (value : EReal) / Scalar.ofNat count = ((value / count : ℝ) : EReal) := by
  rw [ofNat_eq, EReal.coe_div, EReal.coe_natCast]

theorem mean_replicate (value : ℝ) (more : Nat) :
    Scalar.sum (List.replicate (more + 1) (value : EReal)) / Scalar.ofNat (more + 1) = value := by
  have hcount : ((more + 1 : Nat) : ℝ) ≠ 0 := Nat.cast_ne_zero.mpr more.succ_ne_zero
  rw [sum_replicate, coe_div_natCast, mul_div_cancel_left₀ value hcount]

/-- A batch of invocations that all take the same time has that time as its period. -/
theorem period_eq {iterations : Nat} (hiterations : 1 ≤ iterations) (time : Nat) :
    (Sample.period ⟨iterations * time, iterations⟩ : EReal) = ((time : ℝ) : EReal) := by
  have hcount : (iterations : ℝ) ≠ 0 := Nat.cast_ne_zero.mpr (Nat.ne_of_gt hiterations)
  calc
    (Sample.period ⟨iterations * time, iterations⟩ : EReal)
        = ((iterations * time : Nat) : ℝ) / Scalar.ofNat iterations := by
      rw [EReal.coe_natCast]
      rfl
    _ = ((iterations * time / iterations : ℝ) : EReal) := by
      rw [coe_div_natCast, Nat.cast_mul]
    _ = ((time : ℝ) : EReal) := by rw [mul_div_cancel_left₀ _ hcount]

end Exact

namespace Statistics

theorem percentOfMean_top (mean : EReal) : percentOfMean (⊤ : EReal) mean = ⊤ := by
  simp [percentOfMean]

theorem percentOfMean_zero (mean : EReal) : percentOfMean (0 : EReal) mean = 0 := by
  have hfinite : Scalar.isInfinite (0 : EReal) = false := Exact.isInfinite_coe 0
  simp [percentOfMean, hfinite]

variable (period : ℝ) (more iterations : Nat) (level : Confidence)

theorem squaredDeviations_replicate (count : Nat) :
    squaredDeviations (period : EReal) (List.replicate count (period : EReal)) = 0 := by
  have hdistance : (period : EReal) - period = ((0 : ℝ) : EReal) := by
    rw [← EReal.coe_sub, sub_self]
  rw [squaredDeviations, List.map_replicate, hdistance, ← EReal.coe_mul, Exact.sum_replicate]
  simp

theorem deviation_replicate (count : Nat) :
    deviation (period : EReal) (List.replicate count (period : EReal)) = 0 := by
  rw [deviation, squaredDeviations_replicate, ← EReal.coe_zero, Exact.coe_div_natCast, zero_div,
    Exact.sqrt_coe, Real.sqrt_zero]

theorem mean_ofPeriods_replicate :
    (ofPeriods iterations (period : EReal) (List.replicate more (period : EReal)) level).mean =
      period := by
  have hmean := Exact.mean_replicate period more
  rw [List.replicate_succ] at hmean
  simpa only [ofPeriods, List.length_cons, List.length_replicate] using hmean

/-- One sample does not bound the margin, and equal ones leave none. -/
theorem margin_ofPeriods_replicate :
    (ofPeriods iterations (period : EReal) (List.replicate more (period : EReal)) level).margin =
      if more = 0 then ⊤ else 0 := by
  cases more with
  | zero => rfl
  | succ more =>
    have hmean := mean_ofPeriods_replicate period (more + 1) iterations level
    have hdeviation := deviation_replicate period (more + 2)
    rw [List.replicate_succ] at hdeviation
    simp only [ofPeriods, List.length_cons, List.length_replicate] at hmean ⊢
    rw [hmean, hdeviation]
    simp

theorem relativeMargin_ofPeriods_replicate :
    (ofPeriods iterations (period : EReal) (List.replicate more (period : EReal))
      level).relativeMargin = if more = 0 then ⊤ else 0 := by
  have hmargin := margin_ofPeriods_replicate period more iterations level
  calc
    (ofPeriods iterations (period : EReal) (List.replicate more (period : EReal))
        level).relativeMargin = percentOfMean (if more = 0 then ⊤ else 0) _ :=
      congrArg₂ percentOfMean hmargin rfl
    _ = if more = 0 then ⊤ else 0 := by
      split
      next => rw [percentOfMean_top]
      next => rw [percentOfMean_zero]

theorem rate_ofPeriods_replicate (hperiod : 0 < period) :
    (ofPeriods iterations (period : EReal) (List.replicate more (period : EReal)) level).rate =
      ((1000000000 / period : ℝ) : EReal) := by
  have hmean := mean_ofPeriods_replicate period more iterations level
  have hpositive : Scalar.lt (0.0 : EReal) (period : EReal) = true := by
    rw [Exact.lt_iff, Exact.zero_eq]
    exact EReal.coe_pos.mpr hperiod
  calc
    (ofPeriods iterations (period : EReal) (List.replicate more (period : EReal)) level).rate
        = perSecond (period : EReal) := congrArg perSecond hmean
    _ = ((1000000000.0 : ℝ) : EReal) / period := by
      rw [perSecond, if_pos hpositive]
      rfl
    _ = ((1000000000 / period : ℝ) : EReal) := by
      rw [← EReal.coe_div]
      norm_num

/-- Samples of one period give the statistics of that period. -/
theorem ofSamples_constant {samples : List Sample} {more : Nat} {period : ℝ}
    (hlength : samples.length = more + 1)
    (hperiod : ∀ sample ∈ samples, (sample.period : EReal) = period) (level : Confidence) :
    (ofSamples samples level : Statistics EReal) =
      ofPeriods (totalIterations samples) (period : EReal) (List.replicate more (period : EReal))
        level := by
  have hperiods : samples.map (fun sample ↦ (sample.period : EReal)) =
      List.replicate (more + 1) (period : EReal) := by
    rw [List.eq_replicate_iff, List.length_map]
    refine ⟨hlength, fun value hmem ↦ ?_⟩
    obtain ⟨sample, hsample, rfl⟩ := List.mem_map.mp hmem
    exact hperiod sample hsample
  rw [ofSamples, hperiods]
  rfl

end Statistics

end PushBench
