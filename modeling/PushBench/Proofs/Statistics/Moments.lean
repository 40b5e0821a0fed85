import Mathlib.Algebra.Order.BigOperators.Group.List
import PushBench.Proofs.Statistics.Critical
import PushBench.Proofs.Statistics.Percentile
import PushBench.Statistics.Summary

/-!
# Means and deviations

In exact arithmetic the statistics of finite periods are those of the real numbers: the mean, the
deviation of a sample, the standard error and, from two values on, the margin.
-/

namespace PushBench

namespace Exact

variable {values other : List ℝ} {factor center : ℝ} {level : Confidence}

/-! ## Numbers -/

/-- The mean of numbers. -/
noncomputable def average (values : List ℝ) : ℝ := values.sum / values.length

/-- The sum of the squared distances of numbers from a center. -/
noncomputable def squares (center : ℝ) (values : List ℝ) : ℝ :=
  (values.map fun value ↦ (value - center) * (value - center)).sum

/-- The standard deviation of a sample. -/
noncomputable def deviation (values : List ℝ) : ℝ :=
  √(squares (average values) values / (values.length - 1 : ℕ))

/-- The standard error of the mean. -/
noncomputable def standardError (values : List ℝ) : ℝ := deviation values / √values.length

/-- Half the width of the interval around the mean. -/
noncomputable def halfWidth (level : Confidence) (values : List ℝ) : ℝ :=
  standardError values * level.criticalValue (values.length - 1)

/-- The middle of numbers in ascending order. -/
noncomputable def median (values : List ℝ) : ℝ :=
  joined (valueAt (ascending values)) (share 50 * (values.length - 1 : ℕ))

/-! ### Middles -/

theorem average_le (hne : values ≠ []) {upper : ℝ} (hupper : ∀ value ∈ values, value ≤ upper) :
    average values ≤ upper := by
  have hpos : (0 : ℝ) < values.length := Nat.cast_pos.mpr (List.length_pos_iff.mpr hne)
  have hsum := List.sum_le_card_nsmul values upper hupper
  rw [nsmul_eq_mul] at hsum
  rwa [average, div_le_iff₀ hpos, mul_comm]

theorem le_average (hne : values ≠ []) {lower : ℝ} (hlower : ∀ value ∈ values, lower ≤ value) :
    lower ≤ average values := by
  have hpos : (0 : ℝ) < values.length := Nat.cast_pos.mpr (List.length_pos_iff.mpr hne)
  have hsum := List.card_nsmul_le_sum values lower hlower
  rw [nsmul_eq_mul] at hsum
  rwa [average, le_div_iff₀ hpos, mul_comm]

theorem median_between (hne : values ≠ []) :
    (∃ low ∈ values, low ≤ median values) ∧ ∃ high ∈ values, median values ≤ high := by
  have hperm := ascending_perm values
  have hmono := valueAt_mono (pairwise_ascending values)
  have hascending : ascending values ≠ [] := fun hnil ↦ hne (List.nil_perm.mp (hnil ▸ hperm))
  have hrank : 0 ≤ share 50 * (values.length - 1 : ℕ) :=
    mul_nonneg (share_nonneg 50) (Nat.cast_nonneg _)
  have hmem (index : ℕ) : valueAt (ascending values) index ∈ values :=
    hperm.mem_iff.mp (valueAt_mem hascending index)
  constructor
  · exact ⟨_, hmem _, le_joined hmono hrank⟩
  · exact ⟨_, hmem _, joined_le hmono _⟩

/-! ### Deviations -/

theorem square_nonneg (center : ℝ) (values : List ℝ) :
    ∀ square ∈ values.map fun value ↦ (value - center) * (value - center), 0 ≤ square := by
  intro square hmem
  obtain ⟨value, -, rfl⟩ := List.mem_map.mp hmem
  exact mul_self_nonneg _

theorem squares_nonneg (center : ℝ) (values : List ℝ) : 0 ≤ squares center values :=
  List.sum_nonneg (square_nonneg center values)

/-- Only numbers that are all the center have no squared distances. -/
theorem squares_eq_zero_iff : squares center values = 0 ↔ ∀ value ∈ values, value = center := by
  constructor
  · intro hzero value hmem
    have hsquare := List.all_zero_of_le_zero_le_of_sum_eq_zero (square_nonneg center values) hzero
      (List.mem_map_of_mem hmem)
    exact sub_eq_zero.mp (mul_self_eq_zero.mp hsquare)
  · intro hcenter
    apply List.sum_eq_zero
    intro square hsquare
    obtain ⟨value, hmem, rfl⟩ := List.mem_map.mp hsquare
    rw [hcenter value hmem, sub_self, mul_zero]

/-- A single number does not deviate. -/
theorem deviation_of_length_lt (hfew : values.length < 2) : deviation values = 0 := by
  have hnone : values.length - 1 = 0 := by omega
  rw [deviation, hnone, Nat.cast_zero, div_zero, Real.sqrt_zero]

theorem deviation_nonneg (values : List ℝ) : 0 ≤ deviation values := Real.sqrt_nonneg _

/-- A sample has no deviation exactly if its numbers are all the same. -/
theorem deviation_eq_zero_iff (hmany : 2 ≤ values.length) :
    deviation values = 0 ↔ ∀ value ∈ values, ∀ other ∈ values, value = other := by
  have hpos : (0 : ℝ) < (values.length - 1 : ℕ) := Nat.cast_pos.mpr (by omega)
  have hquotient : 0 ≤ squares (average values) values / (values.length - 1 : ℕ) :=
    div_nonneg (squares_nonneg _ _) hpos.le
  have hne : values ≠ [] := List.ne_nil_of_length_pos (by omega)
  rw [deviation, Real.sqrt_eq_zero hquotient, div_eq_zero_iff, or_iff_left hpos.ne',
    squares_eq_zero_iff]
  constructor
  · intro hcenter value hvalue other hother
    rw [hcenter value hvalue, hcenter other hother]
  · intro hsame value hvalue
    exact le_antisymm (le_average hne fun other hother ↦ (hsame value hvalue other hother).le)
      (average_le hne fun other hother ↦ (hsame other hother value hvalue).le)

theorem standardError_nonneg (values : List ℝ) : 0 ≤ standardError values :=
  div_nonneg (deviation_nonneg values) (Real.sqrt_nonneg _)

theorem halfWidth_nonneg (level : Confidence) (values : List ℝ) : 0 ≤ halfWidth level values :=
  mul_nonneg (standardError_nonneg values) (level.criticalValue_pos _).le

theorem halfWidth_eq_zero_iff (hmany : 2 ≤ values.length) :
    halfWidth level values = 0 ↔ ∀ value ∈ values, ∀ other ∈ values, value = other := by
  have hroot : √(values.length : ℝ) ≠ 0 := by
    rw [Real.sqrt_ne_zero']
    exact Nat.cast_pos.mpr (by omega)
  rw [halfWidth, mul_eq_zero, or_iff_left (level.criticalValue_pos _).ne', standardError,
    div_eq_zero_iff, or_iff_left hroot, deviation_eq_zero_iff hmany]

/-- A higher level does not make the interval narrower. -/
theorem halfWidth_le_halfWidth {higher : Confidence} (hlevel : level.percent ≤ higher.percent)
    (values : List ℝ) : halfWidth level values ≤ halfWidth higher values :=
  mul_le_mul_of_nonneg_left (Confidence.criticalValue_le_criticalValue hlevel _)
    (standardError_nonneg values)

/-! ### Other units -/

theorem average_map_mul (factor : ℝ) (values : List ℝ) :
    average (values.map (factor * ·)) = factor * average values := by
  rw [average, List.sum_map_mul_left, List.map_id', List.length_map, average, mul_div_assoc]

theorem squares_map_mul (factor center : ℝ) (values : List ℝ) :
    squares (factor * center) (values.map (factor * ·)) =
      factor * factor * squares center values := by
  rw [squares, squares, List.map_map, ← List.sum_map_mul_left]
  congr 2
  funext value
  simp only [Function.comp_apply]
  ring

theorem deviation_map_mul (hfactor : 0 ≤ factor) (values : List ℝ) :
    deviation (values.map (factor * ·)) = factor * deviation values := by
  rw [deviation, average_map_mul, squares_map_mul, List.length_map, mul_div_assoc,
    Real.sqrt_mul (mul_self_nonneg factor), Real.sqrt_mul_self hfactor, deviation]

theorem standardError_map_mul (hfactor : 0 ≤ factor) (values : List ℝ) :
    standardError (values.map (factor * ·)) = factor * standardError values := by
  rw [standardError, deviation_map_mul hfactor, List.length_map, standardError, mul_div_assoc]

theorem halfWidth_map_mul (hfactor : 0 ≤ factor) (level : Confidence) (values : List ℝ) :
    halfWidth level (values.map (factor * ·)) = factor * halfWidth level values := by
  rw [halfWidth, standardError_map_mul hfactor, List.length_map, halfWidth, mul_assoc]

theorem ascending_map_mul (hfactor : 0 ≤ factor) (values : List ℝ) :
    ascending (values.map (factor * ·)) = (ascending values).map (factor * ·) := by
  apply ascending_eq
  · exact (ascending_perm values).map _
  · rw [List.pairwise_map]
    exact (pairwise_ascending values).imp fun hle ↦ mul_le_mul_of_nonneg_left hle hfactor

theorem valueAt_map_mul (factor : ℝ) (sorted : List ℝ) :
    valueAt (sorted.map (factor * ·)) = fun index ↦ factor * valueAt sorted index := by
  funext index
  have hget := List.getD_map sorted (0 : ℝ) (factor * ·) (n := min index (sorted.length - 1))
  rw [mul_zero] at hget
  rw [valueAt, List.length_map, hget, valueAt]

theorem median_map_mul (hfactor : 0 ≤ factor) (values : List ℝ) :
    median (values.map (factor * ·)) = factor * median values := by
  rw [median, ascending_map_mul hfactor, valueAt_map_mul, joined_mul, List.length_map, median]

end Exact

end PushBench
