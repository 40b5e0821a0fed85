import PushBench.Proofs.Number.Order
import PushBench.Proofs.Statistics.Percentile

/-!
# Ranks of percentages

A percentage is turned into a rank by rounded arithmetic. The rank is never past the last value of
a list, whatever the percentage is, so that no place outside the list is read.
-/

namespace PushBench

namespace Binary64

open Float.Model

variable {x y : Float} {values : List Float} {last : Nat}

/-! ## Order of sorting -/

theorem sortsBefore_iff : Scalar.sortsBefore x y = true ↔ orderKey x ≤ orderKey y :=
  decide_eq_true_iff

/-- Doubles of one key have the same bits. -/
theorem eq_of_orderKey_eq (h : orderKey x = orderKey y) : x = y := by
  have hbitsx : bits x < 2 ^ 64 := x.toBits.toNat_lt
  have hbitsy : bits y < 2 ^ 64 := y.toBits.toNat_lt
  have hwide : twoPow 64 = 2 ^ 64 := rfl
  have hhalf : twoPow 63 = 2 ^ 63 := rfl
  have hbits : bits x = bits y := by
    simp only [orderKey, isNegative, decide_eq_true_eq] at h
    split_ifs at h <;> omega
  exact Float.toBits_inj.mp (UInt64.toNat_inj.mp hbits)

instance : Scalar.SortsTotally Float where
  total x y := by
    rw [Bool.or_eq_true, sortsBefore_iff, sortsBefore_iff]
    exact Nat.le_total _ _
  trans x y z hxy hyz := by
    rw [sortsBefore_iff] at hxy hyz ⊢
    exact Nat.le_trans hxy hyz
  antisymm x y hxy hyx := by
    rw [sortsBefore_iff] at hxy hyx
    exact eq_of_orderKey_eq (Nat.le_antisymm hxy hyx)

/-! ## Shares -/

theorem one_eq : (1.0 : Float) = Float.ofNat 1 :=
  congrArg Float.ofModel (by decide +kernel : (1.0 : Float).toModel = (Float.ofNat 1).toModel)

theorem isFinite_one : (1.0 : Float).isFinite = true := by decide +kernel

theorem value_one : value 1.0 = 1 := by
  rw [one_eq, value_ofNat (by decide), Nat.cast_one]

/-- What lies between zero and one is a finite double, and its number lies between them too. -/
theorem value_of_not_lt (hnan : x.isNaN = false) (hlow : ¬x < 0.0) (hhigh : ¬1.0 < x) :
    x.isFinite = true ∧ 0 ≤ value x ∧ value x ≤ 1 := by
  have hone : place 1.0 = ((1 : ℝ) : EReal) := by
    rw [place_of_isFinite isFinite_one, value_one, Rat.cast_one]
  rw [lt_iff_place hnan (isNaN_of_isFinite isFinite_zero), not_lt, place_zero] at hlow
  rw [lt_iff_place (isNaN_of_isFinite isFinite_one) hnan, not_lt, hone] at hhigh
  have hfinite : x.isFinite = true := by
    by_contra hinfinite
    rw [place_of_infinite (eq_false_of_ne_true hinfinite)] at hlow hhigh
    split at hlow
    next => exact absurd hlow (by simp)
    next hsign =>
      rw [if_neg hsign, top_le_iff] at hhigh
      exact EReal.coe_ne_top 1 hhigh
  rw [place_of_isFinite hfinite] at hlow hhigh
  refine ⟨hfinite, ?_, ?_⟩
  · exact_mod_cast hlow
  · exact_mod_cast hhigh

/-- A share of a list is no number, or a number between zero and one. -/
theorem clamp_cases (x : Float) :
    (Scalar.clamp (0.0 : Float) 1.0 x).isNaN = true ∨
      (Scalar.clamp (0.0 : Float) 1.0 x).isFinite = true ∧
        0 ≤ value (Scalar.clamp (0.0 : Float) 1.0 x) ∧
        value (Scalar.clamp (0.0 : Float) 1.0 x) ≤ 1 := by
  have hlt {x y : Float} : Scalar.lt x y = true ↔ x < y := decide_eq_true_iff
  simp only [Scalar.clamp, hlt]
  split_ifs with hlow hhigh
  · exact .inr ⟨isFinite_zero, value_zero.ge, by rw [value_zero]; exact zero_le_one⟩
  · exact .inr ⟨isFinite_one, by rw [value_one]; exact zero_le_one, value_one.le⟩
  · cases hnan : x.isNaN with
    | true => exact .inl rfl
    | false => exact .inr (value_of_not_lt hnan hlow hhigh)

theorem isNaN_mul (h : x.isNaN = true) : (x * y).isNaN = true := by
  change x.toModel.unpack.isNaN = true at h
  change (pack (UnpackedFloat.mul Format.binary64 x.toModel.unpack y.toModel.unpack)).unpack.isNaN =
    true
  have hproduct (second : UnpackedFloat) :
      UnpackedFloat.mul Format.binary64 .notANumber second = .notANumber := by
    cases second <;> rfl
  generalize x.toModel.unpack = first at h ⊢
  cases first with
  | notANumber =>
    rw [hproduct]
    rfl
  | _ => cases h

/-- The rank of a percentage is not past the last one. -/
theorem floor_percentileRank_le (hpos : 0 < last) (hlast : last < 2 ^ 53) (percentage : Float) :
    floor (percentileRank last percentage) ≤ last := by
  change floor (Scalar.clamp (0.0 : Float) 1.0 (percentage / 100.0) * Float.ofNat last) ≤ last
  rcases clamp_cases (percentage / 100.0) with hnan | ⟨hfinite, hnonneg, hle⟩
  · rw [floor, saturating, isNaN_mul hnan, Bool.true_or, if_pos rfl]
    exact last.zero_le
  · have hwhole : IsPositive (Float.ofNat last) := isPositive_ofNat hpos (by omega)
    have hnearest := isNearest_mul hfinite hnonneg hwhole
    rw [value_ofNat hlast] at hnearest
    generalize Scalar.clamp (0.0 : Float) 1.0 (percentage / 100.0) * Float.ofNat last = rank
      at hnearest ⊢
    generalize value (Scalar.clamp (0.0 : Float) 1.0 (percentage / 100.0)) = share
      at hnearest hnonneg hle
    have hbelow : share * last ≤ last := mul_le_of_le_one_left last.cast_nonneg hle
    have habove : 0 ≤ share * last := mul_nonneg hnonneg last.cast_nonneg
    have hsmall : (last : ℚ) < 2 ^ 54 := by exact_mod_cast Nat.lt_trans hlast (by decide)
    have hrank : rank.isFinite = true := hnearest.isFinite_of_lt habove (hbelow.trans_lt hsmall)
    -- rounding does not carry the rank past a whole number that is a double
    obtain ⟨double, hdouble, hvalue⟩ := exists_value_eq_natCast hlast.le
    have hvalueLe : value rank ≤ last := hvalue ▸ hnearest.value_le hrank hdouble (hvalue ▸ hbelow)
    rw [floor_eq hrank (hnearest.value_nonneg habove hrank)]
    exact (Nat.min_le_right _ _).trans (Nat.floor_le_of_le hvalueLe)

/-! ## Reading -/

/-- A list and its sorted copy, with eight bytes for every double, fit a memory. The largest ones
have addresses of fifty-seven bits. -/
def FitsMemory (values : List Float) : Prop := 2 * (8 * values.length) ≤ 2 ^ 57

/-- No place outside a list is read, whatever the percentage is. -/
theorem percentile?_eq_some (hfits : FitsMemory values) (percentage : Float) :
    percentile? values percentage = some (percentile values percentage) := by
  apply PushBench.percentile?_eq_some
  intro hmany
  rw [FitsMemory] at hfits
  exact floor_percentileRank_le (by omega) (by omega) percentage

end Binary64

theorem Exact.percentile?_eq_some (values : List ℝ) (percentage : ℝ) :
    percentile? (values.map Real.toEReal) (percentage : EReal) =
      some (percentile (values.map Real.toEReal) (percentage : EReal)) := by
  apply PushBench.percentile?_eq_some
  intro _
  rw [percentileRank_coe, floor_coe]
  exact floor_rank_le percentage _

/-- Whatever the percentage is, no place outside a list is read for a percentile, and the order of
the list does not matter. In exact arithmetic the percentiles of at least two values run through the
values in ascending order, from the least to the greatest. -/
theorem percentile_runs_through_values :
    (∀ values : List Float, Binary64.FitsMemory values → ∀ percentage : Float,
      percentile? values percentage = some (percentile values percentage)) ∧
    (∀ values other : List Float, values.Perm other → ∀ percentage : Float,
      percentile values percentage = percentile other percentage) ∧
    (∀ (values : List ℝ) (percentage : ℝ),
      percentile? (values.map Real.toEReal) (percentage : EReal) =
        some (percentile (values.map Real.toEReal) (percentage : EReal))) ∧
    ∀ values sorted : List ℝ, sorted.Perm values → sorted.Pairwise (· ≤ ·) → 2 ≤ values.length →
      Exact.RunsThrough sorted fun percentage ↦
        percentile (values.map Real.toEReal) (percentage : EReal) := by
  refine ⟨?_, ?_, ?_, ?_⟩
  · intro values hfits percentage
    exact Binary64.percentile?_eq_some hfits percentage
  · intro values other hperm percentage
    exact percentile_eq_of_perm hperm percentage
  · intro values percentage
    exact Exact.percentile?_eq_some values percentage
  · intro values sorted hperm hsorted hmany
    exact Exact.runsThrough_percentile hperm hsorted hmany

/-- A value that is no number and a percentage beyond all bounds leave the places inside the list.
The middle of three exact values is the second in order, and a quarter lies halfway before it. -/
theorem percentile_runs_through_values_three :
    percentile? [2.0, 0.0 / 0.0, 1.0] (1.0 / 0.0 : Float) =
        some (percentile [2.0, 0.0 / 0.0, 1.0] (1.0 / 0.0)) ∧
      percentile [2.0, 0.0 / 0.0, 1.0] (1.0 / 0.0 : Float) =
        percentile [0.0 / 0.0, 1.0, 2.0] (1.0 / 0.0) ∧
      percentile ([5, 1, 3].map Real.toEReal) ((50 : ℝ) : EReal) = ((3 : ℝ) : EReal) ∧
      percentile ([5, 1, 3].map Real.toEReal) ((25 : ℝ) : EReal) = ((2 : ℝ) : EReal) := by
  obtain ⟨hinside, hperm, -, hexact⟩ := percentile_runs_through_values
  have hruns := hexact [5, 1, 3] [1, 3, 5] (List.perm_append_singleton 5 [1, 3]) (by norm_num)
    (by decide)
  refine ⟨?_, ?_, ?_, ?_⟩
  · apply hinside
    rw [Binary64.FitsMemory]
    decide
  · exact hperm _ _ (List.perm_append_singleton 2.0 [0.0 / 0.0, 1.0]).symm _
  · have h := hruns.at_rank (by decide : 1 < 3)
    norm_num at h
    exact h
  · have h := hruns.linear (by decide : 0 + 1 < 3) (by norm_num : (0 : ℝ) ≤ 1 / 2) (by norm_num)
    norm_num at h
    exact h

end PushBench
