import PushBench.Proofs.Statistics.Constant
import PushBench.Proofs.Statistics.Moments

/-!
# Laws of statistics

In exact arithmetic the statistics of samples are in order, whatever the samples are: the median and
the mean lie between the least and the greatest period, the order of the samples does not matter,
and a slower clock makes all times longer and leaves the relative margin as it is.
-/

namespace PushBench

/-! ## Extremes -/

/-- A fold that keeps the lesser value ends with the least. -/
theorem isLeast_foldl_min {α : Type} [LinearOrder α] (first : α) (rest : List α) :
    IsLeast {value | value ∈ first :: rest} (rest.foldl min first) := by
  induction rest generalizing first with
  | nil => simp [IsLeast, lowerBounds]
  | cons second rest ih =>
    obtain ⟨hmem, hlower⟩ := ih (min first second)
    constructor
    · rcases List.mem_cons.mp hmem with heq | hmem
      · rw [List.foldl_cons, heq]
        rcases min_choice first second with hmin | hmin <;> simp [hmin]
      · exact List.mem_cons_of_mem _ (List.mem_cons_of_mem _ hmem)
    · have hmin : rest.foldl min (min first second) ≤ min first second :=
        hlower List.mem_cons_self
      intro value hvalue
      rcases List.mem_cons.mp hvalue with rfl | hvalue
      · exact hmin.trans (min_le_left _ _)
      rcases List.mem_cons.mp hvalue with rfl | hvalue
      · exact hmin.trans (min_le_right _ _)
      · exact hlower (List.mem_cons_of_mem _ hvalue)

theorem isGreatest_foldl_max {α : Type} [LinearOrder α] (first : α) (rest : List α) :
    IsGreatest {value | value ∈ first :: rest} (rest.foldl max first) :=
  @isLeast_foldl_min αᵒᵈ _ first rest

namespace Exact

theorem min_eq : (Scalar.min : EReal → EReal → EReal) = min := by
  funext x y
  simp only [Scalar.min, lt_iff]
  rw [min_comm, min_def_lt]

theorem max_eq : (Scalar.max : EReal → EReal → EReal) = max := by
  funext x y
  simp only [Scalar.max, lt_iff]
  rw [max_def_lt]

theorem sum_eq (values : List EReal) : Scalar.sum values = values.sum := by
  rw [Scalar.sum, zero_eq, List.sum_eq_foldl]

/-- The period of a sample as a number. -/
noncomputable def period (sample : Sample) : ℝ := sample.elapsed / sample.iterations

theorem period_coe (sample : Sample) : (sample.period : EReal) = (period sample : EReal) := by
  rw [Sample.period, ofNat_eq, ← EReal.coe_natCast, coe_div_natCast, period]

theorem periods_coe (samples : List Sample) :
    samples.map (fun sample ↦ (sample.period : EReal)) =
      (samples.map period).map Real.toEReal := by
  rw [List.map_map]
  exact List.map_congr_left fun sample _ ↦ period_coe sample

/-- Statistics describe finite periods. -/
structure Describes (level : Confidence) (values : List ℝ) (statistics : Statistics EReal) :
    Prop where
  mean_eq : statistics.mean = (average values : EReal)
  median_eq : statistics.median = (median values : EReal)
  isLeast : IsLeast {value | value ∈ values.map Real.toEReal} statistics.least
  isGreatest : IsGreatest {value | value ∈ values.map Real.toEReal} statistics.greatest
  standardDeviation_eq : statistics.standardDeviation = (deviation values : EReal)
  standardError_eq : statistics.standardError = (standardError values : EReal)
  margin_eq : statistics.margin = if values.length < 2 then ⊤ else (halfWidth level values : EReal)
  relativeMargin_eq : statistics.relativeMargin =
    Statistics.percentOfMean statistics.margin statistics.mean

end Exact

namespace Statistics

open Exact

variable {samples other : List Sample} {level : Confidence} {iterations : Nat}

/-! ## Reordering -/

theorem ofPeriods_eq_of_perm {first first' : EReal} {rest rest' : List EReal}
    (h : (first :: rest).Perm (first' :: rest')) (iterations : Nat) (level : Confidence) :
    ofPeriods iterations first rest level = ofPeriods iterations first' rest' level := by
  have hlength : rest.length = rest'.length := Nat.succ.inj h.length_eq
  have hsum : Scalar.sum (first :: rest) = Scalar.sum (first' :: rest') := by
    rw [sum_eq, sum_eq, h.sum_eq]
  have hsquares (center : EReal) :
      squaredDeviations center (first :: rest) = squaredDeviations center (first' :: rest') := by
    rw [squaredDeviations, squaredDeviations, sum_eq, sum_eq, (h.map _).sum_eq]
  have hset : {value | value ∈ first :: rest} = {value | value ∈ first' :: rest'} :=
    Set.ext fun _ ↦ h.mem_iff
  have hleast : rest.foldl Scalar.min first = rest'.foldl Scalar.min first' := by
    rw [min_eq]
    exact (isLeast_foldl_min first rest).unique (hset ▸ isLeast_foldl_min first' rest')
  have hgreatest : rest.foldl Scalar.max first = rest'.foldl Scalar.max first' := by
    rw [max_eq]
    exact (isGreatest_foldl_max first rest).unique (hset ▸ isGreatest_foldl_max first' rest')
  simp only [ofPeriods, deviation, List.length_cons, hlength, hsum, hsquares, hleast, hgreatest,
    percentile_eq_of_perm h]

theorem totalIterations_eq_sum (samples : List Sample) :
    totalIterations samples = (samples.map Sample.iterations).sum := by
  rw [totalIterations, List.sum_eq_foldl, List.foldl_map]

theorem ofSamples_eq_of_perm (h : samples.Perm other) (level : Confidence) :
    (ofSamples samples level : Statistics EReal) = ofSamples other level := by
  have htotal : totalIterations samples = totalIterations other := by
    rw [totalIterations_eq_sum, totalIterations_eq_sum, (h.map _).sum_eq]
  have hperiods := h.map (Sample.period (α := EReal))
  rw [ofSamples, ofSamples, htotal]
  generalize samples.map (Sample.period (α := EReal)) = periods at hperiods ⊢
  generalize other.map (Sample.period (α := EReal)) = periods' at hperiods ⊢
  cases periods with
  | nil => rw [List.nil_perm.mp hperiods]
  | cons first rest =>
    cases periods' with
    | nil => exact absurd (List.perm_nil.mp hperiods) (List.cons_ne_nil first rest)
    | cons first' rest' => exact ofPeriods_eq_of_perm hperiods (totalIterations other) level

/-! ## Numbers -/

theorem squaredDeviations_coe (center : ℝ) (values : List ℝ) :
    squaredDeviations (center : EReal) (values.map Real.toEReal) =
      (squares center values : EReal) := by
  rw [squaredDeviations, squares, ← sum_map_coe, List.map_map, List.map_map]
  congr 2

theorem deviation_coe (values : List ℝ) :
    Statistics.deviation (average values : EReal) (values.map Real.toEReal) =
      (Exact.deviation values : EReal) := by
  rw [Statistics.deviation, squaredDeviations_coe, List.length_map, coe_div_natCast, sqrt_coe,
    Exact.deviation]

section

variable (first : ℝ) (rest : List ℝ) (iterations : Nat) (level : Confidence)

/-- The statistics of finite periods. -/
noncomputable abbrev ofNumbers : Statistics EReal :=
  ofPeriods iterations (first : EReal) (rest.map Real.toEReal) level

theorem mean_ofNumbers :
    (ofNumbers first rest iterations level).mean = (average (first :: rest) : EReal) := by
  change Scalar.sum ((first :: rest).map Real.toEReal) /
    Scalar.ofNat ((first :: rest).map Real.toEReal).length = _
  rw [sum_map_coe, List.length_map, coe_div_natCast, average]

theorem standardDeviation_ofNumbers :
    (ofNumbers first rest iterations level).standardDeviation =
      (Exact.deviation (first :: rest) : EReal) := by
  change (if ((first :: rest).map Real.toEReal).length < 2 then (0.0 : EReal)
    else Statistics.deviation (ofNumbers first rest iterations level).mean
      ((first :: rest).map Real.toEReal)) = _
  rw [List.length_map, mean_ofNumbers]
  split
  next hfew => rw [deviation_of_length_lt hfew, zero_eq, EReal.coe_zero]
  next => exact deviation_coe _

theorem standardError_ofNumbers :
    (ofNumbers first rest iterations level).standardError =
      (Exact.standardError (first :: rest) : EReal) := by
  change (if ((first :: rest).map Real.toEReal).length < 2 then (0.0 : EReal)
    else (ofNumbers first rest iterations level).standardDeviation /
      Scalar.sqrt (Scalar.ofNat ((first :: rest).map Real.toEReal).length)) = _
  rw [List.length_map, standardDeviation_ofNumbers, ofNat_eq, ← EReal.coe_natCast, sqrt_coe,
    ← EReal.coe_div, Exact.standardError]
  split
  next hfew => rw [deviation_of_length_lt hfew, zero_div, zero_eq, EReal.coe_zero]
  next => rfl

theorem margin_ofNumbers :
    (ofNumbers first rest iterations level).margin =
      if (first :: rest).length < 2 then ⊤ else (halfWidth level (first :: rest) : EReal) := by
  change (if ((first :: rest).map Real.toEReal).length < 2 then ⊤
    else (ofNumbers first rest iterations level).standardError *
      level.critical (((first :: rest).map Real.toEReal).length - 1)) = _
  rw [List.length_map, standardError_ofNumbers, ← level.coe_criticalValue, ← EReal.coe_mul,
    halfWidth]

theorem describes_ofNumbers :
    Describes level (first :: rest) (ofNumbers first rest iterations level) where
  mean_eq := mean_ofNumbers first rest iterations level
  median_eq := by
    have hfifty : (50.0 : EReal) = ((50 : ℝ) : EReal) := by
      rw [ofScientific_eq]
      norm_num
    change percentile ((first :: rest).map Real.toEReal) (50.0 : EReal) = _
    rw [hfifty, percentile_coe (List.cons_ne_nil first rest), Exact.median]
  isLeast := by
    change IsLeast _ ((rest.map Real.toEReal).foldl Scalar.min (first : EReal))
    rw [min_eq]
    exact isLeast_foldl_min (first : EReal) (rest.map Real.toEReal)
  isGreatest := by
    change IsGreatest _ ((rest.map Real.toEReal).foldl Scalar.max (first : EReal))
    rw [max_eq]
    exact isGreatest_foldl_max (first : EReal) (rest.map Real.toEReal)
  standardDeviation_eq := standardDeviation_ofNumbers first rest iterations level
  standardError_eq := standardError_ofNumbers first rest iterations level
  margin_eq := margin_ofNumbers first rest iterations level
  relativeMargin_eq := rfl

end

theorem describes_ofSamples (hne : samples ≠ []) (level : Confidence) :
    Describes level (samples.map period) (ofSamples samples level) := by
  match samples, hne with
  | first :: rest, _ =>
    have hperiods := periods_coe (first :: rest)
    rw [ofSamples, hperiods]
    exact describes_ofNumbers (period first) (rest.map period) _ level

theorem percentOfMean_coe (margin mean : ℝ) :
    percentOfMean (margin : EReal) (mean : EReal) =
      ((if 0 < mean then margin / mean * 100 else 0 : ℝ) : EReal) := by
  simp only [percentOfMean, isInfinite_coe, Bool.false_eq_true, if_false, lt_iff, zero_eq,
    EReal.coe_pos, hundred_eq]
  split_ifs with hmean
  · rw [← EReal.coe_div, ← EReal.coe_mul]
  · rfl

/-- Where the mean is zero the quotient is zero too. -/
theorem percentOfMean_of_nonneg (margin : ℝ) {mean : ℝ} (hmean : 0 ≤ mean) :
    percentOfMean (margin : EReal) (mean : EReal) = ((margin / mean * 100 : ℝ) : EReal) := by
  rw [percentOfMean_coe]
  rcases hmean.lt_or_eq with hpos | rfl
  · rw [if_pos hpos]
  · rw [if_neg (lt_irrefl 0), div_zero, zero_mul]

end Statistics

/-! ## Order -/

namespace Exact.Describes

open Statistics

variable {level : Confidence} {values : List ℝ} {statistics : Statistics EReal} {value : ℝ}

theorem least_le (h : Describes level values statistics) (hmem : value ∈ values) :
    statistics.least ≤ value :=
  h.isLeast.2 (List.mem_map_of_mem hmem)

theorem le_greatest (h : Describes level values statistics) (hmem : value ∈ values) :
    value ≤ statistics.greatest :=
  h.isGreatest.2 (List.mem_map_of_mem hmem)

theorem median_between (h : Describes level values statistics) (hne : values ≠ []) :
    statistics.least ≤ statistics.median ∧ statistics.median ≤ statistics.greatest := by
  obtain ⟨⟨low, hlow, hlowLe⟩, high, hhigh, hleHigh⟩ := Exact.median_between hne
  rw [h.median_eq]
  constructor
  · exact (h.least_le hlow).trans (EReal.coe_le_coe_iff.mpr hlowLe)
  · exact (EReal.coe_le_coe_iff.mpr hleHigh).trans (h.le_greatest hhigh)

theorem mean_between (h : Describes level values statistics) (hne : values ≠ []) :
    statistics.least ≤ statistics.mean ∧ statistics.mean ≤ statistics.greatest := by
  obtain ⟨least, -, hleast⟩ := List.mem_map.mp h.isLeast.1
  obtain ⟨greatest, -, hgreatest⟩ := List.mem_map.mp h.isGreatest.1
  rw [h.mean_eq, ← hleast, ← hgreatest, EReal.coe_le_coe_iff, EReal.coe_le_coe_iff]
  constructor
  · apply le_average hne
    intro value hmem
    rw [← EReal.coe_le_coe_iff, hleast]
    exact h.least_le hmem
  · apply average_le hne
    intro value hmem
    rw [← EReal.coe_le_coe_iff, hgreatest]
    exact h.le_greatest hmem

/-! ## Margins -/

theorem margin_eq_halfWidth (h : Describes level values statistics) (hmany : 2 ≤ values.length) :
    statistics.margin = (halfWidth level values : EReal) := by
  rw [h.margin_eq, if_neg (Nat.not_lt_of_le hmany)]

end Exact.Describes

/-! ## Other units -/

namespace Statistics

/-- Statistics before and after all times were multiplied by a factor. -/
structure IsScaled (factor : ℕ) (before after : Statistics EReal) : Prop where
  mean_eq : after.mean = factor * before.mean
  median_eq : after.median = factor * before.median
  least_eq : after.least = factor * before.least
  greatest_eq : after.greatest = factor * before.greatest
  standardDeviation_eq : after.standardDeviation = factor * before.standardDeviation
  standardError_eq : after.standardError = factor * before.standardError
  margin_eq : after.margin = factor * before.margin
  relativeMargin_eq : after.relativeMargin = before.relativeMargin

end Statistics

namespace Exact

open Statistics

variable {level : Confidence} {values : List ℝ} {before after : Statistics EReal} {factor : ℕ}

theorem natCast_mul_coe (factor : ℕ) (value : ℝ) :
    (factor : EReal) * (value : EReal) = ((factor * value : ℝ) : EReal) := by
  rw [EReal.coe_mul, EReal.coe_natCast]

theorem natCast_mul_top (hfactor : 1 ≤ factor) : (factor : EReal) * ⊤ = ⊤ := by
  rw [← EReal.coe_natCast]
  exact EReal.coe_mul_top_of_pos (Nat.cast_pos.mpr hfactor)

/-- The least of numbers is multiplied with them, and so is the greatest. -/
theorem monotone_natCast_mul (factor : ℕ) :
    Monotone fun value : EReal ↦ (factor : EReal) * value := by
  have hnonneg : (0 : EReal) ≤ factor := by exact_mod_cast Nat.zero_le factor
  exact fun _ _ hle ↦ mul_le_mul_of_nonneg_left hle hnonneg

theorem image_map_mul (factor : ℕ) (values : List ℝ) :
    (fun value : EReal ↦ (factor : EReal) * value) '' {value | value ∈ values.map Real.toEReal} =
      {value | value ∈ (values.map ((factor : ℝ) * ·)).map Real.toEReal} := by
  ext value
  simp only [Set.mem_image, Set.mem_ofPred_eq, List.mem_map, exists_exists_and_eq_and,
    natCast_mul_coe]

/-- A margin and a mean that are multiplied alike keep their ratio. -/
theorem percentOfMean_mul (hfactor : 1 ≤ factor) (margin mean : ℝ) :
    percentOfMean ((factor : EReal) * (margin : EReal)) ((factor : EReal) * (mean : EReal)) =
      percentOfMean (margin : EReal) (mean : EReal) := by
  have hpos : (0 : ℝ) < factor := Nat.cast_pos.mpr hfactor
  rw [natCast_mul_coe, natCast_mul_coe, percentOfMean_coe, percentOfMean_coe,
    mul_div_mul_left _ _ hpos.ne']
  simp only [mul_pos_iff_of_pos_left hpos]

theorem Describes.isScaled (h : Describes level values before) (hfactor : 1 ≤ factor)
    (hafter : Describes level (values.map ((factor : ℝ) * ·)) after) :
    IsScaled factor before after := by
  have hnonneg : (0 : ℝ) ≤ factor := Nat.cast_nonneg factor
  have hmean : after.mean = factor * before.mean := by
    rw [hafter.mean_eq, average_map_mul, h.mean_eq, natCast_mul_coe]
  have hmargin : after.margin = factor * before.margin := by
    rw [hafter.margin_eq, List.length_map, halfWidth_map_mul hnonneg, h.margin_eq]
    split
    next => rw [natCast_mul_top hfactor]
    next => rw [natCast_mul_coe]
  refine ⟨hmean, ?_, ?_, ?_, ?_, ?_, hmargin, ?_⟩
  · rw [hafter.median_eq, median_map_mul hnonneg, h.median_eq, natCast_mul_coe]
  · have hleast := (monotone_natCast_mul factor).map_isLeast h.isLeast
    rw [image_map_mul] at hleast
    exact hafter.isLeast.unique hleast
  · have hgreatest := (monotone_natCast_mul factor).map_isGreatest h.isGreatest
    rw [image_map_mul] at hgreatest
    exact hafter.isGreatest.unique hgreatest
  · rw [hafter.standardDeviation_eq, deviation_map_mul hnonneg, h.standardDeviation_eq,
      natCast_mul_coe]
  · rw [hafter.standardError_eq, standardError_map_mul hnonneg, h.standardError_eq,
      natCast_mul_coe]
  · rw [hafter.relativeMargin_eq, h.relativeMargin_eq, hmean, hmargin, h.mean_eq, h.margin_eq]
    split
    next => rw [natCast_mul_top hfactor, percentOfMean_top, percentOfMean_top]
    next => exact percentOfMean_mul hfactor _ _

end Exact

/-- A sample whose time is multiplied by a factor. -/
def Sample.slowed (factor : ℕ) (sample : Sample) : Sample :=
  { sample with elapsed := factor * sample.elapsed }

namespace Exact

theorem period_slowed (factor : ℕ) (sample : Sample) :
    period (sample.slowed factor) = factor * period sample := by
  rw [period, period, Sample.slowed, Nat.cast_mul, mul_div_assoc]

theorem map_period_slowed (factor : ℕ) (samples : List Sample) :
    (samples.map (Sample.slowed factor)).map period =
      (samples.map period).map ((factor : ℝ) * ·) := by
  rw [List.map_map, List.map_map]
  exact List.map_congr_left fun sample _ ↦ period_slowed factor sample

end Exact

/-! ## Samples -/

namespace Statistics

open Exact

/-- The margin of at least two samples. -/
structure IsMargin (samples : List Sample) (level : Confidence) (margin : EReal) : Prop where
  nonneg : 0 ≤ margin
  lt_top : margin < ⊤
  eq_zero_iff : margin = 0 ↔
    ∀ sample ∈ samples, ∀ other ∈ samples, (sample.period : EReal) = other.period
  /-- A higher level of confidence does not make the margin smaller. -/
  le_margin (higher : Confidence) : level.percent ≤ higher.percent →
    margin ≤ (ofSamples samples higher : Statistics EReal).margin

theorem isMargin_ofSamples {samples : List Sample} (hmany : 2 ≤ samples.length)
    (level : Confidence) :
    IsMargin samples level (ofSamples samples level : Statistics EReal).margin := by
  have hne : samples ≠ [] := List.ne_nil_of_length_pos (by omega)
  have hperiods : 2 ≤ (samples.map period).length := by rwa [List.length_map]
  have hmargin (level : Confidence) : (ofSamples samples level : Statistics EReal).margin =
      (halfWidth level (samples.map period) : EReal) :=
    (describes_ofSamples hne level).margin_eq_halfWidth hperiods
  rw [hmargin level]
  refine ⟨?_, EReal.coe_lt_top _, ?_, fun higher hlevel ↦ ?_⟩
  · exact EReal.coe_nonneg.mpr (halfWidth_nonneg level _)
  · rw [EReal.coe_eq_zero, halfWidth_eq_zero_iff hperiods]
    simp only [List.forall_mem_map, period_coe, EReal.coe_eq_coe_iff]
  · rw [hmargin higher, EReal.coe_le_coe_iff]
    exact halfWidth_le_halfWidth hlevel _

/-- The laws of the statistics of samples. -/
structure ObeyLaws (samples : List Sample) (level : Confidence) (statistics : Statistics EReal) :
    Prop where
  median_between : statistics.least ≤ statistics.median ∧ statistics.median ≤ statistics.greatest
  mean_between : statistics.least ≤ statistics.mean ∧ statistics.mean ≤ statistics.greatest
  /-- The order of the samples does not matter. -/
  eq_of_perm (other : List Sample) : samples.Perm other → ofSamples other level = statistics
  isMargin : 2 ≤ samples.length → IsMargin samples level statistics.margin
  /-- Slower samples have greater statistics, but the same relative margin. -/
  isScaled (factor : ℕ) : 1 ≤ factor →
    IsScaled factor statistics (ofSamples (samples.map (Sample.slowed factor)) level)

/-- In exact arithmetic the statistics of any samples obey the laws. -/
theorem ofSamples_obey_laws {samples : List Sample} (hne : samples ≠ []) (level : Confidence) :
    ObeyLaws samples level (ofSamples samples level) := by
  have hdescribes := describes_ofSamples hne level
  have hperiods : samples.map period ≠ [] := fun hnil ↦ hne (List.map_eq_nil_iff.mp hnil)
  refine ⟨hdescribes.median_between hperiods, hdescribes.mean_between hperiods,
    fun other hperm ↦ (ofSamples_eq_of_perm hperm level).symm,
    fun hmany ↦ isMargin_ofSamples hmany level, fun factor hfactor ↦ ?_⟩
  have hslowed : samples.map (Sample.slowed factor) ≠ [] := fun hnil ↦
    hne (List.map_eq_nil_iff.mp hnil)
  have hafter := describes_ofSamples hslowed level
  rw [map_period_slowed] at hafter
  exact hdescribes.isScaled hfactor hafter

theorem ofSamples_obey_laws_three :
    [⟨1000, 10⟩, ⟨1020, 10⟩, ⟨490, 5⟩] ≠ ([] : List Sample) ∧
      ObeyLaws [⟨1000, 10⟩, ⟨1020, 10⟩, ⟨490, 5⟩] .ninetyFive
        (ofSamples [⟨1000, 10⟩, ⟨1020, 10⟩, ⟨490, 5⟩] .ninetyFive) :=
  ⟨List.cons_ne_nil _ _, ofSamples_obey_laws (List.cons_ne_nil _ _) .ninetyFive⟩

end Statistics

end PushBench
