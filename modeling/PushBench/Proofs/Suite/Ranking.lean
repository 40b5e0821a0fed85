import PushBench.Proofs.Suite.Choice
import PushBench.Proofs.Suite.Measured

/-!
# Rates and mean times

A suite ranks its cases by their rates. They follow the mean times up to rounding, but a mean of
zero, which is that of a case whose time the clock cannot resolve, has the least of all rates.
-/

namespace PushBench

open Binary64

/-! ## Rates -/

namespace Statistics

variable {x y : Float}

theorem perSecond_of_pos (h : 0.0 < x) : perSecond x = 1000000000.0 / x :=
  if_pos (decide_eq_true h)

theorem perSecond_of_not_pos (h : ¬0.0 < x) : perSecond x = 0.0 :=
  if_neg (by simpa [Scalar.lt] using h)

theorem isFinite_billion : (1000000000.0 : Float).isFinite = true := rfl

theorem value_billion : value 1000000000.0 = 1000000000 := by
  have hunpack : (1000000000.0 : Float).toModel.unpack =
      .finite .positive 8388608000000000 (-23) (by decide) := by rfl
  rw [value_of_unpack hunpack]
  norm_num

theorem value_billion_nonneg : 0 ≤ value 1000000000.0 := by
  rw [value_billion]
  norm_num

theorem isNearest_perSecond (hx : x.isFinite = true) (hpos : 0.0 < x) :
    IsNearest (1000000000 / value x) (perSecond x) := by
  rw [perSecond_of_pos hpos, ← value_billion]
  exact isNearest_div_of_pos isFinite_billion value_billion_nonneg hx ((zero_lt_iff hx).mp hpos)

/-- A rate is the double nearest to some number that is not below zero, whatever the mean is. -/
theorem exists_isNearest_perSecond (x : Float) :
    ∃ number, 0 ≤ number ∧ IsNearest number (perSecond x) := by
  by_cases hpos : 0.0 < x
  · rw [perSecond_of_pos hpos]
    refine ⟨_, ?_, isNearest_div_of_zero_lt isFinite_billion value_billion_nonneg hpos⟩
    split
    next hx => exact div_nonneg value_billion_nonneg ((zero_lt_iff hx).mp hpos).le
    next => exact le_rfl
  · rw [perSecond_of_not_pos hpos]
    exact ⟨0, le_rfl, isNearest_zero isFinite_zero value_zero⟩

theorem isNaN_perSecond (x : Float) : (perSecond x).isNaN = false := by
  obtain ⟨number, -, hnearest⟩ := exists_isNearest_perSecond x
  exact hnearest.isNaN_eq

theorem zero_le_place_perSecond (x : Float) : 0 ≤ place (perSecond x) := by
  obtain ⟨number, hnonneg, hnearest⟩ := exists_isNearest_perSecond x
  exact hnearest.zero_le_place hnonneg

/-- A finite mean above zero has a rate above zero. -/
theorem zero_lt_perSecond (hx : x.isFinite = true) (hpos : 0.0 < x) : 0.0 < perSecond x := by
  have hnearest := isNearest_perSecond hx hpos
  have hvalue := (zero_lt_iff hx).mp hpos
  cases hfinite : (perSecond x).isFinite with
  | false =>
    have hsign : ¬isNegative (perSecond x) = true := by
      rw [hnearest.isNegative_iff hfinite, not_lt]
      positivity
    rw [zero_lt_iff_place hnearest.isNaN_eq, place_of_infinite hfinite, if_neg hsign]
    exact EReal.zero_lt_top
  | true =>
    -- the quotients of the greatest doubles are still far above the least double
    obtain ⟨bound, hbound, heq⟩ := exists_value_eq (by decide : 1 ≤ 2 ^ 53)
      (by decide : (-1022 : ℤ) ≤ -1000) (by decide)
    rw [Nat.cast_one, one_mul] at heq
    have hle : value bound ≤ 1000000000 / value x := by
      rw [heq, le_div_iff₀ hvalue]
      calc
        (2 : ℚ) ^ (-1000 : ℤ) * value x ≤ 2 ^ (-1000 : ℤ) * 2 ^ (1024 : ℤ) :=
          mul_le_mul_of_nonneg_left (value_lt_two_zpow hx).le (by positivity)
        _ = 2 ^ (24 : ℤ) := by rw [← zpow_add₀ two_ne_zero]; rfl
        _ ≤ 1000000000 := by norm_num
    refine (zero_lt_iff hfinite).mpr (lt_of_lt_of_le ?_ (hnearest.le_value hfinite hbound hle))
    rw [heq]
    positivity

/-- Only means above zero have rates above zero. -/
theorem zero_lt_of_zero_lt_perSecond (h : 0.0 < perSecond x) : 0.0 < x := by
  by_contra hpos
  rw [perSecond_of_not_pos hpos] at h
  exact not_lt_of_lt h h

/-- Of two means above zero the one with the greater rate is less. -/
theorem lt_of_perSecond_lt (hy : 0.0 < y) (h : perSecond y < perSecond x) : x < y := by
  have hx : 0.0 < x := by
    apply zero_lt_of_zero_lt_perSecond
    rw [zero_lt_iff_place (isNaN_perSecond x)]
    rw [lt_iff_place (isNaN_perSecond y) (isNaN_perSecond x)] at h
    exact (zero_le_place_perSecond y).trans_lt h
  by_contra hnot
  have hle : y ≤ x := by
    rw [lt_iff_place (isNaN_eq_false_of_lt hx).2 (isNaN_eq_false_of_lt hy).2, not_lt] at hnot
    rwa [le_iff_place (isNaN_eq_false_of_lt hy).2 (isNaN_eq_false_of_lt hx).2]
  have hrates : perSecond x ≤ perSecond y := by
    rw [perSecond_of_pos hx, perSecond_of_pos hy]
    exact div_le_div_of_le isFinite_billion value_billion_nonneg hy hle hx
  rw [← not_le_iff (isNaN_perSecond x) (isNaN_perSecond y)] at h
  exact h hrates

/-- A greater mean has no greater rate. -/
theorem perSecond_le_of_lt (hx : 0.0 < x) (h : x < y) : perSecond y ≤ perSecond x := by
  by_contra hnot
  rw [not_le_iff (isNaN_perSecond y) (isNaN_perSecond x)] at hnot
  exact not_lt_of_lt h (lt_of_perSecond_lt hx hnot)

/-- The rate of an infinite mean is zero. -/
theorem isFinite_of_zero_lt_perSecond (h : 0.0 < perSecond x) : x.isFinite = true := by
  have hpos := zero_lt_of_zero_lt_perSecond h
  by_contra hinfinite
  have hzero := isNearest_div_infinite isFinite_billion (Bool.eq_false_iff.mpr hinfinite)
    (isNaN_eq_false_of_lt hpos).2
  have hplace := hzero.place_le (isNearest_zero isFinite_zero value_zero) le_rfl
  rw [← perSecond_of_pos hpos, place_zero] at hplace
  rw [zero_lt_iff_place (isNaN_perSecond x)] at h
  exact not_le.mpr h hplace

/-- The rate of a mean is exact up to a relative error of `2 ^ -53`. -/
theorem abs_sub_value_perSecond_le (hx : x.isFinite = true) (hlow : 2 ^ (-800 : ℤ) ≤ value x)
    (hhigh : value x ≤ 2 ^ (800 : ℤ)) :
    (perSecond x).isFinite = true ∧
      |1000000000 - value (perSecond x) * value x| ≤ 1000000000 / 2 ^ 53 := by
  have hvalue : 0 < value x := lt_of_lt_of_le (by positivity) hlow
  have hnearest := isNearest_perSecond hx ((zero_lt_iff hx).mpr hvalue)
  have hlower : 2 ^ (-900 : ℤ) ≤ 1000000000 / value x := by
    rw [le_div_iff₀ hvalue]
    calc
      (2 : ℚ) ^ (-900 : ℤ) * value x ≤ 2 ^ (-900 : ℤ) * 2 ^ (800 : ℤ) :=
        mul_le_mul_of_nonneg_left hhigh (by positivity)
      _ = 2 ^ (-100 : ℤ) := by rw [← zpow_add₀ two_ne_zero]; rfl
      _ ≤ 1000000000 := by norm_num
  have hupper : 1000000000 / value x < 2 ^ (900 : ℤ) := by
    rw [div_lt_iff₀ hvalue]
    calc
      (1000000000 : ℚ) < 2 ^ (100 : ℤ) := by norm_num
      _ = 2 ^ (900 : ℤ) * 2 ^ (-800 : ℤ) := by rw [← zpow_add₀ two_ne_zero]; rfl
      _ ≤ 2 ^ (900 : ℤ) * value x := mul_le_mul_of_nonneg_left hlow (by positivity)
  have hfinite : (perSecond x).isFinite = true := by
    rw [hnearest.isFinite_iff, abs_of_pos (by positivity)]
    exact @lt_overflow _ 847 hupper (by decide)
  refine ⟨hfinite, ?_⟩
  calc
    |1000000000 - value (perSecond x) * value x| =
        |1000000000 / value x - value (perSecond x)| * value x := by
      rw [← abs_of_pos hvalue, ← abs_mul, abs_of_pos hvalue, sub_mul, div_mul_cancel₀ _ hvalue.ne']
    _ ≤ 1000000000 / value x / 2 ^ 53 * value x :=
      mul_le_mul_of_nonneg_right (hnearest.abs_sub_le hfinite hlower hupper) hvalue.le
    _ = 1000000000 / 2 ^ 53 := by field_simp

/-- Means that are not ranked in their order are almost the same. -/
theorem value_le_of_perSecond_le (hx : x.isFinite = true) (hy : y.isFinite = true)
    (hlow : 2 ^ (-800 : ℤ) ≤ value x) (hle : value x ≤ value y) (hhigh : value y ≤ 2 ^ (800 : ℤ))
    (hrate : perSecond x ≤ perSecond y) : value y ≤ value x * (1 + 2 ^ (-51 : ℤ)) := by
  obtain ⟨hfinite, herror⟩ := abs_sub_value_perSecond_le hx hlow (hle.trans hhigh)
  obtain ⟨hfinite', herror'⟩ := abs_sub_value_perSecond_le hy (hlow.trans hle) hhigh
  have hrates : value (perSecond x) ≤ value (perSecond y) := by
    rw [le_iff_place (isNaN_perSecond x) (isNaN_perSecond y)] at hrate
    exact (place_le_place_iff hfinite hfinite').mp hrate
  have hx : 0 < value x := lt_of_lt_of_le (by positivity) hlow
  have hy : 0 < value y := lt_of_lt_of_le hx hle
  have hbelow := (abs_le.mp herror).2
  have habove := (abs_le.mp herror').1
  have hcross : (1000000000 - 1000000000 / 2 ^ 53) * value y ≤
      (1000000000 + 1000000000 / 2 ^ 53) * value x := by
    calc
      (1000000000 - 1000000000 / 2 ^ 53) * value y ≤ value (perSecond x) * value x * value y :=
        mul_le_mul_of_nonneg_right (by linarith) hy.le
      _ = value (perSecond x) * (value x * value y) := mul_assoc _ _ _
      _ ≤ value (perSecond y) * (value x * value y) :=
        mul_le_mul_of_nonneg_right hrates (mul_pos hx hy).le
      _ = value (perSecond y) * value y * value x := by ring
      _ ≤ (1000000000 + 1000000000 / 2 ^ 53) * value x :=
        mul_le_mul_of_nonneg_right (by linarith) hx.le
  norm_num at hcross ⊢
  linarith

end Statistics

/-! ## The fastest case of a run -/

namespace Registry.RunsTo

variable {registry : Registry} {settings : SamplingSettings Float} {result : SuiteResult Float}
  {outcome : CaseOutcome Float} {measurement : Measurement Float}

theorem eq_ofOutcomes (h : registry.RunsTo settings result) :
    result = .ofOutcomes result.outcomes result.cancelled := by
  obtain ⟨ω, limit, surroundings, state, run, hrun, rfl⟩ := h
  obtain ⟨pass, -, rfl⟩ := Option.map_eq_some_iff.mp hrun
  rfl

/-- The rate of a case is the one of its mean. -/
theorem rate_eq (h : registry.RunsTo settings result) (hmem : outcome ∈ result.outcomes)
    (hstatus : outcome.status = .completed measurement) :
    measurement.statistics.rate = Statistics.perSecond measurement.statistics.mean := by
  obtain ⟨case, -, after, haccounts⟩ := h.accounts hmem hstatus
  rw [haccounts.statistics_eq]
  exact Statistics.rate_ofSamples haccounts.samples_ne_nil _

theorem ratesCompare (h : registry.RunsTo settings result) :
    SuiteResult.RatesCompare result.outcomes := by
  intro outcome hmem rate hrate
  obtain ⟨measurement, hstatus, rfl⟩ := CaseOutcome.rate?_eq_some_iff.mp hrate
  rw [h.rate_eq hmem hstatus]
  exact Statistics.isNaN_perSecond _

end Registry.RunsTo

/-- A completed case has the least of the means above zero, up to rounding: those before it are
greater, and one after it is less only if the rates are the same, so that the means almost are. -/
structure SuiteResult.HasLeastMean (outcomes before after : List (CaseOutcome Float))
    (fastest : CaseOutcome Float) (measurement : Measurement Float) : Prop where
  outcomes_eq : outcomes = before ++ fastest :: after
  status_eq : fastest.status = .completed measurement
  earlier {other : CaseOutcome Float} {timed : Measurement Float} : other ∈ before →
    other.status = .completed timed → 0.0 < timed.statistics.mean →
      measurement.statistics.mean < timed.statistics.mean
  same_rate {other : CaseOutcome Float} {timed : Measurement Float} : other ∈ after →
    other.status = .completed timed → 0.0 < timed.statistics.mean →
      timed.statistics.mean < measurement.statistics.mean →
        timed.statistics.rate ≤ measurement.statistics.rate ∧
          measurement.statistics.rate ≤ timed.statistics.rate
  close {other : CaseOutcome Float} {timed : Measurement Float} : other ∈ after →
    other.status = .completed timed → 0.0 < timed.statistics.mean →
      timed.statistics.mean < measurement.statistics.mean →
        2 ^ (-800 : ℤ) ≤ value timed.statistics.mean →
          value measurement.statistics.mean ≤ 2 ^ (800 : ℤ) →
            value measurement.statistics.mean ≤
              value timed.statistics.mean * (1 + 2 ^ (-51 : ℤ))

/-- The case that a suite names the fastest is completed, and of the cases with a mean above zero
none is faster, unless it comes later and has the same rate. -/
theorem fastest_has_least_mean {registry : Registry} {settings : SamplingSettings Float}
    {result : SuiteResult Float} {name : String} (hrun : registry.RunsTo settings result)
    (hfastest : result.fastest = some name) :
    ∃ before fastest after measurement, fastest.name = name ∧
      SuiteResult.HasLeastMean result.outcomes before after fastest measurement := by
  rw [hrun.eq_ofOutcomes, SuiteResult.fastest_ofOutcomes_eq_some_iff ordersAll hrun.ratesCompare]
    at hfastest
  obtain ⟨before, fastest, after, rate, hfirst, rfl⟩ := hfastest
  have hmaximum := hrun.ratesCompare.isFirstFastest_iff.mp hfirst
  obtain ⟨measurement, hstatus, rfl⟩ := CaseOutcome.rate?_eq_some_iff.mp hfirst.rate_eq
  have hrate := hrun.rate_eq hfirst.mem hstatus
  have hlater {other : CaseOutcome Float} {timed : Measurement Float} (hmem : other ∈ after)
      (htimed : other.status = .completed timed) :
      timed.statistics.rate = Statistics.perSecond timed.statistics.mean ∧
        Statistics.perSecond timed.statistics.mean ≤
          Statistics.perSecond measurement.statistics.mean := by
    have houtcome : other ∈ result.outcomes :=
      hfirst.outcomes_eq ▸ List.mem_append_right _ (List.mem_cons_of_mem _ hmem)
    have hnot := hmaximum.not_greater hmem
      (CaseOutcome.rate?_eq_some_iff.mpr ⟨timed, htimed, rfl⟩)
    rw [hrate, hrun.rate_eq houtcome htimed] at hnot
    exact ⟨hrun.rate_eq houtcome htimed, hnot⟩
  refine ⟨before, fastest, after, measurement, rfl, hfirst.outcomes_eq, hstatus, ?_, ?_, ?_⟩
  · intro other timed hmem htimed hpos
    have houtcome : other ∈ result.outcomes :=
      hfirst.outcomes_eq ▸ List.mem_append_left _ hmem
    have hsmaller := hmaximum.smaller hmem
      (CaseOutcome.rate?_eq_some_iff.mpr ⟨timed, htimed, rfl⟩)
    rw [hrate, hrun.rate_eq houtcome htimed] at hsmaller
    exact Statistics.lt_of_perSecond_lt hpos hsmaller
  · intro other timed hmem htimed hpos hless
    obtain ⟨heq, hnot⟩ := hlater hmem htimed
    rw [heq, hrate]
    exact ⟨hnot, Statistics.perSecond_le_of_lt hpos hless⟩
  · intro other timed hmem htimed hpos hless hlow hhigh
    obtain ⟨-, hnot⟩ := hlater hmem htimed
    obtain ⟨hnan, hnan'⟩ := isNaN_eq_false_of_lt hless
    rw [lt_iff_place hnan hnan'] at hless
    have hfinite := isFinite_of_zero_lt hpos (hless.trans_le le_top)
    have hfinite' := Statistics.isFinite_of_zero_lt_perSecond
      (lt_le_trans (Statistics.zero_lt_perSecond hfinite hpos) hnot)
    exact Statistics.value_le_of_perSecond_le hfinite hfinite' hlow
      ((place_le_place_iff hfinite hfinite').mp hless.le) hhigh hnot

/-- Two cases whose invocations always take the same times. -/
def steadyPair (slower quicker : Nat) : Registry :=
  ⟨[Script.toCase "slower" (.steady slower), Script.toCase "quicker" (.steady quicker)],
    .ofList ["slower", "quicker"]⟩

/-- Settings with which two samples are enough. -/
def briefSettings : SamplingSettings Float := ⟨25, 2, 100.0, 60, .standard⟩

/-- What is decided of the run of two cases is true of a result. -/
theorem exists_runsTo_steadyPair {slower quicker : Nat} {property : SuiteResult Float → Prop}
    [DecidablePred property]
    (h : ((steadyPair slower quicker).run briefSettings 2
      ⟨fun _ _ ↦ (false, ()), fun _ _ ↦ (false, ())⟩ ⟨0, false, false, ()⟩).any
        fun run ↦ decide (property run.result)) :
    ∃ result : SuiteResult Float, (steadyPair slower quicker).RunsTo briefSettings result ∧
      property result := by
  obtain ⟨run, hrun, hproperty⟩ := (Option.any_eq_true _ _).mp h
  exact ⟨run.result, ⟨Unit, 2, _, _, run, hrun, rfl⟩, of_decide_eq_true hproperty⟩

/-- Of two cases whose rates are rounded to the same double the first is named, although the other
one is quicker by a nanosecond. -/
theorem fastest_has_least_mean_rounded :
    ∃ result : SuiteResult Float,
      (steadyPair 8388607999999999 8388607999999998).RunsTo briefSettings result ∧
      result.fastest = some "slower" ∧
      ∃ before fastest after measurement, fastest.name = "slower" ∧
        SuiteResult.HasLeastMean result.outcomes before after fastest measurement := by
  have hslower : ∃ result : SuiteResult Float,
      (steadyPair 8388607999999999 8388607999999998).RunsTo briefSettings result ∧
      result.fastest = some "slower" := exists_runsTo_steadyPair (by decide +kernel)
  obtain ⟨result, hrun, hfastest⟩ := hslower
  exact ⟨result, hrun, hfastest, fastest_has_least_mean hrun hfastest⟩

/-- The slower of two cases is named the fastest, although the other one has a smaller mean. -/
def SuiteResult.NamesSlower (result : SuiteResult Float) : Prop :=
  result.fastest = some "slower" ∧
    ∃ slower ∈ (result.get? "slower").bind CaseOutcome.measurement?,
      ∃ quicker ∈ (result.get? "quicker").bind CaseOutcome.measurement?,
        quicker.statistics.mean < slower.statistics.mean

instance : DecidablePred SuiteResult.NamesSlower := fun _ ↦ inferInstanceAs (Decidable (_ ∧ _))

/-- The case that is named need not have the least mean: rates are rounded, and that of a mean of
zero counts as zero. -/
theorem not_fastest_has_least_mean :
    (∃ result : SuiteResult Float,
      (steadyPair 8388607999999999 8388607999999998).RunsTo briefSettings result ∧
        result.NamesSlower) ∧
      ∃ result : SuiteResult Float, (steadyPair 10 0).RunsTo briefSettings result ∧
        result.NamesSlower :=
  ⟨exists_runsTo_steadyPair (by decide +kernel), exists_runsTo_steadyPair (by decide +kernel)⟩

end PushBench
