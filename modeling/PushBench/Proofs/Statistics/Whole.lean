import PushBench.Proofs.Number.Counts
import PushBench.Statistics.Summary

/-!
# Statistics of equal whole periods

Samples that all have the same whole number of nanoseconds as their period have statistics without
any rounding, as long as their sum is below `2 ^ 53`: every average is that number, and there is no
margin as soon as there are two of them.
-/

namespace PushBench

namespace Binary64

variable {count number start : Nat} {x : Float}

theorem foldl_add_replicate (hsum : start + count * number < 2 ^ 53) :
    (List.replicate count (Float.ofNat number)).foldl (· + ·) (Float.ofNat start) =
      Float.ofNat (start + count * number) := by
  induction count generalizing start with
  | zero => rw [Nat.zero_mul, Nat.add_zero, List.replicate_zero, List.foldl_nil]
  | succ count ih =>
    have hstep : start + number + count * number = start + (count + 1) * number := by
      rw [Nat.succ_mul, Nat.add_assoc, Nat.add_comm number]
    rw [List.replicate_succ, List.foldl_cons, ofNat_add (by omega), ih (by omega), hstep]

/-- A sum of equal counts is exact. -/
theorem sum_replicate (hsum : count * number < 2 ^ 53) :
    Scalar.sum (List.replicate count (Float.ofNat number)) = Float.ofNat (count * number) := by
  rw [Scalar.sum, zero_eq, foldl_add_replicate (by omega), Nat.zero_add]

theorem sum_replicate_zero (count : Nat) :
    Scalar.sum (List.replicate count (0.0 : Float)) = 0.0 := by
  rw [zero_eq, sum_replicate (by omega), Nat.mul_zero]

theorem mean_replicate (hsum : count * number < 2 ^ 53) (hpos : 0 < count)
    (hcount : count < 2 ^ 64) :
    Scalar.sum (List.replicate count (Float.ofNat number)) / Float.ofNat count =
      Float.ofNat number := by
  rw [sum_replicate hsum]
  rcases Nat.eq_zero_or_pos number with rfl | hnumber
  · rw [Nat.mul_zero, ← zero_eq, (isPositive_ofNat hpos hcount).zero_div]
  · have hfew : count < 2 ^ 53 := lt_of_mul_lt_of_one_le_left hsum hnumber
    rw [Nat.mul_comm] at hsum ⊢
    exact ofNat_mul_div hpos hsum hfew

theorem period_eq {iterations : Nat} (hiterations : 0 < iterations)
    (helapsed : iterations * number < 2 ^ 53) (hbits : iterations < 2 ^ 53) :
    (Sample.period ⟨iterations * number, iterations⟩ : Float) = Float.ofNat number := by
  rw [Nat.mul_comm] at helapsed ⊢
  exact ofNat_mul_div hiterations helapsed hbits

theorem foldl_min_replicate (count : Nat) (x : Float) :
    (List.replicate count x).foldl Scalar.min x = x := by
  induction count with
  | zero => rfl
  | succ count ih => rw [List.replicate_succ, List.foldl_cons, Scalar.min, ite_self, ih]

theorem foldl_max_replicate (count : Nat) (x : Float) :
    (List.replicate count x).foldl Scalar.max x = x := by
  induction count with
  | zero => rfl
  | succ count ih => rw [List.replicate_succ, List.foldl_cons, Scalar.max, ite_self, ih]

/-! ## The median -/

/-- The share of a list that the median has below it. -/
theorem half_eq :
    Scalar.clamp (0.0 : Float) 1.0 (50.0 / 100.0) = double (scaled 1 (-1)) :=
  congrArg Float.ofModel (by decide +kernel :
    (Scalar.clamp (0.0 : Float) 1.0 (50.0 / 100.0)).toModel = .pack (scaled 1 (-1)))

theorem mergeSort_replicate (count : Nat) (x : Float) :
    (List.replicate count x).mergeSort Scalar.sortsBefore = List.replicate count x :=
  List.perm_replicate.mp (List.mergeSort_perm _ _)

theorem isFinite_fraction {share : Float} {last : Nat} (hshare : IsBounded 0 share)
    (hlast : last < 2 ^ 64) :
    (share * Float.ofNat last -
      Float.ofNat (floor (share * Float.ofNat last))).isFinite = true := by
  have hlimit : countLimit < 2 ^ 64 := by decide
  have hrank : IsBounded 68 (share * Float.ofNat last) :=
    hshare.mul (isBounded_ofNat hlast) (by decide) (by decide)
  have hfloor : floor (share * Float.ofNat last) < 2 ^ 64 := by
    refine Nat.lt_of_le_of_lt ?_ hlimit
    rw [floor, saturating]
    split
    · exact Nat.zero_le _
    · split
      · exact Nat.le_refl _
      · exact Nat.min_le_left _ _
  have hwhole : IsBounded 68 (Float.ofNat (floor (share * Float.ofNat last))) :=
    (isBounded_ofNat hfloor).mono (by decide)
  exact (hrank.sub hwhole (by decide) (by decide)).isFinite

/-- Between equal values there is nothing to interpolate. -/
theorem interpolateAt_replicate {last : Nat} {rank : Float} (hnumber : number < 2 ^ 53)
    (hrank : floor rank ≤ last ∨ number = 0)
    (hfinite : (rank - Float.ofNat (floor rank)).isFinite = true) :
    interpolateAt (List.replicate (last + 1) (Float.ofNat number)) last rank =
      Float.ofNat number := by
  have hget {index : Nat} (hindex : index ≤ last ∨ number = 0) :
      (List.replicate (last + 1) (Float.ofNat number)).getD index 0.0 = Float.ofNat number := by
    rw [List.getD_eq_getElem?_getD, List.getElem?_replicate]
    split
    next => rfl
    next hout =>
      obtain rfl : number = 0 := by omega
      exact zero_eq
  change (List.replicate (last + 1) (Float.ofNat number)).getD (floor rank) 0.0 +
    (rank - Float.ofNat (floor rank)) *
      ((List.replicate (last + 1) (Float.ofNat number)).getD (min (floor rank + 1) last) 0.0 -
        (List.replicate (last + 1) (Float.ofNat number)).getD (floor rank) 0.0) = _
  rw [hget hrank, hget (.inl (Nat.min_le_right _ _)), ofNat_sub_self hnumber,
    ofNat_add_mul_zero hnumber hfinite]

theorem median_replicate (hsum : count * number < 2 ^ 53) (hpos : 0 < count)
    (hcount : count < 2 ^ 64) :
    percentile (List.replicate count (Float.ofNat number)) 50.0 = Float.ofNat number := by
  match count, hpos with
  | 1, _ => rfl
  | last + 2, _ =>
    have hnumber : number < 2 ^ 53 := lt_of_mul_lt_of_one_le_right hsum (Nat.succ_pos _)
    have hhalf : IsBounded 0 (double (scaled 1 (-1))) := by decide +kernel
    change interpolateAt ((List.replicate (last + 2) (Float.ofNat number)).mergeSort
      Scalar.sortsBefore) ((List.replicate (last + 2) (Float.ofNat number)).length - 1)
      (Scalar.clamp (0.0 : Float) 1.0 (50.0 / 100.0) * Float.ofNat
        ((List.replicate (last + 2) (Float.ofNat number)).length - 1)) = _
    rw [mergeSort_replicate, List.length_replicate, Nat.add_sub_cancel (m := 1) (n := last + 1),
      half_eq]
    refine interpolateAt_replicate hnumber ?_ (isFinite_fraction hhalf (by omega))
    rcases Nat.eq_zero_or_pos number with hzero | hnumberPos
    · exact .inr hzero
    · have hfew : last + 2 < 2 ^ 53 :=
        lt_of_mul_lt_of_one_le_left hsum hnumberPos
      rw [half_mul_ofNat (by omega)]
      exact .inl (floor_half_le (by omega))

end Binary64

namespace Confidence

/-- Every critical value is a positive double. -/
theorem isPositive_critical (level : Confidence) (freedom : Nat) :
    Binary64.IsPositive (level.critical freedom : Float) := by
  have htable : ∀ value ∈ (level.criticalTable : List Float), Binary64.IsPositive value := by
    cases level <;> decide +kernel
  have hnormal : Binary64.IsPositive (level.normalCritical : Float) := by
    cases level <;> decide +kernel
  rw [critical, List.getD_eq_getElem?_getD]
  cases hvalue : (level.criticalTable : List Float)[freedom - 1]? with
  | none => exact hnormal
  | some value => exact htable value (List.mem_of_getElem? hvalue)

end Confidence

/-- Statistics show one period for all samples: in every average, and with no margin unless a single
sample leaves it unbounded. -/
structure Statistics.ShowsOnly (statistics : Statistics Float) (count time : Nat) : Prop where
  sampleCount_eq : statistics.sampleCount = count
  mean_eq : statistics.mean = Float.ofNat time
  median_eq : statistics.median = Float.ofNat time
  least_eq : statistics.least = Float.ofNat time
  greatest_eq : statistics.greatest = Float.ofNat time
  margin_eq : statistics.margin = if count = 1 then Binary64.infinity else 0.0
  relativeMargin_eq : statistics.relativeMargin = if count = 1 then Binary64.infinity else 0.0

namespace Binary64

open Statistics

variable {count time iterations more : Nat} {level : Confidence} {samples : List Sample}

theorem squaredDeviations_replicate (hbits : time < 2 ^ 53) (count : Nat) :
    squaredDeviations (Float.ofNat time) (List.replicate count (Float.ofNat time)) = 0.0 := by
  have hsquare : (0.0 : Float) * 0.0 = 0.0 := congrArg Float.ofModel (by decide +kernel :
    ((0.0 : Float) * 0.0).toModel = (0.0 : Float).toModel)
  rw [squaredDeviations, List.map_replicate, ofNat_sub_self hbits, hsquare, sum_replicate_zero]

theorem deviation_replicate (hbits : time < 2 ^ 53) (hmany : 2 ≤ count) (hcount : count < 2 ^ 64) :
    deviation (Float.ofNat time) (List.replicate count (Float.ofNat time)) = 0.0 := by
  have hroot : Float.sqrt 0.0 = 0.0 := congrArg Float.ofModel (by decide +kernel :
    (Float.sqrt 0.0).toModel = (0.0 : Float).toModel)
  have hdivisor : IsPositive (Float.ofNat (count - 1)) := isPositive_ofNat (by omega) (by omega)
  rw [deviation, squaredDeviations_replicate hbits, List.length_replicate]
  change Float.sqrt (0.0 / Float.ofNat (count - 1)) = 0.0
  rw [hdivisor.zero_div, hroot]

/-- No margin is no percentage of any mean. -/
theorem percentOfMean_zero (hbits : time < 2 ^ 64) :
    percentOfMean 0.0 (Float.ofNat time) = 0.0 := by
  have hfinite : Scalar.isInfinite (0.0 : Float) = false := by decide +kernel
  have hhundred : IsPositive 100.0 := by decide +kernel
  rw [percentOfMean, hfinite, if_neg Bool.false_ne_true]
  rcases Nat.eq_zero_or_pos time with rfl | hpos
  · have hnone : Scalar.lt (0.0 : Float) (Float.ofNat 0) = false := by decide +kernel
    rw [hnone, if_neg Bool.false_ne_true]
  · rw [(isPositive_ofNat hpos hbits).zero_div, hhundred.zero_mul, ite_self]

theorem percentOfMean_infinity (mean : Float) : percentOfMean infinity mean = infinity := by
  have hinfinite : Scalar.isInfinite infinity = true := by decide +kernel
  rw [percentOfMean, if_pos hinfinite]
  rfl

theorem mean_ofPeriods (iterations : Nat) (level : Confidence) (hsum : (more + 1) * time < 2 ^ 53)
    (hcount : more + 1 < 2 ^ 64) :
    (ofPeriods iterations (Float.ofNat time) (List.replicate more (Float.ofNat time))
      level).mean = Float.ofNat time := by
  have hmean := mean_replicate hsum more.succ_pos hcount
  rw [List.replicate_succ] at hmean
  rw [ofPeriods, List.length_cons, List.length_replicate]
  exact hmean

theorem margin_ofPeriods (iterations : Nat) (level : Confidence)
    (hsum : (more + 1) * time < 2 ^ 53) (hcount : more + 1 < 2 ^ 64) :
    (ofPeriods iterations (Float.ofNat time) (List.replicate more (Float.ofNat time))
      level).margin = if more + 1 = 1 then infinity else 0.0 := by
  cases more with
  | zero => rfl
  | succ more =>
    have hbits : time < 2 ^ 53 := lt_of_mul_lt_of_one_le_right hsum (by omega)
    have hmean := mean_ofPeriods iterations level hsum hcount
    have hdeviation := deviation_replicate hbits (by omega) hcount
    have hroot : IsPositive (Float.ofNat (more + 2)).sqrt :=
      (isPositive_ofNat (by omega) hcount).sqrt
    rw [List.replicate_succ] at hdeviation
    simp only [ofPeriods, List.length_cons, List.length_replicate] at hmean ⊢
    rw [hmean, hdeviation, if_neg (by omega), if_neg (by omega), if_neg (by omega),
      if_neg (by omega)]
    change 0.0 / (Float.ofNat (more + 2)).sqrt * level.critical _ = _
    rw [hroot.zero_div, (level.isPositive_critical _).zero_mul]

theorem showsOnly_ofPeriods (hsum : (more + 1) * time < 2 ^ 53) (hcount : more + 1 < 2 ^ 64) :
    (ofPeriods iterations (Float.ofNat time) (List.replicate more (Float.ofNat time))
      level).ShowsOnly (more + 1) time where
  sampleCount_eq := by rw [ofPeriods, List.length_cons, List.length_replicate]
  mean_eq := mean_ofPeriods _ _ hsum hcount
  median_eq := median_replicate hsum more.succ_pos hcount
  least_eq := foldl_min_replicate _ _
  greatest_eq := foldl_max_replicate _ _
  margin_eq := margin_ofPeriods _ _ hsum hcount
  relativeMargin_eq := by
    have hbits : time < 2 ^ 53 := lt_of_mul_lt_of_one_le_right hsum more.succ_pos
    calc
      (ofPeriods iterations (Float.ofNat time) (List.replicate more (Float.ofNat time))
          level).relativeMargin =
        percentOfMean (if more + 1 = 1 then infinity else 0.0) (Float.ofNat time) :=
        congrArg₂ percentOfMean (margin_ofPeriods iterations level hsum hcount)
          (mean_ofPeriods iterations level hsum hcount)
      _ = if more + 1 = 1 then infinity else 0.0 := by
        split
        next => rw [percentOfMean_infinity]
        next => rw [percentOfMean_zero (Nat.lt_trans hbits (by decide))]

/-- Equal samples have the statistics of their period. -/
theorem showsOnly_ofSamples (hiterations : 0 < iterations) (hfew : iterations < 2 ^ 53)
    (helapsed : iterations * time < 2 ^ 53) (hsum : count * time < 2 ^ 53) (hpos : 0 < count)
    (hcount : count < 2 ^ 64) :
    (ofSamples (List.replicate count ⟨iterations * time, iterations⟩) level).ShowsOnly count
      time := by
  obtain ⟨more, rfl⟩ := Nat.exists_eq_succ_of_ne_zero (Nat.ne_of_gt hpos)
  rw [ofSamples, List.map_replicate, period_eq hiterations helapsed hfew, List.replicate_succ]
  exact showsOnly_ofPeriods hsum hcount

end Binary64

end PushBench
