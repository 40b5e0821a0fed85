import PushBench.Proofs.Number.Normal

/-!
# Quotients of numbers of fifty-three bits

A quotient without remainder is exact. One with a remainder is rounded so little that its ceiling
stays what it is.
-/

namespace PushBench.Binary64

open Float.Model Float.Model.UnpackedFloat

variable {mantissa number dividend divisor : Nat} {exponent : Int} {accuracy : Accuracy}

/-! ## Quotients without remainder -/

/-- How many binary places below the point a quotient is computed with. -/
def quotientPlaces (dividend divisor : Nat) : Nat := 53 + divisor.log2 - dividend.log2

theorem divCore_scaled (hdividend : 0 < dividend) (hdividendBits : dividend < 2 ^ 53)
    (hdivisor : 0 < divisor) (hdivisorBits : divisor < 2 ^ 53) :
    divCore Format.binary64
        (dividend * 2 ^ (52 - dividend.log2)) (0 - (52 - dividend.log2 : Nat))
        (divisor * 2 ^ (52 - divisor.log2)) (0 - (52 - divisor.log2 : Nat)) =
      (dividend * 2 ^ quotientPlaces dividend divisor / divisor,
        0 - (quotientPlaces dividend divisor : Int),
        accuracyOfFraction
          (dividend * 2 ^ quotientPlaces dividend divisor % divisor * 2 ^ (52 - divisor.log2))
          (divisor * 2 ^ (52 - divisor.log2))) := by
  have hlog := log2_lt_of_lt (by decide) hdividendBits
  have hlog' := log2_lt_of_lt (by decide) hdivisorBits
  have htarget : min ((0 : Int) - (52 - dividend.log2 : Nat) - (0 - (52 - divisor.log2 : Nat)))
      (Format.binary64.targetExponent
        (totalExponent (dividend * 2 ^ (52 - dividend.log2)) (0 - (52 - dividend.log2 : Nat)) -
          totalExponent (divisor * 2 ^ (52 - divisor.log2)) (0 - (52 - divisor.log2 : Nat)))) =
      0 - (quotientPlaces dividend divisor : Int) := by
    have hbits : Format.binary64.mantissaBits = 53 := by decide
    have hleast : Format.binary64.minExponent = -1074 := by decide
    rw [totalExponent, totalExponent, log2_mul_two_pow hdividend, log2_mul_two_pow hdivisor,
      Format.targetExponent, hbits, hleast, quotientPlaces]
    omega
  have hshift : ((0 : Int) - (52 - dividend.log2 : Nat) - (0 - (52 - divisor.log2 : Nat)) -
      (0 - (quotientPlaces dividend divisor : Int))).toNat = 53 := by
    rw [quotientPlaces]
    omega
  have hplaces : 52 - dividend.log2 + 53 =
      quotientPlaces dividend divisor + (52 - divisor.log2) := by
    rw [quotientPlaces]
    omega
  unfold divCore
  dsimp only
  rw [htarget, hshift, Nat.shiftLeft_eq, Nat.mul_assoc, ← Nat.pow_add, hplaces, Nat.pow_add,
    ← Nat.mul_assoc, Nat.mul_div_mul_right _ _ (Nat.two_pow_pos _), Nat.mul_mod_mul_right]

/-- A quotient without remainder is exact. -/
theorem div_scaled_mul (hdivisor : 0 < divisor) (hbits : number * divisor < 2 ^ 53) :
    UnpackedFloat.div Format.binary64 (scaled (number * divisor) 0) (scaled divisor 0) =
      scaled number 0 := by
  rcases Nat.eq_zero_or_pos number with rfl | hpos
  · rw [Nat.zero_mul, scaled_of_pos hdivisor]
    rfl
  have hmul : 0 < number * divisor := Nat.mul_pos hpos hdivisor
  have hnumber : number < 2 ^ 53 := lt_of_mul_lt_of_one_le_left hbits hdivisor
  have hdivisorBits : divisor < 2 ^ 53 := lt_of_mul_lt_of_one_le_right hbits hpos
  have hlog := log2_lt_of_lt (by decide) hbits
  have hlog' := (log2_mul_bounds hpos hdivisor).2
  rw [scaled_of_pos hmul, scaled_of_pos hdivisor]
  unfold UnpackedFloat.div
  dsimp only
  rw [divCore_scaled hmul hbits hdivisor hdivisorBits, Nat.mul_right_comm,
    Nat.mul_div_cancel _ hdivisor, Nat.mul_mod_left, Nat.zero_mul]
  exact roundWithAccuracy_scaled hpos hnumber (by decide) _ (by rw [quotientPlaces]; omega)

/-! ## Ceilings -/

variable {lower places quotient : Nat}

theorem le_roundedMantissa (m : ExtendedMantissa) : m.mantissa ≤ m.roundedMantissa := by
  obtain ⟨mantissa, roundBit, stickyBit⟩ := m
  cases roundBit <;> cases stickyBit <;>
    simp [ExtendedMantissa.roundedMantissa, ExtendedMantissa.accuracy,
      Accuracy.roundToNearestEven]

theorem roundedMantissa_ofMantissa_exact (mantissa : Nat) :
    (ExtendedMantissa.ofMantissaAndAccuracy mantissa .exact).roundedMantissa = mantissa := rfl

/-- What lies above half of the last place is rounded up. -/
theorem roundedMantissa_shiftRightOne_of_odd (hodd : mantissa % 2 = 1) (relative : Ordering) :
    (ExtendedMantissa.ofMantissaAndAccuracy mantissa
      (.inexact relative)).shiftRightOne.roundedMantissa = mantissa / 2 + 1 := by
  cases relative <;>
    simp [ExtendedMantissa.ofMantissaAndAccuracy, ExtendedMantissa.shiftRightOne, hodd,
      ExtendedMantissa.roundedMantissa, ExtendedMantissa.accuracy, Accuracy.roundToNearestEven]

theorem lower_mul_add_lt (hbelow : lower * divisor < dividend)
    (hplaces : divisor < 2 ^ places) :
    (lower * 2 ^ places + 1) * divisor < dividend * 2 ^ places :=
  calc
    (lower * 2 ^ places + 1) * divisor = lower * divisor * 2 ^ places + divisor := by
      rw [Nat.add_mul, Nat.one_mul, Nat.mul_right_comm]
    _ < (lower * divisor + 1) * 2 ^ places := by rw [Nat.add_mul]; omega
    _ ≤ dividend * 2 ^ places := Nat.mul_le_mul_right _ hbelow

/-- The whole number below a quotient is below it by more than one unit of its last place. -/
theorem lower_lt_quotient (hpos : 0 < divisor)
    (hbelow : lower * divisor < dividend) (hplaces : divisor < 2 ^ places) :
    lower * 2 ^ places < dividend * 2 ^ places / divisor ∧
      (dividend * 2 ^ places / divisor = lower * 2 ^ places + 1 →
        dividend * 2 ^ places % divisor ≠ 0) := by
  have hunit := lower_mul_add_lt hbelow hplaces
  refine ⟨(Nat.le_div_iff_mul_le hpos).mpr (Nat.le_of_lt hunit), fun hquotient hremainder ↦ ?_⟩
  have hsplit := Nat.div_add_mod (dividend * 2 ^ places) divisor
  rw [hquotient, hremainder, Nat.mul_comm divisor] at hsplit
  omega

/-- A quotient is at most the whole number above it, and below it if there is a remainder. -/
theorem quotient_le_upper {upper : Nat} (hpos : 0 < divisor) (habove : dividend ≤ upper * divisor)
    (places : Nat) :
    dividend * 2 ^ places / divisor ≤ upper * 2 ^ places ∧
      (dividend * 2 ^ places % divisor ≠ 0 →
        dividend * 2 ^ places / divisor < upper * 2 ^ places) := by
  have hupper : dividend * 2 ^ places ≤ divisor * (upper * 2 ^ places) := by
    rw [← Nat.mul_assoc, Nat.mul_comm divisor]
    exact Nat.mul_le_mul_right _ habove
  refine ⟨Nat.div_le_of_le_mul hupper, fun hremainder ↦ ?_⟩
  rw [Nat.div_lt_iff_lt_mul hpos, Nat.mul_comm _ divisor]
  refine Nat.lt_of_le_of_ne hupper fun heq ↦ hremainder ?_
  rw [heq, Nat.mul_mod_right]

/-- A positive number of fifty-three bits, counted in units of the place `places` below the point,
that is above one whole number and not above the next. -/
inductive Between (lower places : Nat) : UnpackedFloat → Prop
  | finite {mantissa more : Nat} {hpos : 0 < mantissa} (hnormal : 2 ^ 52 ≤ mantissa)
    (hbits : mantissa < 2 ^ 53) (hleast : places ≤ more + 1074) (hroom : more ≤ places + 971)
    (hlower : lower * 2 ^ places < mantissa * 2 ^ more)
    (hupper : mantissa * 2 ^ more ≤ (lower + 1) * 2 ^ places) :
    Between lower places (.finite .positive mantissa (more - places) hpos)

theorem between_roundWithAccuracy {more : Nat} {kept : ExtendedMantissa}
    (hshift : shiftToTargetExponent Format.binary64 mantissa exponent accuracy =
      (kept, (more - places : Int)))
    (hleast : places ≤ 1074) (hroom : more ≤ places + 970)
    (hnormal : 2 ^ 52 ≤ kept.roundedMantissa) (hbits : kept.roundedMantissa ≤ 2 ^ 53)
    (hlower : lower * 2 ^ places < kept.roundedMantissa * 2 ^ more)
    (hupper : kept.roundedMantissa * 2 ^ more ≤ (lower + 1) * 2 ^ places) :
    Between lower places
      (roundWithAccuracy Format.binary64 .positive mantissa exponent accuracy) := by
  rcases Nat.lt_or_eq_of_le hbits with hlt | heq
  · rw [roundWithAccuracy_of_lt hshift (by omega) (by omega) hlt]
    exact .finite hnormal hlt (by omega) (by omega) hlower hupper
  · have hvalue : 2 ^ 52 * 2 ^ (more + 1) = kept.roundedMantissa * 2 ^ more := by
      rw [heq, Nat.pow_succ]
      omega
    have hplace : (more - places : Int) + 1 = (more + 1 : Nat) - places := by omega
    rw [roundWithAccuracy_of_eq hshift (by omega) heq]
    simp only [hplace]
    exact .finite (Nat.le_refl _) (by decide) (by omega) (by omega) (hvalue ▸ hlower)
      (hvalue ▸ hupper)

/-- Of a quotient of fifty-three bits nothing is dropped but the remainder, and only with a
remainder is it rounded up. -/
theorem between_round_of_lt (hleast : places ≤ 1074) (hnormal : 2 ^ 52 ≤ quotient)
    (hbits : quotient < 2 ^ 53) (hlower : lower * 2 ^ places < quotient)
    (hupper : quotient ≤ (lower + 1) * 2 ^ places)
    (hrest : accuracy ≠ .exact → quotient < (lower + 1) * 2 ^ places) :
    Between lower places
      (roundWithAccuracy Format.binary64 .positive quotient (0 - places) accuracy) := by
  have hshift : shiftToTargetExponent Format.binary64 quotient (0 - places) accuracy =
      (.ofMantissaAndAccuracy quotient accuracy, ((0 : Nat) - places : Int)) :=
    shift_eq_self hbits (by omega)
  have hkept := le_roundedMantissa (.ofMantissaAndAccuracy quotient accuracy)
  have hround := roundedMantissa_le (.ofMantissaAndAccuracy quotient accuracy)
  rw [mantissa_ofMantissaAndAccuracy] at hkept hround
  apply between_roundWithAccuracy hshift hleast (by omega) (by omega) (by omega) (by omega)
  cases accuracy with
  | exact =>
    rw [roundedMantissa_ofMantissa_exact]
    omega
  | inexact relative =>
    have := hrest nofun
    omega

/-- Of a quotient of fifty-four bits the last is dropped. Whole numbers are even, so that rounding
up stays below the next. -/
theorem between_round_of_le (hfraction : 1 ≤ places) (hleast : places ≤ 1074)
    (hlong : 2 ^ 53 ≤ quotient) (hbits : quotient < 2 ^ 54) (hlower : lower * 2 ^ places < quotient)
    (hupper : quotient ≤ (lower + 1) * 2 ^ places)
    (hunit : quotient = lower * 2 ^ places + 1 → accuracy ≠ .exact) :
    Between lower places
      (roundWithAccuracy Format.binary64 .positive quotient (0 - places) accuracy) := by
  have hlog : quotient.log2 = 53 := (Nat.log2_eq_iff (by omega)).mpr ⟨hlong, hbits⟩
  have hcount : (targetPlace quotient (0 - places) - (0 - places)).toNat = 1 := by
    rw [targetPlace, hlog]
    omega
  have hshift : shiftToTargetExponent Format.binary64 quotient (0 - places) accuracy =
      ((ExtendedMantissa.ofMantissaAndAccuracy quotient accuracy).shiftRightOne,
        ((1 : Nat) - places : Int)) := by
    have hplace : (0 : Int) - places + (1 : Nat) = (1 : Nat) - places := by omega
    rw [shift_eq hcount, hplace]
    rfl
  have hkept := le_roundedMantissa
    (ExtendedMantissa.ofMantissaAndAccuracy quotient accuracy).shiftRightOne
  have hround := roundedMantissa_shiftRightOne
    (ExtendedMantissa.ofMantissaAndAccuracy quotient accuracy)
  have hhalf : (ExtendedMantissa.ofMantissaAndAccuracy quotient accuracy).shiftRightOne.mantissa =
      quotient / 2 := by rw [ExtendedMantissa.shiftRightOne, mantissa_ofMantissaAndAccuracy]
  rw [hhalf] at hkept
  rw [mantissa_ofMantissaAndAccuracy] at hround
  have heven (whole : Nat) : whole * 2 ^ places % 2 = 0 := by
    obtain ⟨more, rfl⟩ := Nat.exists_eq_succ_of_ne_zero (Nat.ne_of_gt hfraction)
    rw [Nat.pow_succ, ← Nat.mul_assoc, Nat.mul_mod_left]
  have hlowerEven := heven lower
  have hupperEven := heven (lower + 1)
  have hodd : quotient = lower * 2 ^ places + 1 →
      (ExtendedMantissa.ofMantissaAndAccuracy quotient accuracy).shiftRightOne.roundedMantissa =
        quotient / 2 + 1 := by
    intro hquotient
    cases accuracy with
    | exact => exact absurd rfl (hunit hquotient)
    | inexact relative => exact roundedMantissa_shiftRightOne_of_odd (by omega) relative
  apply between_roundWithAccuracy hshift hleast <;> omega

theorem accuracyOfFraction_eq_exact_iff {numerator denominator : Nat} :
    accuracyOfFraction numerator denominator = .exact ↔ numerator = 0 := by
  unfold accuracyOfFraction
  split
  next hzero => exact iff_of_true rfl hzero
  next hnonzero => exact iff_of_false nofun hnonzero

/-- Rounding a quotient of fifty-three or fifty-four bits does not reach the whole number below it,
and does not pass the one above it. -/
theorem between_round_quotient (hpos : 0 < divisor)
    (hbelow : lower * divisor < dividend) (habove : dividend ≤ (lower + 1) * divisor)
    (hdivisor : divisor < 2 ^ places) (hfraction : 1 ≤ places) (hleast : places ≤ 1074)
    (hnormal : 2 ^ 52 ≤ dividend * 2 ^ places / divisor)
    (hbits : dividend * 2 ^ places / divisor < 2 ^ 54)
    (haccuracy : accuracy = .exact ↔ dividend * 2 ^ places % divisor = 0) :
    Between lower places (roundWithAccuracy Format.binary64 .positive
      (dividend * 2 ^ places / divisor) (0 - places) accuracy) := by
  obtain ⟨hlower, hunit⟩ := lower_lt_quotient hpos hbelow hdivisor
  obtain ⟨hupper, hrest⟩ := quotient_le_upper hpos habove places
  rw [ne_eq, ← haccuracy] at hunit hrest
  rcases Nat.lt_or_ge (dividend * 2 ^ places / divisor) (2 ^ 53) with hshort | hlong
  · exact between_round_of_lt hleast hnormal hshort hlower hupper hrest
  · exact between_round_of_le hfraction hleast hlong hbits hlower hupper hunit

theorem between_div (hdividend : dividend < 2 ^ 53) (hpos : 0 < divisor)
    (hdivisor : divisor < 2 ^ 53) (hbelow : lower * divisor < dividend)
    (habove : dividend ≤ (lower + 1) * divisor) :
    Between lower (quotientPlaces dividend divisor)
      (UnpackedFloat.div Format.binary64 (scaled dividend 0) (scaled divisor 0)) := by
  have hdividendPos : 0 < dividend := Nat.zero_lt_of_lt hbelow
  have hlog := log2_lt_of_lt (by decide) hdividend
  have hlog' := log2_lt_of_lt (by decide) hdivisor
  have hplaces : dividend.log2 + quotientPlaces dividend divisor = divisor.log2 + 53 := by
    rw [quotientPlaces]
    omega
  have hdivisorLt : divisor < 2 ^ quotientPlaces dividend divisor :=
    Nat.lt_of_lt_of_le Nat.lt_log2_self (Nat.pow_le_pow_right (by decide) (by omega))
  have hnormal : 2 ^ 52 ≤ dividend * 2 ^ quotientPlaces dividend divisor / divisor := by
    rw [Nat.le_div_iff_mul_le hpos]
    calc
      2 ^ 52 * divisor ≤ 2 ^ 52 * 2 ^ (divisor.log2 + 1) :=
        Nat.mul_le_mul_left _ (Nat.le_of_lt Nat.lt_log2_self)
      _ = 2 ^ dividend.log2 * 2 ^ quotientPlaces dividend divisor := by
        rw [← Nat.pow_add, ← Nat.pow_add]
        congr 1
        omega
      _ ≤ dividend * 2 ^ quotientPlaces dividend divisor :=
        Nat.mul_le_mul_right _ (Nat.log2_self_le (Nat.ne_of_gt hdividendPos))
  have hbits : dividend * 2 ^ quotientPlaces dividend divisor / divisor < 2 ^ 54 := by
    rw [Nat.div_lt_iff_lt_mul hpos]
    calc
      dividend * 2 ^ quotientPlaces dividend divisor <
          2 ^ (dividend.log2 + 1) * 2 ^ quotientPlaces dividend divisor :=
        Nat.mul_lt_mul_of_pos_right Nat.lt_log2_self (Nat.two_pow_pos _)
      _ = 2 ^ 54 * 2 ^ divisor.log2 := by
        rw [← Nat.pow_add, ← Nat.pow_add]
        congr 1
        omega
      _ ≤ 2 ^ 54 * divisor := Nat.mul_le_mul_left _ (Nat.log2_self_le (Nat.ne_of_gt hpos))
  rw [scaled_of_pos hdividendPos, scaled_of_pos hpos]
  unfold UnpackedFloat.div
  dsimp only
  rw [divCore_scaled hdividendPos hdividend hpos hdivisor]
  refine between_round_quotient hpos hbelow habove hdivisorLt (by omega) (by omega) hnormal hbits ?_
  rw [accuracyOfFraction_eq_exact_iff, Nat.mul_eq_zero,
    or_iff_left (Nat.ne_of_gt (Nat.two_pow_pos _))]

/-- The least whole number that is not below a magnitude, by cross multiplication. -/
theorem Dyadic.ceil_eq_of_bounds {x : Dyadic}
    (hlower : lower * x.denominator < x.numerator)
    (hupper : x.numerator ≤ (lower + 1) * x.denominator) : x.ceil = lower + 1 := by
  have hpos : 0 < x.denominator := Nat.two_pow_pos _
  rw [Dyadic.ceil]
  apply Nat.div_eq_of_lt_le
  · rw [Nat.add_mul, Nat.one_mul]
    omega
  · rw [Nat.add_mul, Nat.one_mul]
    omega

theorem numerator_mul_two_pow (mantissa more places : Nat) :
    Dyadic.numerator ⟨mantissa, more - places⟩ * 2 ^ places =
      mantissa * 2 ^ more * Dyadic.denominator ⟨mantissa, more - places⟩ := by
  have hpower (count : Nat) : twoPow count = 2 ^ count := rfl
  rw [Dyadic.numerator, Dyadic.denominator, hpower, hpower, Nat.mul_assoc, Nat.mul_assoc,
    ← Nat.pow_add, ← Nat.pow_add]
  congr 2
  dsimp only
  omega

theorem Between.ceil_double {x : UnpackedFloat} (h : Between lower places x)
    (hlimit : lower < countLimit) : ceil (double x) = lower + 1 := by
  cases h with
  | @finite mantissa more hpos hnormal hbits hleast hroom hlower hupper =>
    have hunits : 0 < Dyadic.denominator ⟨mantissa, more - places⟩ := Nat.two_pow_pos _
    have hcross := numerator_mul_two_pow mantissa more places
    have hceil : Dyadic.ceil ⟨mantissa, more - places⟩ = lower + 1 := by
      apply Dyadic.ceil_eq_of_bounds
      · refine Nat.lt_of_mul_lt_mul_right (a := 2 ^ places) ?_
        rw [hcross, Nat.mul_right_comm]
        exact Nat.mul_lt_mul_of_pos_right hlower hunits
      · refine Nat.le_of_mul_le_mul_right ?_ (Nat.two_pow_pos places)
        rw [hcross, Nat.mul_right_comm (lower + 1)]
        exact Nat.mul_le_mul_right _ hupper
    rw [ceil, saturating_double hnormal hbits (by omega) (by omega), hceil]
    exact Nat.min_eq_right hlimit

end PushBench.Binary64
