import Mathlib.Algebra.Order.Floor.Div
import PushBench.Proofs.Number.Quotient

/-!
# Counts as doubles

A count below `2 ^ 53` is a double itself. Sums of such counts and quotients without remainder are
exact as long as they are such counts too, and so is the ceiling of any quotient.
-/

namespace PushBench.Binary64

open Float.Model Float.Model.UnpackedFloat

variable {mantissa number first second dividend divisor : Nat} {exponent : Int}
  {accuracy : Accuracy}

/-! ## Counts -/

theorem unpack_pack_scaled (hbits : number < 2 ^ 53) (hleast : -1022 ≤ exponent)
    (hroom : exponent ≤ 971) :
    (Float.Model.pack (scaled number exponent)).unpack = scaled number exponent := by
  rcases Nat.eq_zero_or_pos number with rfl | hpos
  · exact unpack_pack_zero .positive
  · exact (isNormal_scaled hpos hbits hleast hroom).unpack_pack

theorem unpack_toFloat (hbits : number < 2 ^ 53) :
    number.toUInt64.toFloat.toModel.unpack = scaled number 0 := by
  have hnumber : number.toUInt64.toNat = number :=
    UInt64.toNat_ofNat_of_lt' (Nat.lt_trans hbits (by decide))
  have hnormal := normalize_scaled hbits (by decide : (-1022 : Int) ≤ 0) 0
  rw [Nat.pow_zero, Nat.mul_one, Int.natCast_zero, Int.sub_zero] at hnormal
  change (Float.Model.pack (UnpackedFloat.normalize Format.binary64 number.toUInt64.toNat 0
    .positive)).unpack = _
  rw [hnumber, hnormal, unpack_pack_scaled hbits (by decide) (by decide)]

/-- A count that fits is a double itself. -/
theorem ofNat_eq (hbits : number < 2 ^ 53) : Float.ofNat number = double (scaled number 0) := by
  have hone : (Float.ofBits 0x3FF0000000000000).toModel.unpack = scaled 1 0 := rfl
  change Float.ofScientific number false 0 = _
  unfold Float.ofScientific
  rw [dif_pos ⟨hbits, by decide⟩]
  change double (UnpackedFloat.mul Format.binary64 number.toUInt64.toFloat.toModel.unpack
    (Float.ofBits 0x3FF0000000000000).toModel.unpack) = _
  rw [unpack_toFloat hbits, hone, mul_scaled (by omega) (by decide), Nat.mul_one]
  rfl

theorem zero_eq : (0.0 : Float) = Float.ofNat 0 :=
  congrArg Float.ofModel (by decide +kernel : (0.0 : Float).toModel = (Float.ofNat 0).toModel)

variable {x : Float}

theorem unpack_ofNat (hbits : number < 2 ^ 53) :
    (Float.ofNat number).toModel.unpack = scaled number 0 := by
  rw [ofNat_eq hbits]
  exact unpack_pack_scaled hbits (by decide) (by decide)

theorem unpack_zero : (0.0 : Float).toModel.unpack = .zero .positive := by
  rw [zero_eq, unpack_ofNat (by decide), scaled_zero]

theorem zero_eq_double : (0.0 : Float) = double (.zero .positive) := by
  rw [zero_eq, ofNat_eq (by decide), scaled_zero]

theorem ofNat_add (hbits : first + second < 2 ^ 53) :
    Float.ofNat first + Float.ofNat second = Float.ofNat (first + second) := by
  change double (UnpackedFloat.add Format.binary64 (Float.ofNat first).toModel.unpack
    (Float.ofNat second).toModel.unpack) = _
  rw [unpack_ofNat (by omega), unpack_ofNat (by omega), add_scaled hbits (by decide),
    ofNat_eq hbits]

theorem ofNat_sub_self (hbits : number < 2 ^ 53) :
    Float.ofNat number - Float.ofNat number = 0.0 := by
  change double (UnpackedFloat.sub Format.binary64 (Float.ofNat number).toModel.unpack
    (Float.ofNat number).toModel.unpack) = _
  rw [unpack_ofNat hbits, sub_scaled_self, zero_eq_double]

theorem ofNat_mul_div (hpos : 0 < divisor) (hbits : number * divisor < 2 ^ 53)
    (hdivisor : divisor < 2 ^ 53) :
    Float.ofNat (number * divisor) / Float.ofNat divisor = Float.ofNat number := by
  have hnumber : number < 2 ^ 53 := lt_of_mul_lt_of_one_le_left hbits hpos
  change double (UnpackedFloat.div Format.binary64 (Float.ofNat (number * divisor)).toModel.unpack
    (Float.ofNat divisor).toModel.unpack) = _
  rw [unpack_ofNat hbits, unpack_ofNat hdivisor, div_scaled_mul hpos hbits, ofNat_eq hnumber]

/-- Counting how often a divisor goes into a count, with the last time begun, is exact although the
quotient is rounded. -/
theorem ceil_ofNat_div (hdividend : dividend < 2 ^ 53) (hpos : 0 < divisor)
    (hdivisor : divisor < 2 ^ 53) :
    ceil (Float.ofNat dividend / Float.ofNat divisor) = dividend ⌈/⌉ divisor := by
  have hdiv : Float.ofNat dividend / Float.ofNat divisor =
      double (UnpackedFloat.div Format.binary64 (scaled dividend 0) (scaled divisor 0)) := by
    rw [← unpack_ofNat hdividend, ← unpack_ofNat hdivisor]
    rfl
  rw [Nat.ceilDiv_eq_add_pred_div, hdiv]
  rcases Nat.eq_zero_or_pos dividend with rfl | hdividendPos
  · rw [scaled_of_pos hpos, scaled_zero, Nat.zero_add, Nat.div_eq_of_lt (by omega)]
    change ceil (double (.zero .positive)) = 0
    rw [← zero_eq_double]
    decide +kernel
  · have hsplit := Nat.div_add_mod (dividend - 1) divisor
    have hmod := Nat.mod_lt (dividend - 1) hpos
    have hlower : (dividend + divisor - 1) / divisor = (dividend - 1) / divisor + 1 := by
      rw [← Nat.add_div_right _ hpos]
      congr 1
      omega
    rw [Nat.mul_comm] at hsplit
    generalize (dividend - 1) / divisor = lower at *
    have hle : lower ≤ lower * divisor := Nat.le_mul_of_pos_right _ hpos
    have hlimit : lower < countLimit := by
      have : countLimit = 2 ^ 64 - 1 := rfl
      omega
    have hbetween := between_div hdividend hpos hdivisor (by omega : lower * divisor < dividend)
      (by rw [Nat.add_mul, Nat.one_mul]; omega)
    rw [hbetween.ceil_double hlimit, hlower]

theorem le_iff {x y : Float} : x ≤ y ↔ x.toModel.unpack.le y.toModel.unpack = true :=
  decide_eq_true_iff

theorem ofNat_le_zero_iff (hbits : number < 2 ^ 53) : Float.ofNat number ≤ 0.0 ↔ number = 0 := by
  rw [le_iff, unpack_ofNat hbits, unpack_zero]
  rcases Nat.eq_zero_or_pos number with rfl | hpos
  · simp only [scaled_zero, iff_true]
    rfl
  · rw [scaled_of_pos hpos]
    simp [UnpackedFloat.le, UnpackedFloat.compare, Nat.ne_of_gt hpos, Ordering.isLE]

/-- Adding nothing, however it came about, leaves a count as it is. -/
theorem ofNat_add_mul_zero (hbits : number < 2 ^ 53) (hx : x.isFinite = true) :
    Float.ofNat number + x * 0.0 = Float.ofNat number := by
  have hproduct : ∃ sign, (x * 0.0).toModel.unpack = .zero sign := by
    have hmul : (x * 0.0).toModel =
        .pack (UnpackedFloat.mul Format.binary64 x.toModel.unpack (.zero .positive)) := by
      rw [← unpack_zero]
      rfl
    change x.toModel.unpack.isFinite = true at hx
    rw [hmul]
    cases hunpack : x.toModel.unpack with
    | notANumber => rw [hunpack] at hx; cases hx
    | infinity sign => rw [hunpack] at hx; cases hx
    | zero sign => exact ⟨_, unpack_pack_zero _⟩
    | finite sign mantissa exponent hpos => exact ⟨_, unpack_pack_zero _⟩
  obtain ⟨sign, hproduct⟩ := hproduct
  change double (UnpackedFloat.add Format.binary64 (Float.ofNat number).toModel.unpack
    (x * 0.0).toModel.unpack) = _
  rw [hproduct, unpack_ofNat hbits, ofNat_eq hbits]
  rcases Nat.eq_zero_or_pos number with rfl | hpos
  · cases sign <;> rfl
  · rw [scaled_of_pos hpos]
    rfl

/-! ## Halves -/

/-- Half of a count. -/
theorem half_mul_ofNat (hbits : number < 2 ^ 53) :
    double (scaled 1 (-1)) * Float.ofNat number = double (scaled number (-1)) := by
  change double (UnpackedFloat.mul Format.binary64 (Float.Model.pack (scaled 1 (-1))).unpack
    (Float.ofNat number).toModel.unpack) = _
  rw [unpack_pack_scaled (by decide) (by decide) (by decide), unpack_ofNat hbits,
    mul_scaled (by omega) (by decide), Nat.one_mul]
  rfl

theorem floor_half_le (hbits : number < 2 ^ 53) : floor (double (scaled number (-1))) ≤ number := by
  rcases Nat.eq_zero_or_pos number with rfl | hpos
  · rw [scaled_zero, ← zero_eq_double]
    decide +kernel
  · obtain ⟨hlower, hupper⟩ := scaled_bounds hpos hbits
    rw [scaled_of_pos hpos, floor, saturating_double hlower hupper (by omega) (by omega)]
    refine Nat.le_trans (Nat.min_le_right _ _) ?_
    generalize 52 - number.log2 = count
    have hcount : (-(-1 - (count : Int))).toNat = count + 1 := by omega
    have hwhole : (-1 - (count : Int)).toNat = 0 := by omega
    rw [Dyadic.floor, Dyadic.numerator, Dyadic.denominator, hcount, hwhole]
    apply Nat.div_le_of_le_mul
    change number * 2 ^ count * 2 ^ 0 ≤ 2 ^ (count + 1) * number
    rw [Nat.pow_zero, Nat.mul_one, Nat.mul_comm]
    exact Nat.mul_le_mul_right _ (Nat.pow_le_pow_right (by decide) (Nat.le_succ count))

/-! ## Positive doubles -/

/-- Fifty-three bits are left of a mantissa that has as many, whatever is dropped. -/
theorem isNormal_roundWithAccuracy (hlog : 52 ≤ mantissa.log2)
    (hleast : -1074 ≤ mantissa.log2 + exponent - 52) (hroom : mantissa.log2 + exponent - 52 < 971) :
    IsNormal (roundWithAccuracy Format.binary64 .positive mantissa exponent accuracy) := by
  obtain ⟨count, hcount⟩ := Nat.exists_eq_add_of_le hlog
  have hne : mantissa ≠ 0 := fun hzero ↦ by simp [hzero] at hlog
  have hshift : shiftToTargetExponent Format.binary64 mantissa exponent accuracy =
      (ExtendedMantissa.ofMantissaAndAccuracy mantissa accuracy >>> count, exponent + count) := by
    apply shift_eq
    rw [targetPlace]
    omega
  have hbounds := (Nat.log2_eq_iff hne).mp hcount
  have hlower : 2 ^ 52 ≤ mantissa / 2 ^ count := by
    rw [Nat.le_div_iff_mul_le (Nat.two_pow_pos _), ← Nat.pow_add]
    exact hbounds.1
  have hupper : mantissa / 2 ^ count < 2 ^ 53 := by
    rw [Nat.div_lt_iff_lt_mul (Nat.two_pow_pos _), ← Nat.pow_add, Nat.add_right_comm 52 1]
    exact hbounds.2
  have hkept := mantissa_shiftRight (.ofMantissaAndAccuracy mantissa accuracy) count
  rw [mantissa_ofMantissaAndAccuracy] at hkept
  generalize ExtendedMantissa.ofMantissaAndAccuracy mantissa accuracy >>> count = kept at *
  have hleRounded := le_roundedMantissa kept
  have hroundedLe := roundedMantissa_le kept
  rcases Nat.lt_or_eq_of_le (by omega : kept.roundedMantissa ≤ 2 ^ 53) with hlt | heq
  · rw [roundWithAccuracy_of_lt hshift (by omega) (by omega) hlt]
    exact .finite (by omega) hlt (by omega) (by omega)
  · rw [roundWithAccuracy_of_eq hshift (by omega) heq]
    exact .finite (Nat.le_refl _) (by decide) (by omega) (by omega)

theorem IsNormal.zero_div {y : UnpackedFloat} (h : IsNormal y) :
    UnpackedFloat.div Format.binary64 (.zero .positive) y = .zero .positive := by
  cases h
  rfl

theorem IsNormal.zero_mul {y : UnpackedFloat} (h : IsNormal y) :
    UnpackedFloat.mul Format.binary64 (.zero .positive) y = .zero .positive := by
  cases h
  rfl

/-- A double is positive, finite and not too small for fifty-three bits. -/
def IsPositive (x : Float) : Prop := IsNormal x.toModel.unpack

instance : (x : UnpackedFloat) → Decidable (IsNormal x)
  | .finite .positive mantissa exponent _ =>
    if h : 2 ^ 52 ≤ mantissa ∧ mantissa < 2 ^ 53 ∧ -1074 ≤ exponent ∧ exponent ≤ 971 then
      isTrue (.finite h.1 h.2.1 h.2.2.1 h.2.2.2)
    else isFalse fun hnormal ↦ by
      cases hnormal with
      | finite hnormal hbits hleast hroom => exact h ⟨hnormal, hbits, hleast, hroom⟩
  | .finite .negative _ _ _ => isFalse nofun
  | .zero _ => isFalse nofun
  | .infinity _ => isFalse nofun
  | .notANumber => isFalse nofun

instance (x : Float) : Decidable (IsPositive x) :=
  inferInstanceAs (Decidable (IsNormal x.toModel.unpack))

theorem IsPositive.zero_div (h : IsPositive x) : 0.0 / x = 0.0 := by
  change double (UnpackedFloat.div Format.binary64 (0.0 : Float).toModel.unpack
    x.toModel.unpack) = _
  rw [unpack_zero, IsNormal.zero_div h, zero_eq_double]

theorem IsPositive.zero_mul (h : IsPositive x) : 0.0 * x = 0.0 := by
  change double (UnpackedFloat.mul Format.binary64 (0.0 : Float).toModel.unpack
    x.toModel.unpack) = _
  rw [unpack_zero, IsNormal.zero_mul h, zero_eq_double]

/-- The root of a number of 105 or 106 bits has fifty-three. -/
theorem log2_sqrt (hlower : 2 ^ 104 ≤ number) (hupper : number < 2 ^ 106) :
    (Nat.sqrt number).log2 = 52 := by
  have hroot : 2 ^ 52 ≤ Nat.sqrt number := Nat.le_sqrt.mpr hlower
  exact log2_eq_of_normal hroot (Nat.sqrt_lt.mpr hupper)

/-- The root of a number is computed with half of its places and twenty-six more. -/
theorem sqrtCore_place (hnormal : 2 ^ 52 ≤ mantissa) (hbits : mantissa < 2 ^ 53)
    (hleast : -1074 ≤ exponent) :
    min (exponent / 2) (Format.binary64.targetExponent
      ((totalExponent mantissa exponent + 1) / 2)) = exponent / 2 - 26 := by
  have hdigits : Format.binary64.mantissaBits = 53 := by decide
  have hplaces : Format.binary64.minExponent = -1074 := by decide
  rw [totalExponent, log2_eq_of_normal hnormal hbits, Format.targetExponent, hdigits, hplaces]
  omega

theorem IsNormal.sqrt {y : UnpackedFloat} (h : IsNormal y) :
    IsNormal (UnpackedFloat.sqrt Format.binary64 y) := by
  cases h with
  | @finite mantissa exponent hpos hnormal hbits hleast hroom =>
    unfold UnpackedFloat.sqrt sqrtCore
    dsimp only
    change IsNormal (roundWithAccuracy Format.binary64 .positive (Nat.sqrt (mantissa <<< (exponent -
      2 * min (exponent / 2) (Format.binary64.targetExponent
        ((totalExponent mantissa exponent + 1) / 2))).toNat))
      (min (exponent / 2) (Format.binary64.targetExponent
        ((totalExponent mantissa exponent + 1) / 2))) _)
    rw [sqrtCore_place hnormal hbits hleast]
    generalize hcount : (exponent - 2 * (exponent / 2 - 26)).toNat = count
    have hlog : (Nat.sqrt (mantissa <<< count)).log2 = 52 := by
      obtain rfl | rfl : count = 52 ∨ count = 53 := by omega
      all_goals
        rw [Nat.shiftLeft_eq]
        exact log2_sqrt (by omega) (by omega)
    apply isNormal_roundWithAccuracy <;> omega

theorem IsPositive.sqrt (h : IsPositive x) : IsPositive x.sqrt := by
  change IsNormal (Float.Model.pack (UnpackedFloat.sqrt Format.binary64 x.toModel.unpack)).unpack
  rw [(IsNormal.sqrt h).unpack_pack]
  exact IsNormal.sqrt h

/-- A count that is shifted to the left by as many places as its exponent takes back. -/
theorem isNormal_mul_shiftLeft (hpos : 0 < number) (hlarge : 53 ≤ number.log2)
    (hlog : number.log2 < 64) (places : Nat) {factor : Nat} (hfactor : factor = 1)
    {hpos' : 0 < number <<< places} {hfactorPos : 0 < factor} :
    IsNormal (UnpackedFloat.mul Format.binary64
      (.finite .positive (number <<< places) (-places) hpos')
      (.finite .positive factor 0 hfactorPos)) := by
  have hshift : (number <<< places * factor).log2 = number.log2 + places := by
    rw [hfactor, Nat.mul_one, Nat.shiftLeft_eq, log2_mul_two_pow hpos]
  change IsNormal (roundWithAccuracy Format.binary64 .positive (number <<< places * factor)
    (-places + 0) .exact)
  apply isNormal_roundWithAccuracy <;> omega

theorem isPositive_ofNat (hpos : 0 < number) (hbits : number < 2 ^ 64) :
    IsPositive (Float.ofNat number) := by
  rcases Nat.lt_or_ge number (2 ^ 53) with hsmall | hlarge
  · rw [IsPositive, unpack_ofNat hsmall]
    exact isNormal_scaled hpos hsmall (by decide) (by decide)
  · have hlog := log2_lt_of_lt (by decide) hbits
    have hlog' : 53 ≤ number.log2 := (Nat.le_log2 (Nat.ne_of_gt hpos)).mpr hlarge
    have hnormal : IsNormal (UnpackedFloat.ofScientific Format.binary64 number 0) := by
      unfold UnpackedFloat.ofScientific
      rw [dif_neg (Nat.ne_of_gt hpos), if_neg (by decide), if_neg (by norm_num),
        if_pos (by decide)]
      exact isNormal_mul_shiftLeft hpos hlog' hlog _ rfl
    change IsPositive (Float.ofScientific number false 0)
    unfold Float.ofScientific
    rw [dif_neg (by omega)]
    change IsNormal (Float.Model.pack (UnpackedFloat.ofScientific Format.binary64 number 0)).unpack
    rw [hnormal.unpack_pack]
    exact hnormal

end PushBench.Binary64
