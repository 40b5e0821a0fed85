import Mathlib
import PushBench.Proofs.Number.Magnitude

/-!
# Numbers of fifty-three bits

A number of fifty-three bits whose places doubles have is not changed by rounding and not by
packing. Sums and products of numbers that are written with so many bits are exact as long as they
have no more themselves.
-/

namespace PushBench.Binary64

open Float.Model Float.Model.UnpackedFloat

variable {mantissa number : Nat} {exponent place : Int} {accuracy : Accuracy} {sign : Sign}

/-! ## Rounding -/

theorem log2_eq_of_normal (hnormal : 2 ^ 52 ≤ mantissa) (hbits : mantissa < 2 ^ 53) :
    mantissa.log2 = 52 :=
  (Nat.log2_eq_iff (by omega)).mpr ⟨hnormal, hbits⟩

theorem shift_eq {count : Nat} (hcount : (targetPlace mantissa exponent - exponent).toNat = count) :
    shiftToTargetExponent Format.binary64 mantissa exponent accuracy =
      (ExtendedMantissa.ofMantissaAndAccuracy mantissa accuracy >>> count, exponent + count) := by
  subst hcount
  unfold shiftToTargetExponent shiftToExponent
  rw [targetExponent_eq]

/-- A mantissa that has room is not shifted. -/
theorem shift_eq_self (hbits : mantissa < 2 ^ 53) (hleast : -1074 ≤ exponent) :
    shiftToTargetExponent Format.binary64 mantissa exponent accuracy =
      (.ofMantissaAndAccuracy mantissa accuracy, exponent) := by
  have hlog := log2_lt_of_lt (by decide) hbits
  have hcount : (targetPlace mantissa exponent - exponent).toNat = 0 := by
    unfold targetPlace
    omega
  rw [shift_eq hcount]
  simp [HShiftRight.hShiftRight, Nat.repeat]

theorem shift_two_pow (hleast : -1074 ≤ exponent) :
    shiftToTargetExponent Format.binary64 (2 ^ 53) exponent .exact =
      (⟨2 ^ 52, false, false⟩, exponent + 1) := by
  have hcount : (targetPlace (2 ^ 53) exponent - exponent).toNat = 1 := by
    rw [targetPlace, Nat.log2_two_pow]
    omega
  rw [shift_eq hcount]
  rfl

theorem roundWithAccuracy_of_lt {kept : ExtendedMantissa}
    (hshift : shiftToTargetExponent Format.binary64 mantissa exponent accuracy = (kept, place))
    (hleast : -1074 ≤ place) (hpos : 0 < kept.roundedMantissa)
    (hbits : kept.roundedMantissa < 2 ^ 53) :
    roundWithAccuracy Format.binary64 sign mantissa exponent accuracy =
      .finite sign kept.roundedMantissa place hpos := by
  unfold roundWithAccuracy
  rw [hshift]
  dsimp only
  rw [shift_eq_self hbits hleast]
  exact dif_neg (Nat.ne_of_gt hpos)

/-- A mantissa that is rounded up to the next power of two takes one more place. -/
theorem roundWithAccuracy_of_eq {kept : ExtendedMantissa}
    (hshift : shiftToTargetExponent Format.binary64 mantissa exponent accuracy = (kept, place))
    (hleast : -1074 ≤ place) (hbits : kept.roundedMantissa = 2 ^ 53) :
    roundWithAccuracy Format.binary64 sign mantissa exponent accuracy =
      .finite sign (2 ^ 52) (place + 1) (by decide) := by
  unfold roundWithAccuracy
  rw [hshift]
  dsimp only
  rw [hbits, shift_two_pow hleast]
  rfl

theorem shiftRight_ofMantissaAndAccuracy (mantissa count : Nat) :
    ExtendedMantissa.ofMantissaAndAccuracy (mantissa * 2 ^ count) .exact >>> count =
      .ofMantissaAndAccuracy mantissa .exact := by
  induction count generalizing mantissa with
  | zero => simp [HShiftRight.hShiftRight, Nat.repeat]
  | succ count ih =>
    change (ExtendedMantissa.ofMantissaAndAccuracy (mantissa * 2 ^ (count + 1)) .exact >>>
      count).shiftRightOne = _
    rw [Nat.pow_succ', ← Nat.mul_assoc, ih]
    simp [ExtendedMantissa.ofMantissaAndAccuracy, ExtendedMantissa.shiftRightOne]

theorem log2_mul_two_pow (hpos : 0 < number) (count : Nat) :
    (number * 2 ^ count).log2 = number.log2 + count := by
  rw [← Nat.shiftLeft_eq]
  refine Nat.le_antisymm (log2_shiftLeft_le number count) ?_
  rw [Nat.le_log2 (by simp [Nat.shiftLeft_eq]; omega), Nat.shiftLeft_eq, Nat.pow_add]
  exact Nat.mul_le_mul_right _ (Nat.log2_self_le (Nat.ne_of_gt hpos))

/-- A number of fifty-three bits is not changed by rounding, wherever its places are written. -/
theorem roundWithAccuracy_exact (sign : Sign) (hnormal : 2 ^ 52 ≤ mantissa)
    (hbits : mantissa < 2 ^ 53) (hleast : -1074 ≤ exponent) (count : Nat) :
    roundWithAccuracy Format.binary64 sign (mantissa * 2 ^ count) (exponent - count) .exact =
      .finite sign mantissa exponent (by omega) := by
  have hcount : (targetPlace (mantissa * 2 ^ count) (exponent - count) -
      (exponent - count)).toNat = count := by
    rw [targetPlace, log2_mul_two_pow (by omega), log2_eq_of_normal hnormal hbits]
    omega
  have hshift : shiftToTargetExponent Format.binary64 (mantissa * 2 ^ count) (exponent - count)
      .exact = (⟨mantissa, false, false⟩, exponent) := by
    rw [shift_eq hcount, shiftRight_ofMantissaAndAccuracy, Int.sub_add_cancel]
    rfl
  exact roundWithAccuracy_of_lt hshift hleast (Nat.lt_of_lt_of_le (by decide) hnormal) hbits

/-! ## Normal forms -/

/-- A positive number of fifty-three bits whose places doubles have. -/
inductive IsNormal : UnpackedFloat → Prop
  | finite {mantissa : Nat} {exponent : Int} {hpos : 0 < mantissa} (hnormal : 2 ^ 52 ≤ mantissa)
    (hbits : mantissa < 2 ^ 53) (hleast : -1074 ≤ exponent) (hroom : exponent ≤ 971) :
    IsNormal (.finite .positive mantissa exponent hpos)

/-- The number `number · 2 ^ exponent`, written with fifty-three bits. -/
def scaled (number : Nat) (exponent : Int) : UnpackedFloat :=
  if h : number = 0 then .zero .positive
  else .finite .positive (number * 2 ^ (52 - number.log2)) (exponent - (52 - number.log2 : Nat))
    (Nat.mul_pos (Nat.pos_of_ne_zero h) (Nat.two_pow_pos _))

theorem scaled_zero (exponent : Int) : scaled 0 exponent = .zero .positive := rfl

theorem scaled_of_pos (hpos : 0 < number) (exponent : Int) :
    scaled number exponent =
      .finite .positive (number * 2 ^ (52 - number.log2)) (exponent - (52 - number.log2 : Nat))
        (Nat.mul_pos hpos (Nat.two_pow_pos _)) :=
  dif_neg (Nat.ne_of_gt hpos)

theorem scaled_bounds (hpos : 0 < number) (hbits : number < 2 ^ 53) :
    2 ^ 52 ≤ number * 2 ^ (52 - number.log2) ∧ number * 2 ^ (52 - number.log2) < 2 ^ 53 := by
  have hlog := log2_lt_of_lt (by decide) hbits
  have hne : number * 2 ^ (52 - number.log2) ≠ 0 :=
    Nat.ne_of_gt (Nat.mul_pos hpos (Nat.two_pow_pos _))
  refine (Nat.log2_eq_iff hne).mp ?_
  rw [log2_mul_two_pow hpos]
  omega

theorem isNormal_scaled (hpos : 0 < number) (hbits : number < 2 ^ 53) (hleast : -1022 ≤ exponent)
    (hroom : exponent ≤ 971) : IsNormal (scaled number exponent) := by
  obtain ⟨hlower, hupper⟩ := scaled_bounds hpos hbits
  rw [scaled_of_pos hpos]
  exact .finite hlower hupper (by omega) (by omega)

/-- Places below the point that a number does not need vanish in rounding. -/
theorem roundWithAccuracy_scaled (hpos : 0 < number) (hbits : number < 2 ^ 53)
    (hleast : -1022 ≤ exponent) (count : Nat) (hcount : 52 ≤ number.log2 + count) :
    roundWithAccuracy Format.binary64 .positive (number * 2 ^ count) (exponent - count) .exact =
      scaled number exponent := by
  obtain ⟨hlower, hupper⟩ := scaled_bounds hpos hbits
  have hlog := log2_lt_of_lt (by decide) hbits
  obtain ⟨more, rfl⟩ : ∃ more, count = 52 - number.log2 + more :=
    Nat.exists_eq_add_of_le (by omega)
  have hleast : -1074 ≤ exponent - (52 - number.log2 : Nat) := by omega
  have hround := roundWithAccuracy_exact .positive hlower hupper hleast more
  rw [scaled_of_pos hpos, ← hround, Nat.pow_add, Nat.mul_assoc, Int.natCast_add, Int.sub_sub]

theorem round_scaled (hpos : 0 < number) (hbits : number < 2 ^ 53) (hleast : -1022 ≤ exponent)
    (count : Nat) :
    UnpackedFloat.round Format.binary64 .positive (number * 2 ^ count) (exponent - count) =
      scaled number exponent := by
  have hlog := log2_lt_of_lt (by decide) hbits
  have htarget : targetPlace (number * 2 ^ count) (exponent - count) =
      exponent - (52 - number.log2 : Nat) := by
    rw [targetPlace, log2_mul_two_pow hpos]
    omega
  unfold UnpackedFloat.round decreaseExponent
  rw [targetExponent_eq, htarget]
  dsimp only
  generalize hmore : (exponent - count - (exponent - (52 - number.log2 : Nat))).toNat = more
  rw [Nat.shiftLeft_eq, Nat.mul_assoc, ← Nat.pow_add, Int.sub_sub, ← Int.natCast_add]
  exact roundWithAccuracy_scaled hpos hbits hleast (count + more) (by omega)

/-! ## Packing -/

theorem toNat_stored (hleast : -1074 ≤ exponent) (hroom : exponent ≤ 971) :
    (BitVec.ofNat 11 (exponent + 1075).toNat).toNat = (exponent + 1075).toNat := by
  rw [BitVec.toNat_ofNat, Nat.mod_eq_of_lt (by omega)]

theorem toNat_fraction (hnormal : 2 ^ 52 ≤ mantissa) (hbits : mantissa < 2 ^ 53) :
    2 ^ 52 + (BitVec.ofNat 52 mantissa).toNat = mantissa := by
  rw [BitVec.toNat_ofNat]
  omega

theorem toNat_implicit (hnormal : 2 ^ 52 ≤ mantissa) (hbits : mantissa < 2 ^ 53) :
    (1#1 ++ BitVec.ofNat 52 mantissa).toNat = mantissa := by
  have hone : (1#1).toNat <<< 52 = 2 ^ 52 := rfl
  rw [BitVec.toNat_append, ← Nat.shiftLeft_add_eq_or_of_lt (BitVec.isLt _), hone,
    toNat_fraction hnormal hbits]

theorem pack_normal {hpos : 0 < mantissa} (hnormal : 2 ^ 52 ≤ mantissa)
    (hbits : mantissa < 2 ^ 53) (hroom : exponent ≤ 971) :
    UnpackedFloat.pack Format.binary64 (.finite .positive mantissa exponent hpos) =
      packComponents Format.binary64 .positive (BitVec.ofNat 11 (exponent + 1075).toNat)
        (BitVec.ofNat 52 mantissa) := by
  have hstored : (exponent + Format.binary64.exponentBias +
      Format.binary64.mantissaBitsWithoutImplicit).toNat = (exponent + 1075).toNat := by
    change (exponent + 1023 + 52).toNat = _
    omega
  have hfull : ¬2 ^ 11 ≤ (exponent + 1075).toNat + 1 := by omega
  unfold UnpackedFloat.pack
  simp only [log2_eq_of_normal hnormal hbits, hstored]
  rw [if_neg hfull, if_pos (by decide)]

/-- Packing a number in normal form loses nothing. -/
theorem IsNormal.unpack_pack {x : UnpackedFloat} (h : IsNormal x) :
    (Float.Model.pack x).unpack = x := by
  cases h with
  | @finite mantissa exponent hpos hnormal hbits hleast hroom =>
    have hstored := toNat_stored hleast hroom
    have hfull : BitVec.ofNat 11 (exponent + 1075).toNat ≠ -1#11 := fun hones ↦ by
      rw [hones] at hstored
      change 2047 = _ at hstored
      omega
    have hsubnormal : BitVec.ofNat 11 (exponent + 1075).toNat ≠ 0#11 := fun hzero ↦ by
      rw [hzero] at hstored
      change 0 = _ at hstored
      omega
    change UnpackedFloat.unpack Format.binary64
      (UnpackedFloat.pack Format.binary64 (.finite .positive mantissa exponent hpos)) = _
    rw [pack_normal hnormal hbits hroom]
    unfold UnpackedFloat.unpack
    simp only [unpackExponent_packComponents, unpackMantissa_packComponents,
      unpackSign_packComponents]
    rw [if_neg hfull, if_neg hsubnormal]
    have hplace : ((BitVec.ofNat 11 (exponent + 1075).toNat).toNat : Int) -
        (Format.binary64.exponentBias + Format.binary64.mantissaBitsWithoutImplicit) =
          exponent := by
      rw [hstored]
      change ((exponent + 1075).toNat : Int) - (1023 + 52) = exponent
      omega
    simp only [UnpackedFloat.finite.injEq]
    exact ⟨rfl, toNat_implicit hnormal hbits, hplace⟩

theorem unpack_pack_zero (sign : Sign) : (Float.Model.pack (.zero sign)).unpack = .zero sign :=
  unpack_packedZero

/-- The double of a number. -/
def double (x : UnpackedFloat) : Float := .ofModel (.pack x)

theorem bits_double {hpos : 0 < mantissa} (hnormal : 2 ^ 52 ≤ mantissa)
    (hbits : mantissa < 2 ^ 53) (hleast : -1074 ≤ exponent) (hroom : exponent ≤ 971) :
    2 ^ 52 + bits (double (.finite .positive mantissa exponent hpos)) =
      (exponent + 1075).toNat * 2 ^ 52 + mantissa := by
  have hfraction := toNat_fraction hnormal hbits
  change 2 ^ 52 + (UnpackedFloat.pack Format.binary64
    (.finite .positive mantissa exponent hpos)).toNat = _
  rw [pack_normal hnormal hbits hroom]
  change 2 ^ 52 + (0#1 ++ BitVec.ofNat 11 (exponent + 1075).toNat ++
    BitVec.ofNat 52 mantissa).toNat = _
  rw [BitVec.toNat_append, ← Nat.shiftLeft_add_eq_or_of_lt (BitVec.isLt _), Nat.shiftLeft_eq,
    BitVec.toNat_append, toNat_stored hleast hroom]
  simp only [BitVec.toNat_ofNat, Nat.zero_mod, Nat.zero_shiftLeft, Nat.zero_or] at hfraction ⊢
  omega

theorem magnitude_double {hpos : 0 < mantissa} (hnormal : 2 ^ 52 ≤ mantissa)
    (hbits : mantissa < 2 ^ 53) (hleast : -1074 ≤ exponent) (hroom : exponent ≤ 971) :
    magnitude (double (.finite .positive mantissa exponent hpos)) = ⟨mantissa, exponent⟩ := by
  have hdouble := @bits_double mantissa exponent hpos hnormal hbits hleast hroom
  have hplaces : twoPow 52 = 2 ^ 52 := rfl
  have hstored : storedExponent (double (.finite .positive mantissa exponent hpos)) =
      (exponent + 1075).toNat := by
    have hspread : twoPow 11 = 2 ^ 11 := rfl
    rw [storedExponent, hplaces, hspread]
    omega
  have hfraction : 2 ^ 52 + fraction (double (.finite .positive mantissa exponent hpos)) =
      mantissa := by
    rw [fraction, hplaces]
    omega
  rw [magnitude, hstored, if_neg (by omega), hplaces, hfraction]
  congr 1
  omega

theorem isNegative_double {hpos : 0 < mantissa} (hnormal : 2 ^ 52 ≤ mantissa)
    (hbits : mantissa < 2 ^ 53) (hleast : -1074 ≤ exponent) (hroom : exponent ≤ 971) :
    isNegative (double (.finite .positive mantissa exponent hpos)) = false := by
  have hdouble := @bits_double mantissa exponent hpos hnormal hbits hleast hroom
  have hplaces : twoPow 63 = 2 ^ 63 := rfl
  rw [isNegative, hplaces, decide_eq_false_iff_not]
  omega

theorem saturating_double {hpos : 0 < mantissa} (hnormal : 2 ^ 52 ≤ mantissa)
    (hbits : mantissa < 2 ^ 53) (hleast : -1074 ≤ exponent) (hroom : exponent ≤ 971)
    (round : Dyadic → Nat) :
    saturating round (double (.finite .positive mantissa exponent hpos)) =
      min countLimit (round ⟨mantissa, exponent⟩) := by
  have hunpack := (IsNormal.finite hnormal hbits hleast hroom : IsNormal
    (.finite .positive mantissa exponent hpos)).unpack_pack
  have hfinite : (double (.finite .positive mantissa exponent hpos)).isFinite = true := by
    change (Float.Model.pack _).unpack.isFinite = true
    rw [hunpack]
    rfl
  rw [saturating, isNaN_of_isFinite hfinite, isInf_of_isFinite hfinite,
    isNegative_double hnormal hbits hleast hroom, magnitude_double hnormal hbits hleast hroom]
  rfl

/-! ## Operations on numbers that fit -/

variable {first second : Nat}

theorem log2_mul_bounds (hfirst : 0 < first) (hsecond : 0 < second) :
    first.log2 + second.log2 ≤ (first * second).log2 ∧
      (first * second).log2 ≤ first.log2 + second.log2 + 1 := by
  have hne : first * second ≠ 0 := Nat.ne_of_gt (Nat.mul_pos hfirst hsecond)
  constructor
  · rw [Nat.le_log2 hne, Nat.pow_add]
    exact Nat.mul_le_mul (Nat.log2_self_le (Nat.ne_of_gt hfirst))
      (Nat.log2_self_le (Nat.ne_of_gt hsecond))
  · refine Nat.le_of_lt_succ (log2_lt_of_lt (by omega) ?_)
    calc
      first * second < 2 ^ (first.log2 + 1) * 2 ^ (second.log2 + 1) :=
        Nat.mul_lt_mul'' Nat.lt_log2_self Nat.lt_log2_self
      _ = 2 ^ (first.log2 + second.log2 + 1 + 1) := by
        rw [← Nat.pow_add]
        congr 1
        omega

theorem mul_scaled {power power' : Int} (hbits : first * second < 2 ^ 53)
    (hleast : -1022 ≤ power + power') :
    UnpackedFloat.mul Format.binary64 (scaled first power) (scaled second power') =
      scaled (first * second) (power + power') := by
  rcases Nat.eq_zero_or_pos first with rfl | hfirst
  · rcases Nat.eq_zero_or_pos second with rfl | hsecond
    · rfl
    · rw [Nat.zero_mul, scaled_of_pos hsecond]
      rfl
  rcases Nat.eq_zero_or_pos second with rfl | hsecond
  · rw [Nat.mul_zero, scaled_of_pos hfirst]
    rfl
  have hlog := (log2_mul_bounds hfirst hsecond).1
  have hplaces : power - (52 - first.log2 : Nat) + (power' - (52 - second.log2 : Nat)) =
      power + power' - (52 - first.log2 + (52 - second.log2) : Nat) := by omega
  rw [scaled_of_pos hfirst, scaled_of_pos hsecond]
  change roundWithAccuracy Format.binary64 .positive _ _ .exact = _
  rw [hplaces, Nat.mul_mul_mul_comm, ← Nat.pow_add]
  exact roundWithAccuracy_scaled (Nat.mul_pos hfirst hsecond) hbits hleast _ (by omega)

theorem normalize_scaled (hbits : number < 2 ^ 53) (hleast : -1022 ≤ exponent) (count : Nat) :
    UnpackedFloat.normalize Format.binary64 ((number * 2 ^ count : Nat) : Int) (exponent - count)
      .positive = scaled number exponent := by
  unfold UnpackedFloat.normalize
  rcases Nat.eq_zero_or_pos number with rfl | hpos
  · rw [Nat.zero_mul]
    rfl
  · have hmantissa : 0 < number * 2 ^ count := Nat.mul_pos hpos (Nat.two_pow_pos _)
    rw [Int.compare_eq_gt.mpr (by omega)]
    exact round_scaled hpos hbits hleast count

theorem add_scaled (hbits : first + second < 2 ^ 53) (hleast : -1022 ≤ exponent) :
    UnpackedFloat.add Format.binary64 (scaled first exponent) (scaled second exponent) =
      scaled (first + second) exponent := by
  rcases Nat.eq_zero_or_pos first with rfl | hfirst
  · rcases Nat.eq_zero_or_pos second with rfl | hsecond
    · rfl
    · rw [Nat.zero_add, scaled_of_pos hsecond]
      rfl
  rcases Nat.eq_zero_or_pos second with rfl | hsecond
  · rw [Nat.add_zero, scaled_of_pos hfirst]
    rfl
  have hlog := log2_lt_of_lt (by decide) (Nat.lt_of_le_of_lt (Nat.le_add_right _ _) hbits)
  have hlog' := log2_lt_of_lt (by decide) (Nat.lt_of_le_of_lt (Nat.le_add_left _ _) hbits)
  rw [scaled_of_pos hfirst, scaled_of_pos hsecond]
  unfold UnpackedFloat.add decreaseExponent
  dsimp only
  -- both summands are written with the places that the one with more of them has
  generalize hcount : max (52 - first.log2) (52 - second.log2) = count
  have hlow : min (exponent - (52 - first.log2 : Nat)) (exponent - (52 - second.log2 : Nat)) =
      exponent - count := by omega
  have hshift : (exponent - (52 - first.log2 : Nat) - (exponent - count)).toNat =
      count - (52 - first.log2) := by omega
  have hshift' : (exponent - (52 - second.log2 : Nat) - (exponent - count)).toNat =
      count - (52 - second.log2) := by omega
  have hplaces : 52 - first.log2 + (count - (52 - first.log2)) = count := by omega
  have hplaces' : 52 - second.log2 + (count - (52 - second.log2)) = count := by omega
  rw [hlow, hshift, hshift', Nat.shiftLeft_eq, Nat.shiftLeft_eq, Nat.mul_assoc, Nat.mul_assoc,
    ← Nat.pow_add, ← Nat.pow_add, hplaces, hplaces', ← normalize_scaled hbits hleast count,
    Nat.add_mul]
  rfl

theorem sub_scaled_self (number : Nat) (exponent : Int) :
    UnpackedFloat.sub Format.binary64 (scaled number exponent) (scaled number exponent) =
      .zero .positive := by
  rcases Nat.eq_zero_or_pos number with rfl | hpos
  · rfl
  · rw [scaled_of_pos hpos]
    unfold UnpackedFloat.sub
    dsimp only
    rw [Int.sub_self]
    rfl

end PushBench.Binary64
