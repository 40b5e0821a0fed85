import PushBench.Proofs.Number.Counts

/-!
# The values of doubles

A finite double stands for a number: its sign, and its significand in its last binary place. What is
read off the bits is what the operations on doubles work with, for subnormal doubles too.
-/

namespace PushBench.Binary64

open Float.Model Float.Model.UnpackedFloat

variable {x y : Float} {sign : Sign} {mantissa : Nat} {exponent : Int}

/-- The number that a finite double stands for. -/
def value (x : Float) : ℚ :=
  (if isNegative x then -1 else 1) * (magnitude x).significand * 2 ^ (magnitude x).exponent

/-- The significand and the exponent of a finite double. There are fifty-three bits, or fewer in the
least place that doubles have. -/
structure IsCanonical (mantissa : Nat) (exponent : Int) : Prop where
  bits : mantissa < 2 ^ 53
  normal : exponent = -1074 ∨ 2 ^ 52 ≤ mantissa
  least : -1074 ≤ exponent
  room : exponent ≤ 971

/-- A number with a sign, also if it is zero. -/
def unpacked (sign : Sign) (mantissa : Nat) (exponent : Int) : UnpackedFloat :=
  if h : mantissa = 0 then .zero sign else .finite sign mantissa exponent (Nat.pos_of_ne_zero h)

/-- The sign of a double. -/
def signOf (x : Float) : Sign := if isNegative x then .negative else .positive

/-! ## Bits -/

/-- The bits of a double as operations take them. -/
def word (x : Float) : BitVec Format.binary64.numBits := x.toModel.toBits.toBitVec

theorem storedExponent_eq (x : Float) :
    storedExponent x = (unpackExponent (word x)).toNat := by
  rw [unpackExponent_def, BitVec.extractLsb'_toNat]
  rw [Nat.shiftRight_eq_div_pow]
  rfl

theorem fraction_eq (x : Float) :
    fraction x = (unpackMantissa (word x)).toNat := by
  rw [unpackMantissa_def, BitVec.extractLsb'_toNat]
  rfl

theorem signOf_eq (x : Float) :
    signOf x = Sign.ofBitVec (unpackSign (word x)) := by
  have hbits : (unpackSign (word x)).toNat =
      bits x / 2 ^ 63 % 2 ^ 1 := by
    rw [unpackSign_def, BitVec.extractLsb'_toNat, Nat.shiftRight_eq_div_pow]
    rfl
  have hlt : bits x < 2 ^ 64 := x.toBits.toNat_lt
  have hplaces : twoPow 63 = 2 ^ 63 := rfl
  have hpositive : unpackSign (word x) = 0#1 ↔
      ¬2 ^ 63 ≤ bits x := by
    rw [← BitVec.toNat_inj, hbits]
    change bits x / 2 ^ 63 % 2 ^ 1 = 0 ↔ _
    omega
  rw [signOf, isNegative, hplaces, Sign.ofBitVec]
  by_cases hsign : 2 ^ 63 ≤ bits x
  · rw [if_pos (decide_eq_true hsign), if_neg (fun h ↦ hpositive.mp h hsign)]
  · rw [if_neg (by simpa using hsign), if_pos (hpositive.mpr hsign)]

theorem fraction_lt (x : Float) : fraction x < 2 ^ 52 := Nat.mod_lt _ (Nat.two_pow_pos 52)

theorem storedExponent_lt (x : Float) : storedExponent x < 2 ^ 11 :=
  Nat.mod_lt _ (Nat.two_pow_pos 11)

/-- The exponent bits of a finite double are not all set. -/
theorem storedExponent_ne (h : x.isFinite = true) : storedExponent x ≠ 2047 := by
  rw [storedExponent_eq]
  intro hones
  have hfull : unpackExponent (word x) = -1#11 :=
    BitVec.eq_of_toNat_eq hones
  change (UnpackedFloat.unpack Format.binary64 (word x)).isFinite = true at h
  unfold UnpackedFloat.unpack at h
  dsimp only at h
  rw [if_pos hfull] at h
  split at h <;> cases h

theorem isCanonical_magnitude (h : x.isFinite = true) :
    IsCanonical (magnitude x).significand (magnitude x).exponent := by
  have hfraction := fraction_lt x
  have hstored := storedExponent_lt x
  have hne := storedExponent_ne h
  have hplaces : twoPow 52 = 2 ^ 52 := rfl
  unfold magnitude
  rw [hplaces]
  split <;> constructor <;> dsimp only <;> omega

/-- What operations work with is what the bits of a finite double say. -/
theorem unpack_eq (h : x.isFinite = true) :
    x.toModel.unpack =
      unpacked (signOf x) (magnitude x).significand (magnitude x).exponent := by
  have hne : unpackExponent (word x) ≠ -1#11 := by
    intro hfull
    have hstored := storedExponent_eq x
    rw [hfull] at hstored
    exact storedExponent_ne h hstored
  have hzero : unpackExponent (word x) = 0#11 ↔
      storedExponent x = 0 := by
    rw [storedExponent_eq, ← BitVec.toNat_inj]
    rfl
  change UnpackedFloat.unpack Format.binary64 (word x) = _
  unfold UnpackedFloat.unpack
  dsimp only
  rw [if_neg hne, ← signOf_eq, magnitude]
  by_cases hstored : storedExponent x = 0
  · rw [if_pos (hzero.mpr hstored), if_pos hstored]
    by_cases hfraction : unpackMantissa (word x) = 0#52
    · have hnone : fraction x = 0 := by
        rw [fraction_eq, hfraction]
        rfl
      rw [dif_pos hfraction, unpacked, dif_pos hnone]
    · have hsome : fraction x ≠ 0 := by
        rw [fraction_eq]
        exact fun hnone ↦ hfraction (BitVec.eq_of_toNat_eq hnone)
      rw [dif_neg hfraction, unpacked, dif_neg hsome]
      simp only [UnpackedFloat.finite.injEq, true_and]
      refine ⟨(fraction_eq x).symm, ?_⟩
      rw [hzero.mpr hstored]
      rfl
  · have hplaces : (1#1 ++ unpackMantissa (word x)).toNat = twoPow 52 + fraction x := by
      rw [BitVec.toNat_append, ← Nat.shiftLeft_add_eq_or_of_lt (BitVec.isLt _), fraction_eq]
      rfl
    have hsome : twoPow 52 + fraction x ≠ 0 :=
      Nat.ne_of_gt (Nat.add_pos_left (Nat.two_pow_pos 52) _)
    rw [if_neg (fun h ↦ hstored (hzero.mp h)), if_neg hstored, unpacked, dif_neg hsome]
    simp only [UnpackedFloat.finite.injEq, true_and]
    exact ⟨hplaces, by rw [storedExponent_eq]; rfl⟩

/-! ## Packing -/

theorem isFinite_of_storedExponent_ne (h : storedExponent x ≠ 2047) : x.isFinite = true := by
  have hne : unpackExponent (word x) ≠ -1#11 := by
    intro hfull
    rw [storedExponent_eq, hfull] at h
    exact h rfl
  change (UnpackedFloat.unpack Format.binary64 (word x)).isFinite = true
  unfold UnpackedFloat.unpack
  dsimp only
  rw [if_neg hne]
  split
  · split <;> rfl
  · rfl

/-- What is stored for the exponent. -/
def storedFor (mantissa : Nat) (exponent : Int) : Nat :=
  if 2 ^ 52 ≤ mantissa then (exponent + 1075).toNat else 0

theorem IsCanonical.storedFor_lt (h : IsCanonical mantissa exponent) :
    storedFor mantissa exponent < 2047 := by
  have hroom := h.room
  unfold storedFor
  split <;> omega

theorem IsCanonical.pack_eq (h : IsCanonical mantissa exponent) (sign : Sign) :
    UnpackedFloat.pack Format.binary64 (unpacked sign mantissa exponent) =
      packComponents Format.binary64 sign (BitVec.ofNat 11 (storedFor mantissa exponent))
        (BitVec.ofNat 52 mantissa) := by
  have hleast := h.least
  have hroom := h.room
  unfold unpacked
  split
  next hzero => rw [hzero]; rfl
  next hsome =>
    have hstored : (exponent + Format.binary64.exponentBias +
        Format.binary64.mantissaBitsWithoutImplicit).toNat = (exponent + 1075).toNat := by
      change (exponent + 1023 + 52).toNat = _
      omega
    have hfull : ¬2 ^ 11 ≤ (exponent + 1075).toNat + 1 := by omega
    unfold UnpackedFloat.pack
    simp only [hstored]
    rw [if_neg hfull, storedFor]
    by_cases hnormal : 2 ^ 52 ≤ mantissa
    · rw [if_pos hnormal, log2_eq_of_normal hnormal h.bits, if_pos (by decide)]
    · have hlog := log2_lt_of_lt (by decide) (Nat.lt_of_not_le hnormal)
      have hshort : ¬mantissa.log2 + 1 = Format.binary64.mantissaBits := by
        change ¬mantissa.log2 + 1 = 53
        omega
      rw [if_neg hnormal, if_neg hshort]

section Packing

variable (h : IsCanonical mantissa exponent) (sign : Sign)

include h

theorem IsCanonical.storedExponent_double :
    storedExponent (double (unpacked sign mantissa exponent)) = storedFor mantissa exponent := by
  have hlt := h.storedFor_lt
  rw [storedExponent_eq]
  change (unpackExponent (UnpackedFloat.pack Format.binary64
    (unpacked sign mantissa exponent))).toNat = _
  rw [h.pack_eq, unpackExponent_packComponents, BitVec.toNat_ofNat,
    Nat.mod_eq_of_lt (Nat.lt_trans hlt (by decide))]

theorem IsCanonical.isFinite_double :
    (double (unpacked sign mantissa exponent)).isFinite = true := by
  apply isFinite_of_storedExponent_ne
  rw [h.storedExponent_double]
  exact Nat.ne_of_lt h.storedFor_lt

theorem IsCanonical.signOf_double : signOf (double (unpacked sign mantissa exponent)) = sign := by
  rw [signOf_eq]
  change Sign.ofBitVec (unpackSign (UnpackedFloat.pack Format.binary64
    (unpacked sign mantissa exponent))) = _
  rw [h.pack_eq, unpackSign_packComponents, Sign.ofBitVec_toBitVec]

theorem IsCanonical.magnitude_double :
    magnitude (double (unpacked sign mantissa exponent)) = ⟨mantissa, exponent⟩ := by
  have hbits := h.bits
  have hleast := h.least
  have hnormal := h.normal
  have hfraction : fraction (double (unpacked sign mantissa exponent)) = mantissa % 2 ^ 52 := by
    rw [fraction_eq]
    change (unpackMantissa (UnpackedFloat.pack Format.binary64
      (unpacked sign mantissa exponent))).toNat = _
    rw [h.pack_eq, unpackMantissa_packComponents, BitVec.toNat_ofNat]
  have hplaces : twoPow 52 = 2 ^ 52 := rfl
  rw [magnitude, h.storedExponent_double, hfraction, hplaces, storedFor]
  by_cases hlong : 2 ^ 52 ≤ mantissa
  · rw [if_pos hlong, if_neg (by omega)]
    congr 1 <;> omega
  · rw [if_neg hlong, if_pos rfl]
    congr 1 <;> omega

end Packing

/-! ## Signs -/

theorem unpack_pack_infinity (sign : Sign) :
    (Float.Model.pack (.infinity sign)).unpack = .infinity sign := by
  cases sign <;> rfl

/-- A double that is neither finite nor a NaN is infinite. -/
theorem unpack_eq_infinity (hfinite : x.isFinite = false) (hnan : x.isNaN = false) :
    x.toModel.unpack = .infinity (signOf x) := by
  have hfull : unpackExponent (word x) = -1#11 := by
    have hstored : storedExponent x = 2047 := by
      by_contra hne
      rw [isFinite_of_storedExponent_ne hne] at hfinite
      cases hfinite
    rw [storedExponent_eq] at hstored
    exact BitVec.eq_of_toNat_eq hstored
  rw [signOf_eq]
  change (UnpackedFloat.unpack Format.binary64 (word x)).isNaN = false at hnan
  change UnpackedFloat.unpack Format.binary64 (word x) = _
  unfold UnpackedFloat.unpack at hnan ⊢
  dsimp only at hnan ⊢
  rw [if_pos hfull] at hnan ⊢
  split at hnan
  next hzero => rw [if_pos hzero]
  next => cases hnan

theorem neg_unpacked (sign : Sign) (mantissa : Nat) (exponent : Int) :
    (unpacked sign mantissa exponent).neg = unpacked (-sign) mantissa exponent := by
  unfold unpacked
  split <;> rfl

theorem neg_eq_double (h : x.isFinite = true) :
    -x = double (unpacked (-signOf x) (magnitude x).significand (magnitude x).exponent) := by
  change double x.toModel.unpack.neg = _
  rw [unpack_eq h, neg_unpacked]

theorem signOf_neg (h : x.isNaN = false) : signOf (-x) = -signOf x := by
  cases hfinite : x.isFinite with
  | true =>
    rw [neg_eq_double hfinite, (isCanonical_magnitude hfinite).signOf_double]
  | false =>
    have hneg : (-x).toModel.unpack = .infinity (-signOf x) := by
      change (Float.Model.pack x.toModel.unpack.neg).unpack = _
      rw [unpack_eq_infinity hfinite h]
      exact unpack_pack_infinity _
    have hinfinite : (-x).isFinite = false := congrArg UnpackedFloat.isFinite hneg
    have hnan : (-x).isNaN = false := congrArg UnpackedFloat.isNaN hneg
    rw [unpack_eq_infinity hinfinite hnan] at hneg
    exact UnpackedFloat.infinity.inj hneg

theorem isFinite_neg (h : x.isNaN = false) : (-x).isFinite = x.isFinite := by
  cases hfinite : x.isFinite with
  | true =>
    rw [neg_eq_double hfinite]
    exact (isCanonical_magnitude hfinite).isFinite_double _
  | false =>
    change (Float.Model.pack x.toModel.unpack.neg).unpack.isFinite = false
    rw [unpack_eq_infinity hfinite h]
    exact congrArg UnpackedFloat.isFinite (unpack_pack_infinity _)

theorem isNaN_neg (h : x.isNaN = false) : (-x).isNaN = false := by
  cases hfinite : x.isFinite with
  | true =>
    apply isNaN_of_isFinite
    rw [isFinite_neg h, hfinite]
  | false =>
    change (Float.Model.pack x.toModel.unpack.neg).unpack.isNaN = false
    rw [unpack_eq_infinity hfinite h]
    exact congrArg UnpackedFloat.isNaN (unpack_pack_infinity _)

theorem isNegative_eq_true_iff : isNegative x = true ↔ signOf x = .negative := by
  cases hsign : isNegative x <;> simp [signOf, hsign]

theorem isNegative_neg (h : x.isNaN = false) : isNegative (-x) = !isNegative x := by
  rw [Bool.eq_iff_iff, isNegative_eq_true_iff, signOf_neg h, signOf]
  cases isNegative x
  · exact iff_of_true rfl rfl
  · exact iff_of_false nofun nofun

theorem magnitude_neg (h : x.isFinite = true) : magnitude (-x) = magnitude x := by
  rw [neg_eq_double h]
  exact (isCanonical_magnitude h).magnitude_double _

/-! ## Values -/

theorem value_neg (h : x.isFinite = true) : value (-x) = -value x := by
  rw [value, value, magnitude_neg h, isNegative_neg (isNaN_of_isFinite h)]
  cases isNegative x <;> simp

theorem value_of_not_isNegative (h : isNegative x = false) :
    value x = (magnitude x).significand * 2 ^ (magnitude x).exponent := by
  rw [value, h, if_neg Bool.false_ne_true, one_mul]

theorem value_double (h : IsCanonical mantissa exponent) :
    value (double (unpacked .positive mantissa exponent)) = mantissa * 2 ^ exponent := by
  have hsign : isNegative (double (unpacked .positive mantissa exponent)) = false := by
    have hpositive := h.signOf_double .positive
    cases hnegative : isNegative (double (unpacked .positive mantissa exponent)) with
    | false => rfl
    | true =>
      rw [signOf, hnegative] at hpositive
      cases hpositive
  rw [value_of_not_isNegative hsign, h.magnitude_double]

theorem value_nonneg_iff (x : Float) :
    0 ≤ value x ↔ isNegative x = false ∨ value x = 0 := by
  have hmagnitude : (0 : ℚ) ≤ (magnitude x).significand * 2 ^ (magnitude x).exponent := by
    positivity
  cases hsign : isNegative x with
  | false => simpa [value_of_not_isNegative hsign] using hmagnitude
  | true =>
    have hvalue : value x = -((magnitude x).significand * 2 ^ (magnitude x).exponent) := by
      rw [value, hsign, if_pos rfl]
      ring
    rw [hvalue]
    constructor
    · intro hnonneg
      exact .inr (by linarith)
    · rintro (hfalse | hzero)
      · cases hfalse
      · exact hzero.ge

theorem lt_iff : x < y ↔ x.toModel.unpack.lt y.toModel.unpack = true :=
  decide_eq_true_iff

/-- A finite double is below zero if its value is. -/
theorem lt_zero_iff (h : x.isFinite = true) : x < 0.0 ↔ value x < 0 := by
  have hpower : (0 : ℚ) < 2 ^ (magnitude x).exponent := by positivity
  rw [lt_iff, unpack_zero, unpack_eq h, value, signOf, unpacked]
  by_cases hzero : (magnitude x).significand = 0
  · rw [dif_pos hzero, hzero]
    simp [UnpackedFloat.lt, UnpackedFloat.compare]
  · have hsome : (0 : ℚ) < (magnitude x).significand := by positivity
    rw [dif_neg hzero]
    cases isNegative x
    · simp [UnpackedFloat.lt, UnpackedFloat.compare]
      positivity
    · simp [UnpackedFloat.lt, UnpackedFloat.compare]
      positivity

theorem Dyadic.value_eq (number : Dyadic) :
    (number.significand : ℚ) * 2 ^ number.exponent = number.numerator / number.denominator := by
  have hpower (count : Nat) : ((twoPow count : Nat) : ℚ) = 2 ^ count := by
    simp [twoPow]
  rw [Dyadic.numerator, Dyadic.denominator, Nat.cast_mul, hpower, hpower, mul_div_assoc]
  congr 1
  rw [eq_div_iff (by positivity), ← zpow_natCast, ← zpow_natCast, ← zpow_add₀ two_ne_zero]
  congr 1
  omega

/-- The count below a double that is not below zero. -/
theorem floor_eq (h : x.isFinite = true) (hnonneg : 0 ≤ value x) :
    floor x = min countLimit ⌊value x⌋₊ := by
  rw [floor, saturating, isNaN_of_isFinite h, isInf_of_isFinite h, Bool.false_or]
  rcases (value_nonneg_iff x).mp hnonneg with hsign | hzero
  · rw [hsign, value_of_not_isNegative hsign, Dyadic.value_eq, Nat.floor_div_eq_div]
    rfl
  · cases hsign : isNegative x with
    | true => simp [hzero]
    | false =>
      rw [value_of_not_isNegative hsign, Dyadic.value_eq, Nat.floor_div_eq_div]
      rfl

end PushBench.Binary64
