import Mathlib.Data.EReal.Basic
import PushBench.Proofs.Number.Rounding

/-!
# The order of doubles

Doubles that are no NaN compare as the numbers that they stand for, with an infinity beyond all
numbers at either end. Rounding keeps this order, so that greater divisors never have greater
quotients.
-/

namespace PushBench.Binary64

open Float.Model Float.Model.UnpackedFloat

variable {x y z : Float} {sign sign' : Sign} {mantissa mantissa' : Nat} {exponent exponent' : Int}
  {number number' : ℚ}

/-! ## Comparing significands -/

/-- What a sign, a significand and an exponent stand for. -/
def signedValue : Sign → Nat → Int → ℚ
  | .positive, mantissa, exponent => mantissa * 2 ^ exponent
  | .negative, mantissa, exponent => -(mantissa * 2 ^ exponent)

theorem value_eq_signedValue (x : Float) :
    value x = signedValue (signOf x) (magnitude x).significand (magnitude x).exponent := by
  rw [value, signOf]
  cases isNegative x <;> simp [signedValue]

/-- A number with a greater exponent is greater, whatever the significands are. -/
theorem IsCanonical.lt_of_exponent_lt (h : IsCanonical mantissa exponent)
    (h' : IsCanonical mantissa' exponent') (hlt : exponent < exponent') :
    (mantissa : ℚ) * 2 ^ exponent < mantissa' * 2 ^ exponent' := by
  have hleast := h.least
  have hnormal : 2 ^ 52 ≤ mantissa' := h'.normal.resolve_left (by omega)
  have hbits : (mantissa : ℚ) < 2 ^ 53 := by exact_mod_cast h.bits
  have hlong : (2 : ℚ) ^ 52 ≤ mantissa' := by exact_mod_cast hnormal
  have hpos : (0 : ℚ) < 2 ^ exponent := by positivity
  calc
    (mantissa : ℚ) * 2 ^ exponent < 2 ^ 53 * 2 ^ exponent := mul_lt_mul_of_pos_right hbits hpos
    _ = 2 ^ 52 * 2 ^ (exponent + 1) := by rw [zpow_add_one₀ two_ne_zero]; ring
    _ ≤ 2 ^ 52 * 2 ^ exponent' :=
      mul_le_mul_of_nonneg_left (zpow_le_zpow_right₀ one_le_two hlt) (by positivity)
    _ ≤ mantissa' * 2 ^ exponent' := mul_le_mul_of_nonneg_right hlong (by positivity)

theorem compare_map {α β : Type} [LinearOrder α] [LinearOrder β] {f : α → β} (hf : StrictMono f)
    (first second : α) : compare (f first) (f second) = compare first second := by
  rw [← cmp_eq_compare, ← cmp_eq_compare, hf.cmp_map_eq]

/-- Exponents are compared first, and significands if the exponents are the same. -/
theorem IsCanonical.compare_eq (h : IsCanonical mantissa exponent)
    (h' : IsCanonical mantissa' exponent') :
    (compare exponent exponent').then (compare mantissa mantissa') =
      compare ((mantissa : ℚ) * 2 ^ exponent) (mantissa' * 2 ^ exponent') := by
  rcases lt_trichotomy exponent exponent' with hlt | rfl | hgt
  · rw [compare_lt_iff_lt.mpr hlt, compare_lt_iff_lt.mpr (h.lt_of_exponent_lt h' hlt)]
    rfl
  · have hmono : StrictMono fun count : Nat ↦ (count : ℚ) * 2 ^ exponent := fun count count' hlt ↦
      mul_lt_mul_of_pos_right (Nat.cast_lt.mpr hlt) (by positivity)
    rw [compare_eq_iff_eq.mpr (rfl : exponent = exponent)]
    exact (compare_map hmono mantissa mantissa').symm
  · rw [compare_gt_iff_gt.mpr hgt, compare_gt_iff_gt.mpr (h'.lt_of_exponent_lt h hgt)]
    rfl

theorem swap_compare (number number' : ℚ) :
    (compare number number').swap = compare (-number) (-number') := by
  have hanti : StrictAnti fun number : ℚ ↦ -number := fun _ _ ↦ neg_lt_neg
  rw [← cmp_eq_compare, ← cmp_eq_compare, cmp_swap]
  exact (hanti.cmp_map_eq number number').symm

/-- Two finite doubles compare as what they stand for. -/
theorem compare_unpacked (h : IsCanonical mantissa exponent)
    (h' : IsCanonical mantissa' exponent') :
    UnpackedFloat.compare (unpacked sign mantissa exponent) (unpacked sign' mantissa' exponent') =
      some (compare (signedValue sign mantissa exponent)
        (signedValue sign' mantissa' exponent')) := by
  have hpos {count : Nat} (hcount : count ≠ 0) (place : Int) : (0 : ℚ) < count * 2 ^ place := by
    positivity
  unfold unpacked
  by_cases hzero : mantissa = 0 <;> by_cases hzero' : mantissa' = 0
  · rw [dif_pos hzero, dif_pos hzero']
    subst hzero hzero'
    cases sign <;> cases sign' <;> simp [signedValue, UnpackedFloat.compare]
  · rw [dif_pos hzero, dif_neg hzero']
    subst hzero
    have hother := hpos hzero' exponent'
    have hzero : signedValue sign 0 exponent = 0 := by cases sign <;> simp [signedValue]
    rw [hzero]
    cases sign' with
    | positive => exact congrArg some (compare_lt_iff_lt.mpr hother).symm
    | negative => exact congrArg some (compare_gt_iff_gt.mpr (neg_neg_of_pos hother)).symm
  · rw [dif_neg hzero, dif_pos hzero']
    subst hzero'
    have hother := hpos hzero exponent
    have hzero' : signedValue sign' 0 exponent' = 0 := by cases sign' <;> simp [signedValue]
    rw [hzero']
    cases sign with
    | positive => exact congrArg some (compare_gt_iff_gt.mpr hother).symm
    | negative => exact congrArg some (compare_lt_iff_lt.mpr (neg_neg_of_pos hother)).symm
  · rw [dif_neg hzero, dif_neg hzero']
    have hfirst := hpos hzero exponent
    have hsecond := hpos hzero' exponent'
    cases sign <;> cases sign' <;> refine congrArg some ?_
    · rw [h.compare_eq h', swap_compare]
      rfl
    · exact (compare_lt_iff_lt.mpr ((neg_neg_of_pos hfirst).trans hsecond)).symm
    · exact (compare_gt_iff_gt.mpr ((neg_neg_of_pos hsecond).trans hfirst)).symm
    · exact h.compare_eq h'

/-! ## Places on the line -/

/-- Where a double that is no NaN stands: at its value, or beyond all numbers. -/
noncomputable def place (x : Float) : EReal :=
  if x.isFinite then ((value x : ℝ) : EReal) else if isNegative x then ⊥ else ⊤

theorem place_of_isFinite (h : x.isFinite = true) : place x = (value x : ℝ) := if_pos h

theorem place_of_infinite (h : x.isFinite = false) :
    place x = if isNegative x then ⊥ else ⊤ := by
  rw [place, h, if_neg Bool.false_ne_true]

theorem place_le_place_iff (hx : x.isFinite = true) (hy : y.isFinite = true) :
    place x ≤ place y ↔ value x ≤ value y := by
  rw [place_of_isFinite hx, place_of_isFinite hy, EReal.coe_le_coe_iff, Rat.cast_le]

theorem compare_coe_rat (number number' : ℚ) :
    compare ((number : ℝ) : EReal) (number' : ℝ) = compare number number' :=
  compare_map (fun _ _ hlt ↦ EReal.coe_lt_coe_iff.mpr (Rat.cast_lt.mpr hlt)) number number'

/-- An infinity compares with a finite double as it does with a number. -/
theorem compare_infinity (sign sign' : Sign) (mantissa : Nat) (exponent : Int) :
    UnpackedFloat.compare (.infinity sign) (unpacked sign' mantissa exponent) =
      some (match sign with | .negative => .lt | .positive => .gt) := by
  unfold unpacked
  cases sign <;> split <;> rfl

theorem infinity_compare (sign sign' : Sign) (mantissa : Nat) (exponent : Int) :
    UnpackedFloat.compare (unpacked sign' mantissa exponent) (.infinity sign) =
      some (match sign with | .negative => .gt | .positive => .lt) := by
  unfold unpacked
  cases sign <;> cases sign' <;> split <;> rfl

/-- Doubles that are no NaN compare as their places do. -/
theorem compare_unpack (hx : x.isNaN = false) (hy : y.isNaN = false) :
    UnpackedFloat.compare x.toModel.unpack y.toModel.unpack =
      some (compare (place x) (place y)) := by
  cases hfinite : x.isFinite <;> cases hfinite' : y.isFinite
  · rw [unpack_eq_infinity hfinite hx, unpack_eq_infinity hfinite' hy, place_of_infinite hfinite,
      place_of_infinite hfinite', signOf, signOf]
    cases isNegative x <;> cases isNegative y <;> refine congrArg some ?_
    · exact (compare_eq_iff_eq.mpr rfl).symm
    · exact (compare_gt_iff_gt.mpr bot_lt_top).symm
    · exact (compare_lt_iff_lt.mpr bot_lt_top).symm
    · exact (compare_eq_iff_eq.mpr rfl).symm
  · rw [unpack_eq_infinity hfinite hx, unpack_eq hfinite', compare_infinity,
      place_of_infinite hfinite, place_of_isFinite hfinite', signOf]
    cases isNegative x <;> refine congrArg some ?_
    · exact (compare_gt_iff_gt.mpr (EReal.coe_lt_top _)).symm
    · exact (compare_lt_iff_lt.mpr (EReal.bot_lt_coe _)).symm
  · rw [unpack_eq hfinite, unpack_eq_infinity hfinite' hy, infinity_compare,
      place_of_isFinite hfinite, place_of_infinite hfinite', signOf]
    cases isNegative y <;> refine congrArg some ?_
    · exact (compare_lt_iff_lt.mpr (EReal.coe_lt_top _)).symm
    · exact (compare_gt_iff_gt.mpr (EReal.bot_lt_coe _)).symm
  · rw [unpack_eq hfinite, unpack_eq hfinite', place_of_isFinite hfinite,
      place_of_isFinite hfinite',
      compare_unpacked (isCanonical_magnitude hfinite) (isCanonical_magnitude hfinite'),
      ← value_eq_signedValue, ← value_eq_signedValue, compare_coe_rat]

theorem isNaN_eq_false_of_compare {ordering : Ordering}
    (h : UnpackedFloat.compare x.toModel.unpack y.toModel.unpack = some ordering) :
    x.isNaN = false ∧ y.isNaN = false := by
  change x.toModel.unpack.isNaN = false ∧ y.toModel.unpack.isNaN = false
  generalize x.toModel.unpack = first at h ⊢
  generalize y.toModel.unpack = second at h ⊢
  cases first <;> cases second <;> simp_all [UnpackedFloat.compare, UnpackedFloat.isNaN]

theorem lt_iff_place (hx : x.isNaN = false) (hy : y.isNaN = false) : x < y ↔ place x < place y := by
  rw [lt_iff, UnpackedFloat.lt, compare_unpack hx hy, ← compare_lt_iff_lt]
  simp

theorem le_iff_place (hx : x.isNaN = false) (hy : y.isNaN = false) : x ≤ y ↔ place x ≤ place y := by
  rw [le_iff, UnpackedFloat.le, compare_unpack hx hy, ← not_lt, ← compare_gt_iff_gt]
  cases compare (place x) (place y) <;> decide

theorem not_le_iff (hx : x.isNaN = false) (hy : y.isNaN = false) : ¬x ≤ y ↔ y < x := by
  rw [le_iff_place hx hy, lt_iff_place hy hx, not_le]

theorem isNaN_eq_false_of_lt (h : x < y) : x.isNaN = false ∧ y.isNaN = false := by
  have hcompare := lt_iff.mp h
  rw [UnpackedFloat.lt, beq_iff_eq] at hcompare
  exact isNaN_eq_false_of_compare hcompare

theorem isNaN_eq_false_of_le (h : x ≤ y) : x.isNaN = false ∧ y.isNaN = false := by
  have hcompare := le_iff.mp h
  rw [UnpackedFloat.le, Option.any_eq_true] at hcompare
  obtain ⟨ordering, hcompare, -⟩ := hcompare
  exact isNaN_eq_false_of_compare hcompare

theorem lt_le_trans (h : x < y) (hle : y ≤ z) : x < z := by
  obtain ⟨hx, hy⟩ := isNaN_eq_false_of_lt h
  have hz := (isNaN_eq_false_of_le hle).2
  rw [lt_iff_place hx hy] at h
  rw [le_iff_place hy hz] at hle
  rw [lt_iff_place hx hz]
  exact h.trans_le hle

theorem not_lt_of_lt (h : x < y) : ¬y < x := by
  obtain ⟨hx, hy⟩ := isNaN_eq_false_of_lt h
  rw [lt_iff_place hx hy] at h
  rw [lt_iff_place hy hx]
  exact lt_asymm h

theorem place_zero : place 0.0 = 0 := by
  rw [place_of_isFinite isFinite_zero, value_zero]
  simp

theorem zero_lt_iff (hx : x.isFinite = true) : 0.0 < x ↔ 0 < value x := by
  rw [lt_iff_place (isNaN_of_isFinite isFinite_zero) (isNaN_of_isFinite hx), place_zero,
    place_of_isFinite hx]
  exact_mod_cast Iff.rfl

theorem zero_le_iff (hx : x.isFinite = true) : 0.0 ≤ x ↔ 0 ≤ value x := by
  rw [le_iff_place (isNaN_of_isFinite isFinite_zero) (isNaN_of_isFinite hx), place_zero,
    place_of_isFinite hx]
  exact_mod_cast Iff.rfl

theorem zero_lt_iff_place (hx : x.isNaN = false) : 0.0 < x ↔ 0 < place x := by
  rw [lt_iff_place (isNaN_of_isFinite isFinite_zero) hx, place_zero]

/-- There is one double for zero that has a sign. -/
theorem eq_neg_zero (hsign : isNegative x = true) (hvalue : value x = 0) : x = -0.0 := by
  have hsignificand := value_eq_zero_iff.mp hvalue
  have hstored : storedExponent x = 0 ∧ fraction x = 0 := by
    have hplaces : twoPow 52 = 2 ^ 52 := rfl
    rw [magnitude, hplaces] at hsignificand
    split at hsignificand
    next hzero => exact ⟨hzero, hsignificand⟩
    next => exact absurd hsignificand (by dsimp only; omega)
  have hbits : bits x = 2 ^ 63 := by
    have hlt : bits x < 2 ^ 64 := x.toBits.toNat_lt
    have hle : 2 ^ 63 ≤ bits x := of_decide_eq_true hsign
    have hexponent : bits x / 2 ^ 52 % 2 ^ 11 = 0 := hstored.1
    have hfraction : bits x % 2 ^ 52 = 0 := hstored.2
    omega
  have hzero : bits (-0.0) = 2 ^ 63 := by decide +kernel
  exact Float.toBits_inj.mp (UInt64.toNat_inj.mp (hbits.trans hzero.symm))

theorem isNegative_eq_false (hx : x.isFinite = true) (hnonneg : 0.0 ≤ x) (hne : x ≠ -0.0) :
    isNegative x = false := by
  rcases (value_nonneg_iff x).mp ((zero_le_iff hx).mp hnonneg) with hsign | hvalue
  · exact hsign
  · by_contra hnegative
    exact hne (eq_neg_zero (eq_true_of_ne_false hnegative) hvalue)

theorem place_lt_top (hx : x.isFinite = true) : place x < ⊤ := by
  rw [place_of_isFinite hx]
  exact EReal.coe_lt_top _

/-- Of the doubles above zero only infinity is not finite. -/
theorem isFinite_of_zero_lt (hpos : 0.0 < x) (hlt : place x < ⊤) : x.isFinite = true := by
  rw [zero_lt_iff_place (isNaN_eq_false_of_lt hpos).2] at hpos
  cases hx : x.isFinite with
  | true => rfl
  | false =>
    rw [place_of_infinite hx] at hpos hlt
    split at hpos
    next => exact absurd hpos not_lt_bot
    next hsign =>
      rw [if_neg hsign] at hlt
      exact absurd hlt (lt_irrefl _)

/-- Finite doubles have at most a thousand and twenty-four binary digits before the point. -/
theorem value_lt_two_zpow (hx : x.isFinite = true) : value x < 2 ^ (1024 : ℤ) := by
  have hcanonical := isCanonical_magnitude hx
  have hbits : ((magnitude x).significand : ℚ) < 2 ^ 53 := by exact_mod_cast hcanonical.bits
  have hle : value x ≤ (magnitude x).significand * 2 ^ (magnitude x).exponent := by
    have hmagnitude : (0 : ℚ) ≤ (magnitude x).significand * 2 ^ (magnitude x).exponent := by
      positivity
    rw [value]
    split <;> linarith
  calc
    value x ≤ (magnitude x).significand * 2 ^ (magnitude x).exponent := hle
    _ < 2 ^ 53 * 2 ^ (magnitude x).exponent := mul_lt_mul_of_pos_right hbits (by positivity)
    _ ≤ 2 ^ 53 * 2 ^ (971 : ℤ) :=
      mul_le_mul_of_nonneg_left (zpow_le_zpow_right₀ one_le_two hcanonical.room) (by positivity)
    _ = 2 ^ (1024 : ℤ) := by
      rw [← zpow_natCast (2 : ℚ) 53, ← zpow_add₀ two_ne_zero]
      rfl

/-! ## Rounding -/

theorem IsNearest.place_eq_bot (h : IsNearest number x) (hle : number ≤ -overflow) :
    place x = ⊥ := by
  have hpos := overflow_pos
  have hinfinite : x.isFinite = false := by
    rw [← Bool.not_eq_true, h.isFinite_iff, not_lt, abs_of_neg (by linarith)]
    linarith
  rw [place_of_infinite hinfinite, if_pos ((h.isNegative_iff hinfinite).mpr (by linarith))]

theorem IsNearest.place_eq_top (h : IsNearest number x) (hle : overflow ≤ number) :
    place x = ⊤ := by
  have hpos := overflow_pos
  have hinfinite : x.isFinite = false := by
    rw [← Bool.not_eq_true, h.isFinite_iff, not_lt, abs_of_pos (by linarith)]
    exact hle
  rw [place_of_infinite hinfinite, if_neg]
  rw [h.isNegative_iff hinfinite]
  linarith

/-- A number that is nearer to the greater of two others is past their middle. -/
theorem middle_le_of_abs_sub_le {near far : ℚ} (h : |number - near| ≤ |number - far|)
    (hlt : far < near) : far + near ≤ 2 * number := by
  by_contra hshort
  have hnear : |number - far| < near - number := abs_lt.mpr ⟨by linarith, by linarith⟩
  have hfar : near - number ≤ |number - near| := by
    rw [abs_sub_comm]
    exact le_abs_self _
  linarith

theorem IsNearest.value_le_value (h : IsNearest number x) (h' : IsNearest number' y)
    (hx : x.isFinite = true) (hy : y.isFinite = true) (hle : number ≤ number') :
    value x ≤ value y := by
  rcases hle.eq_or_lt with rfl | hlt
  · exact (h.value_eq h' hx).le
  · by_contra hgt
    rw [not_le] at hgt
    -- the lesser number would be past the middle, and the greater one short of it
    have hpast := middle_le_of_abs_sub_le (h.le hx hy) hgt
    have hshort : -value x + -value y ≤ 2 * -number' := by
      refine middle_le_of_abs_sub_le ?_ (neg_lt_neg hgt)
      rw [abs_neg_sub, abs_neg_sub, neg_neg, neg_neg]
      exact h'.le hy hx
    linarith

/-- The nearest doubles of numbers are in the order of the numbers. -/
theorem IsNearest.place_le (h : IsNearest number x) (h' : IsNearest number' y)
    (hle : number ≤ number') : place x ≤ place y := by
  rcases le_or_gt number (-overflow) with hlow | hlow
  · rw [h.place_eq_bot hlow]
    exact bot_le
  rcases le_or_gt overflow number' with hhigh | hhigh
  · rw [h'.place_eq_top hhigh]
    exact le_top
  have hx := h.isFinite_iff.mpr (abs_lt.mpr ⟨hlow, hle.trans_lt hhigh⟩)
  have hy := h'.isFinite_iff.mpr (abs_lt.mpr ⟨hlow.trans_le hle, hhigh⟩)
  exact (place_le_place_iff hx hy).mpr (h.value_le_value h' hx hy hle)

theorem IsNearest.zero_le_place (h : IsNearest number x) (hnonneg : 0 ≤ number) : 0 ≤ place x := by
  rw [← place_zero]
  exact (isNearest_zero isFinite_zero value_zero).place_le h hnonneg

/-! ## Quotients -/

/-- The quotient of a finite double that is not below zero by a finite one above zero is the double
nearest to the exact quotient. -/
theorem isNearest_div_of_pos (hx : x.isFinite = true) (hnonneg : 0 ≤ value x)
    (hy : y.isFinite = true) (hpos : 0 < value y) : IsNearest (value x / value y) (x / y) := by
  change IsNearest _ (double (UnpackedFloat.div Format.binary64 x.toModel.unpack y.toModel.unpack))
  rcases unpack_cases_of_nonneg hy hpos.le with ⟨sign, hdivisor⟩ | ⟨_, _, _, hdivisor⟩
  · rw [value_of_unpack_zero hdivisor] at hpos
    exact absurd hpos (lt_irrefl 0)
  rcases unpack_cases_of_nonneg hx hnonneg with ⟨sign, hunpack⟩ | ⟨_, _, _, hunpack⟩
  · rw [hunpack, hdivisor, value_of_unpack_zero hunpack, zero_div]
    exact isNearest_zero_of_unpack (unpack_pack_zero _)
  · rw [hunpack, hdivisor, value_of_unpack hunpack, value_of_unpack hdivisor]
    exact isNearest_div_finite

/-- A finite double by an infinite one is zero. -/
theorem isNearest_div_infinite (hx : x.isFinite = true) (hy : y.isFinite = false)
    (hnan : y.isNaN = false) : IsNearest 0 (x / y) := by
  have hunpack : ∃ sign, (x / y).toModel.unpack = .zero sign := by
    change ∃ sign, (Float.Model.pack (UnpackedFloat.div Format.binary64 x.toModel.unpack
      y.toModel.unpack)).unpack = .zero sign
    rw [unpack_eq hx, unpack_eq_infinity hy hnan]
    unfold unpacked
    split <;> exact ⟨_, unpack_pack_zero _⟩
  obtain ⟨sign, hunpack⟩ := hunpack
  exact isNearest_zero_of_unpack hunpack

/-- What a quotient is nearest to, also if the divisor is infinite. -/
theorem isNearest_div_of_zero_lt (hx : x.isFinite = true) (hnonneg : 0 ≤ value x)
    (hpos : 0.0 < y) : IsNearest (if y.isFinite then value x / value y else 0) (x / y) := by
  cases hy : y.isFinite with
  | true => exact isNearest_div_of_pos hx hnonneg hy ((zero_lt_iff hy).mp hpos)
  | false => exact isNearest_div_infinite hx hy (isNaN_eq_false_of_lt hpos).2

/-- A greater divisor has no greater quotient. -/
theorem div_le_div_of_le (hx : x.isFinite = true) (hnonneg : 0 ≤ value x) (hpos : 0.0 < y)
    (hle : y ≤ z) (hpos' : 0.0 < z) : x / z ≤ x / y := by
  have hgreater := isNearest_div_of_zero_lt hx hnonneg hpos
  have hlesser := isNearest_div_of_zero_lt hx hnonneg hpos'
  rw [le_iff_place hlesser.isNaN_eq hgreater.isNaN_eq]
  refine hlesser.place_le hgreater ?_
  cases hz : z.isFinite with
  | false =>
    rw [if_neg Bool.false_ne_true]
    split
    next hy => exact div_nonneg hnonneg ((zero_lt_iff hy).mp hpos).le
    next => exact le_rfl
  | true =>
    rw [le_iff_place (isNaN_eq_false_of_lt hpos).2 (isNaN_of_isFinite hz)] at hle
    have hy : y.isFinite = true := isFinite_of_zero_lt hpos (hle.trans_lt (place_lt_top hz))
    have hvalue := (zero_lt_iff hy).mp hpos
    rw [if_pos hy, if_pos rfl]
    exact div_le_div_of_nonneg_left hnonneg hvalue ((place_le_place_iff hy hz).mp hle)

end PushBench.Binary64
