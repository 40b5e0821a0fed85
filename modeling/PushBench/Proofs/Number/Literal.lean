import PushBench.Number.Literal
import PushBench.Proofs.Number.Digits
import PushBench.Proofs.Number.Nearest

/-!
# Spelled numbers

A decimal of any length is read as the double nearest to it, and so is a plain spelling, which has
an optional sign, digits with at most one point among them, and nothing else.
-/

namespace PushBench

/-! ## Sizes of decimals -/

namespace Decimal

/-- The number that a decimal is. -/
def value (x : Decimal) : ℚ := x.digits * 10 ^ x.exponent

theorem one_le_length (number : Nat) : 1 ≤ length number := Nat.length_toDigits_pos

theorem lt_ten_pow_length (number : Nat) : number < 10 ^ length number :=
  (Nat.length_toDigits_le_iff (by decide) (one_le_length number)).mp le_rfl

theorem ten_pow_le {number : Nat} (hnumber : number ≠ 0) : 10 ^ (length number - 1) ≤ number := by
  have hlength := one_le_length number
  by_cases hone : length number = 1
  · rw [hone]
    omega
  · by_contra hlt
    have hshort := (Nat.length_toDigits_le_iff (by decide) (by omega)).mpr (not_le.mp hlt)
    change length number ≤ length number - 1 at hshort
    omega

variable {x : Decimal}

theorem value_nonneg (x : Decimal) : 0 ≤ x.value := by
  unfold value
  positivity

theorem value_lt (x : Decimal) : x.value < 10 ^ (x.exponent + length x.digits) := by
  have hdigits : (x.digits : ℚ) < 10 ^ length x.digits := by
    exact_mod_cast lt_ten_pow_length x.digits
  rw [value, zpow_add₀ (by norm_num), zpow_natCast, mul_comm]
  exact mul_lt_mul_of_pos_left hdigits (by positivity)

theorem le_value (hdigits : x.digits ≠ 0) :
    10 ^ (x.exponent + length x.digits - 1) ≤ x.value := by
  have hlength := one_le_length x.digits
  have hlower : (10 : ℚ) ^ (length x.digits - 1) ≤ x.digits := by
    exact_mod_cast ten_pow_le hdigits
  have hexponent : x.exponent + length x.digits - 1 = x.exponent + (length x.digits - 1 : Nat) := by
    omega
  rw [value, hexponent, zpow_add₀ (by norm_num), zpow_natCast, mul_comm]
  exact mul_le_mul_of_nonneg_right hlower (by positivity)

end Decimal

namespace Binary64

open Float.Model Float.Model.UnpackedFloat

/-- Four hundred decimal digits are more than all binary places that doubles have. -/
theorem two_zpow_le_ten_zpow : (2 : ℚ) ^ (1300 : ℤ) ≤ 10 ^ (400 : ℤ) := by
  have hstep : (2 : ℚ) ^ 13 ≤ 10 ^ 4 := by norm_num
  calc
    (2 : ℚ) ^ (1300 : ℤ) = (2 ^ 13) ^ 100 := by rw [← pow_mul]; rfl
    _ ≤ (10 ^ 4) ^ 100 := pow_le_pow_left₀ (by norm_num) hstep 100
    _ = 10 ^ (400 : ℤ) := by rw [← pow_mul]; rfl

theorem isNearest_infinity {x : Decimal} (hdigits : x.digits ≠ 0)
    (hlarge : 400 < x.exponent + (Decimal.length x.digits : Int)) :
    IsNearest x.value infinity := by
  refine isNearest_of_unpack_eq (@overflow_le _ 972 ?_ le_rfl) ?_
  · calc
      (2 : ℚ) ^ (972 + 52 : ℤ) ≤ 2 ^ (1300 : ℤ) := zpow_le_zpow_right₀ one_le_two (by decide)
      _ ≤ 10 ^ (400 : ℤ) := two_zpow_le_ten_zpow
      _ ≤ 10 ^ (x.exponent + Decimal.length x.digits - 1) :=
        zpow_le_zpow_right₀ (by norm_num) (by omega)
      _ ≤ x.value := Decimal.le_value hdigits
  · rfl

theorem isNearest_zero_of_lt {x : Decimal}
    (hsmall : x.exponent + (Decimal.length x.digits : Int) < -400) : IsNearest x.value 0.0 := by
  have hnonneg := x.value_nonneg
  have hvalue : x.value < 2 ^ (-1300 : ℤ) := calc
    x.value < 10 ^ (x.exponent + Decimal.length x.digits) := x.value_lt
    _ ≤ 10 ^ (-400 : ℤ) := zpow_le_zpow_right₀ (by norm_num) hsmall.le
    _ ≤ 2 ^ (-1300 : ℤ) := by
      rw [zpow_neg, zpow_neg]
      exact inv_anti₀ (by positivity) two_zpow_le_ten_zpow
  have hhalf : x.value < 2 ^ (-1075 : ℤ) :=
    hvalue.trans_le (zpow_le_zpow_right₀ one_le_two (by decide))
  have hunit : (2 : ℚ) ^ (-1074 : ℤ) = 2 * 2 ^ (-1075 : ℤ) :=
    zpow_one_add₀ two_ne_zero (-1075)
  have hpos : (0 : ℚ) < 2 ^ (-1075 : ℤ) := by positivity
  -- less than half of the least place is nothing
  have hnear : |x.value / 2 ^ (-1074 : ℤ) - (0 : Nat)| < 1 / 2 := by
    rw [Nat.cast_zero, sub_zero, abs_of_nonneg (by positivity), hunit, div_lt_iff₀ (by positivity)]
    linarith
  have hrounded : IsRounded x.value 0 (-1074) :=
    ⟨hnear.le, fun heq ↦ absurd heq hnear.ne, le_rfl, .inl rfl,
      hhalf.trans_le (zpow_le_zpow_right₀ one_le_two (by decide))⟩
  refine hrounded.isNearest_of_value hnonneg (lt_overflow hrounded.lt (by decide))
    isFinite_zero ?_ fun _ ↦ ?_
  · rw [value_zero, Nat.cast_zero, zero_mul]
  · rw [value_eq_zero_iff.mp value_zero]
    exact Even.zero

/-! ## Powers of ten -/

/-- The doubles that are small powers of ten. -/
def powerOfTen (power : Nat) (hpower : power < Float.exactlyRepresentablePowersOfTen.size) :
    Float :=
  Float.exactlyRepresentablePowersOfTen[power]

theorem isPositive_powerOfTen : ∀ power : Fin 23, IsPositive (powerOfTen power.val power.isLt) := by
  decide +kernel

theorem numerator_powerOfTen : ∀ power : Fin 23,
    (magnitude (powerOfTen power.val power.isLt)).numerator =
      10 ^ power.val * (magnitude (powerOfTen power.val power.isLt)).denominator := by
  decide +kernel

theorem IsPositive.value_pos {x : Float} (h : IsPositive x) : 0 < value x := by
  unfold IsPositive at h
  generalize hunpack : x.toModel.unpack = unpacked at h
  cases h with
  | @finite mantissa exponent hpos =>
    rw [value_of_unpack hunpack]
    positivity

theorem value_powerOfTen (power : Fin 23) :
    value (powerOfTen power.val power.isLt) = 10 ^ power.val := by
  have hpos := (isPositive_powerOfTen power).value_pos
  have hequation := numerator_powerOfTen power
  generalize powerOfTen power.val power.isLt = x at *
  have hsign := ((value_nonneg_iff x).mp hpos.le).resolve_right hpos.ne'
  have hdenominator : ((magnitude x).denominator : ℚ) ≠ 0 := by
    exact_mod_cast Nat.ne_of_gt (Nat.two_pow_pos _)
  rw [value_of_not_isNegative hsign, Dyadic.value_eq, hequation, Nat.cast_mul,
    mul_div_cancel_right₀ _ hdenominator, Nat.cast_pow, Nat.cast_ofNat]

/-! ## Decimals -/

/-- Few digits and a small power of ten are doubles, and their product or quotient is rounded. -/
theorem isNearest_ofScientific_of_le {digits power : Nat} (hdigits : digits < 2 ^ 53)
    (hpower : power < 23) (negative : Bool) :
    IsNearest (Decimal.value ⟨digits, if negative then -power else power⟩)
      (Float.ofScientific digits negative power) := by
  have hunpack := unpack_toFloat hdigits
  have hfinite := isFinite_of_unpack_scaled hunpack
  have hvalue : value digits.toUInt64.toFloat = digits := by
    rw [value_of_unpack_scaled hunpack, zpow_zero, mul_one]
  have hnonneg : 0 ≤ value digits.toUInt64.toFloat := by
    rw [hvalue]
    exact Nat.cast_nonneg digits
  have hpositive := isPositive_powerOfTen ⟨power, hpower⟩
  unfold Float.ofScientific
  rw [dif_pos ⟨hdigits, by omega⟩]
  cases negative with
  | true =>
    have hnearest := isNearest_div hfinite hnonneg hpositive
    rw [hvalue, value_powerOfTen] at hnearest
    have hquotient : Decimal.value ⟨digits, -power⟩ = digits / 10 ^ power := by
      rw [Decimal.value, zpow_neg, zpow_natCast, div_eq_mul_inv]
    rw [if_pos rfl, hquotient]
    exact hnearest
  | false =>
    have hnearest := isNearest_mul hfinite hnonneg hpositive
    rw [hvalue, value_powerOfTen] at hnearest
    have hproduct : Decimal.value ⟨digits, power⟩ = digits * 10 ^ power := by
      rw [Decimal.value, zpow_natCast]
    rw [if_neg Bool.false_ne_true, hproduct]
    exact hnearest

/-- Digits that are shifted to the left by as many places as their exponent takes back. -/
theorem isNearest_mul_shiftLeft {x : Decimal} {places : Nat} (hdigits : x.digits ≠ 0)
    (hexponent : 0 ≤ x.exponent) (hplaces : 52 ≤ places) {hpos : 0 < x.digits <<< places}
    {hpower : 0 < 10 ^ x.exponent.toNat} :
    IsNearest x.value
      (double (UnpackedFloat.mul Format.binary64
        (.finite .positive (x.digits <<< places) (-places) hpos)
        (.finite .positive (10 ^ x.exponent.toNat) 0 hpower))) := by
  have hshift : x.digits <<< places = x.digits * 2 ^ places := Nat.shiftLeft_eq _ places
  have hlog : 52 ≤ (x.digits <<< places * 10 ^ x.exponent.toNat).log2 := by
    rw [Nat.le_log2 (Nat.ne_of_gt (Nat.mul_pos hpos hpower)), hshift]
    calc
      2 ^ 52 ≤ 2 ^ places := Nat.pow_le_pow_right (by decide) hplaces
      _ ≤ x.digits * 2 ^ places := Nat.le_mul_of_pos_left _ (Nat.pos_of_ne_zero hdigits)
      _ ≤ x.digits * 2 ^ places * 10 ^ x.exponent.toNat := Nat.le_mul_of_pos_right _ hpower
  have hvalue : x.value = (x.digits <<< places : Nat) * 2 ^ (-places : ℤ) *
      ((10 ^ x.exponent.toNat : Nat) * 2 ^ (0 : ℤ)) := by
    have hpower : (10 : ℚ) ^ x.exponent = 10 ^ x.exponent.toNat := by
      rw [← zpow_natCast, Int.toNat_of_nonneg hexponent]
    rw [Decimal.value, hshift, hpower, zpow_neg, zpow_natCast, zpow_zero]
    push_cast
    field_simp
  rw [hvalue]
  exact isNearest_mul_finite hlog

/-- Other decimals are rounded from their digits and their power of ten as whole numbers. -/
theorem isNearest_double_ofScientific {x : Decimal} (hdigits : x.digits ≠ 0)
    (hlarge : x.exponent + (Decimal.length x.digits : Int) ≤ 400)
    (hsmall : -400 ≤ x.exponent + (Decimal.length x.digits : Int)) :
    IsNearest x.value
      (double (UnpackedFloat.ofScientific Format.binary64 x.digits x.exponent)) := by
  have hlength := Decimal.one_le_length x.digits
  have hlog : Decimal.length x.digits - 1 ≤ x.digits.log2 := by
    rw [Nat.le_log2 hdigits]
    exact (Nat.pow_le_pow_left (by decide) _).trans (Decimal.ten_pow_le hdigits)
  have hexponentBits : Format.binary64.exponentBits = 11 := rfl
  unfold UnpackedFloat.ofScientific
  rw [dif_neg hdigits, hexponentBits, if_neg (by norm_num; omega), if_neg (by norm_num; omega)]
  split
  next hexponent => exact isNearest_mul_shiftLeft hdigits hexponent (by decide)
  next hexponent =>
    have hquotient : x.value =
        x.digits * 2 ^ (0 : ℤ) / ((10 ^ (-x.exponent).toNat : Nat) * 2 ^ (0 : ℤ)) := by
      have hpower : x.exponent = -((-x.exponent).toNat : Int) := by omega
      rw [Decimal.value, hpower, zpow_neg, zpow_natCast, zpow_zero, neg_neg, Int.toNat_natCast]
      push_cast
      rw [mul_one, mul_one, div_eq_mul_inv]
    rw [hquotient]
    exact isNearest_div_finite

theorem isNearest_ofScientific {x : Decimal} (hdigits : x.digits ≠ 0)
    (hlarge : x.exponent + (Decimal.length x.digits : Int) ≤ 400)
    (hsmall : -400 ≤ x.exponent + (Decimal.length x.digits : Int)) :
    IsNearest x.value
      (Float.ofScientific x.digits (decide (x.exponent < 0)) x.exponent.natAbs) := by
  -- up to `10 ^ 22` powers of ten are doubles
  by_cases hshort : x.digits < 2 ^ 53 ∧ x.exponent.natAbs ≤ 22
  · have hnearest := isNearest_ofScientific_of_le hshort.1 (Nat.lt_succ_of_le hshort.2)
      (decide (x.exponent < 0))
    have hx : (⟨x.digits, if decide (x.exponent < 0) then -x.exponent.natAbs
        else x.exponent.natAbs⟩ : Decimal) = x := by
      congr 1
      simp only [decide_eq_true_eq]
      split <;> omega
    rwa [hx] at hnearest
  · have hexponent : (if decide (x.exponent < 0) then Int.negOfNat x.exponent.natAbs
        else Int.ofNat x.exponent.natAbs) = x.exponent := by
      simp only [decide_eq_true_eq, Int.negOfNat_eq, Int.ofNat_eq_natCast]
      split <;> omega
    unfold Float.ofScientific
    rw [dif_neg hshort]
    dsimp only
    rw [hexponent]
    exact isNearest_double_ofScientific hdigits hlarge hsmall

/-- A decimal is read as the double nearest to it. -/
theorem isNearest_toFloat (x : Decimal) : IsNearest x.value x.toFloat := by
  unfold Decimal.toFloat
  dsimp only
  split
  next hzero =>
    rw [Decimal.value, hzero, Nat.cast_zero, zero_mul]
    exact isNearest_zero_of_unpack unpack_zero
  next hdigits =>
    split
    next hlarge => exact isNearest_infinity hdigits hlarge
    next hlarge =>
      split
      next hsmall => exact isNearest_zero_of_lt hsmall
      next hsmall => exact isNearest_ofScientific hdigits (not_lt.mp hlarge) (not_lt.mp hsmall)

end Binary64

/-! ## Spellings -/

namespace Decimal

/-- Digits with at most one point among them spell a decimal. There has to be a digit. -/
inductive Spells : List Char → Decimal → Prop
  | whole {digits : List Char} (hdigits : AreDigits digits) : Spells digits ⟨ofDigits digits, 0⟩
  | point {whole fraction : List Char} (hdigits : AreDigits (whole ++ fraction)) :
    Spells (whole ++ '.' :: fraction) ⟨ofDigits (whole ++ fraction), -(fraction.length : Int)⟩

variable {text : List Char} {x : Decimal}

theorem ofPoint?_eq_some (h : Spells text x) : ofPoint? text = some x := by
  cases h with
  | whole hdigits =>
    have htake := List.takeWhile_eq_self_iff.mpr hdigits.isDigit
    have hdrop := List.dropWhile_eq_nil_iff.mpr hdigits.isDigit
    unfold ofPoint?
    dsimp only
    rw [htake, hdrop]
    exact if_neg (by simpa using hdigits.ne_nil)
  | @point whole fraction hdigits =>
    have hwhole : ∀ c ∈ whole, c.isDigit = true := fun c hc ↦
      hdigits.isDigit c (List.mem_append_left _ hc)
    have hfraction : fraction.all Char.isDigit = true :=
      List.all_eq_true.mpr fun c hc ↦ hdigits.isDigit c (List.mem_append_right _ hc)
    have hpoint : ¬Char.isDigit '.' = true := by decide
    unfold ofPoint?
    dsimp only
    rw [List.takeWhile_append_of_pos hwhole, List.dropWhile_append_of_pos hwhole,
      List.takeWhile_cons_of_neg hpoint, List.dropWhile_cons_of_neg hpoint, List.append_nil]
    exact if_pos (by rw [hfraction]; simpa using hdigits.ne_nil)

theorem spells_of_ofPoint? (h : ofPoint? text = some x) : Spells text x := by
  have hsplit := @List.takeWhile_append_dropWhile _ Char.isDigit text
  have hwhole := List.all_eq_true.mp (@List.all_takeWhile _ Char.isDigit text)
  unfold ofPoint? at h
  dsimp only at h
  generalize text.takeWhile Char.isDigit = whole at *
  split at h
  next hrest =>
    rw [hrest, List.append_nil] at hsplit
    subst hsplit
    split at h
    next => cases h
    next hsome =>
      cases h
      exact .whole ⟨by simpa using hsome, hwhole⟩
  next fraction hrest =>
    rw [hrest] at hsplit
    subst hsplit
    split at h
    next hdigits =>
      cases h
      simp only [Bool.and_eq_true, Bool.not_eq_true', List.isEmpty_eq_false_iff] at hdigits
      exact .point ⟨hdigits.2, fun c hc ↦
        (List.mem_append.mp hc).elim (hwhole c) (List.all_eq_true.mp hdigits.1 c)⟩
    next => cases h
  next => cases h

/-- What is spelled starts neither with a plus nor with a minus. -/
theorem Spells.head?_ne (h : Spells text x) {c : Char} (hdigit : c.isDigit = false)
    (hpoint : c ≠ '.') : text.head? ≠ some c := by
  have hhead {digits : List Char} (hdigits : AreDigits digits) : digits.head? ≠ some c := by
    intro hc
    rw [hdigits.isDigit c (List.mem_of_mem_head? hc)] at hdigit
    cases hdigit
  cases h with
  | whole hdigits => exact hhead hdigits
  | @point whole fraction hdigits =>
    cases whole with
    | nil => simpa using hpoint.symm
    | cons first whole =>
      have hne := hhead hdigits
      exact hne

end Decimal

namespace Binary64

/-- A plain spelling of a number: a decimal with an optional sign before it. -/
inductive IsNumeral : List Char → ℚ → Prop
  | plain {text : List Char} {x : Decimal} (h : Decimal.Spells text x) : IsNumeral text x.value
  | plus {text : List Char} {x : Decimal} (h : Decimal.Spells text x) :
    IsNumeral ('+' :: text) x.value
  | minus {text : List Char} {x : Decimal} (h : Decimal.Spells text x) :
    IsNumeral ('-' :: text) (-x.value)

variable {text : List Char} {number : ℚ}

/-- A plain spelling is read as the double nearest to its number. -/
theorem readPlain_of_isNumeral (h : IsNumeral text number) :
    ∃ x, readPlain text = some x ∧ IsNearest number x := by
  cases h with
  | @plain text x h =>
    refine ⟨x.toFloat, ?_, isNearest_toFloat x⟩
    have hplus := h.head?_ne (c := '+') rfl (by decide)
    have hminus := h.head?_ne (c := '-') rfl (by decide)
    unfold readPlain signed
    split
    next => exact absurd rfl hminus
    next => exact absurd rfl hplus
    next => simp only [Decimal.ofPoint?_eq_some h, Option.map_some]
  | @plus text x h =>
    refine ⟨x.toFloat, ?_, isNearest_toFloat x⟩
    rw [readPlain, signed, Decimal.ofPoint?_eq_some h, Option.map_some]
  | @minus text x h =>
    refine ⟨-x.toFloat, ?_, (isNearest_toFloat x).neg⟩
    rw [readPlain, signed, Decimal.ofPoint?_eq_some h, Option.map_some, Option.map_some]

/-- Nothing but plain spellings is read. -/
theorem isNumeral_of_readPlain {x : Float} (h : readPlain text = some x) :
    ∃ number, IsNumeral text number ∧ IsNearest number x := by
  unfold readPlain signed at h
  split at h
  next rest =>
    simp only [Option.map_map, Option.map_eq_some_iff] at h
    obtain ⟨decimal, hdecimal, rfl⟩ := h
    exact ⟨_, .minus (Decimal.spells_of_ofPoint? hdecimal), (isNearest_toFloat decimal).neg⟩
  next rest =>
    simp only [Option.map_eq_some_iff] at h
    obtain ⟨decimal, hdecimal, rfl⟩ := h
    exact ⟨_, .plus (Decimal.spells_of_ofPoint? hdecimal), isNearest_toFloat decimal⟩
  next =>
    simp only [Option.map_eq_some_iff] at h
    obtain ⟨decimal, hdecimal, rfl⟩ := h
    exact ⟨_, .plain (Decimal.spells_of_ofPoint? hdecimal), isNearest_toFloat decimal⟩

end Binary64

end PushBench
