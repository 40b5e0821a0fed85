import PushBench.Proofs.Number.Value

/-!
# Nearest doubles

Rounding yields the finite double that is nearest to a number, the one with the even significand if
two are as near, and infinity for numbers that are too large. Products and quotients of doubles are
the doubles nearest to the exact products and quotients, in subnormal places too.
-/

namespace PushBench.Binary64

open Float.Model Float.Model.UnpackedFloat

variable {number : ℚ} {x y : Float} {mantissa rounded : Nat} {exponent place : Int}
  {accuracy : Accuracy}

/-- Halfway between the greatest finite double and the next power of two. -/
def overflow : ℚ := 2 ^ 1024 - 2 ^ 970

/-- A double is the nearest one to a number. From `overflow` on it is infinite. Below, no finite
double is nearer, and if another one is as near, the significand is even. -/
structure IsNearest (number : ℚ) (x : Float) : Prop where
  isNaN_eq : x.isNaN = false
  isFinite_iff : x.isFinite = true ↔ |number| < overflow
  isNegative_iff : x.isFinite = false → (isNegative x = true ↔ number < 0)
  le {y : Float} : x.isFinite = true → y.isFinite = true →
    |number - value x| ≤ |number - value y|
  even {y : Float} : x.isFinite = true → y.isFinite = true →
    |number - value x| = |number - value y| → value y ≠ value x → Even (magnitude x).significand

theorem overflow_eq : overflow = (2 ^ 53 - 1 / 2) * 2 ^ (971 : ℤ) := by
  have hplace : (2 : ℚ) ^ (971 : ℤ) = 2 * 2 ^ 970 := (zpow_natCast 2 971).trans (pow_succ' 2 970)
  have htotal : (2 : ℚ) ^ 1024 = 2 ^ 54 * 2 ^ 970 := pow_add 2 54 970
  rw [overflow, hplace, htotal]
  generalize (2 : ℚ) ^ 970 = half
  ring

theorem overflow_pos : 0 < overflow := by
  rw [overflow_eq]
  positivity

theorem abs_neg_sub (number other : ℚ) : |-number - other| = |number - -other| := by
  rw [← abs_neg]
  congr 1
  ring

theorem IsNearest.neg (h : IsNearest number x) : IsNearest (-number) (-x) where
  isNaN_eq := isNaN_neg h.isNaN_eq
  isFinite_iff := by rw [isFinite_neg h.isNaN_eq, abs_neg, h.isFinite_iff]
  isNegative_iff hinfinite := by
    rw [isFinite_neg h.isNaN_eq] at hinfinite
    have hne : number ≠ 0 := by
      rintro rfl
      rw [h.isFinite_iff.mpr (by simpa using overflow_pos)] at hinfinite
      cases hinfinite
    rw [isNegative_neg h.isNaN_eq, Bool.not_eq_true', ← Bool.not_eq_true,
      h.isNegative_iff hinfinite, neg_lt_zero, not_lt]
    exact ⟨fun hnonneg ↦ lt_of_le_of_ne hnonneg hne.symm, le_of_lt⟩
  le {y} hx hy := by
    rw [isFinite_neg h.isNaN_eq] at hx
    rw [abs_neg_sub, abs_neg_sub, value_neg hx, neg_neg, ← value_neg hy]
    exact h.le hx ((isFinite_neg (isNaN_of_isFinite hy)).trans hy)
  even {y} hx hy heq hne := by
    rw [isFinite_neg h.isNaN_eq] at hx
    rw [abs_neg_sub, abs_neg_sub, value_neg hx, neg_neg, ← value_neg hy] at heq
    rw [magnitude_neg hx]
    refine h.even hx ((isFinite_neg (isNaN_of_isFinite hy)).trans hy) heq fun h ↦ hne ?_
    rw [value_neg hx, ← h, value_neg hy, neg_neg]

/-! ## Whole numbers -/

/-- Where a number lies from a whole one on, as an accuracy tells. -/
def Locates (number : ℚ) (mantissa : Nat) : Accuracy → Prop
  | .exact => number = mantissa
  | .inexact .lt => mantissa < number ∧ number < mantissa + 1 / 2
  | .inexact .eq => number = mantissa + 1 / 2
  | .inexact .gt => mantissa + 1 / 2 < number ∧ number < mantissa + 1

theorem accuracy_ofMantissaAndAccuracy (mantissa : Nat) (accuracy : Accuracy) :
    (ExtendedMantissa.ofMantissaAndAccuracy mantissa accuracy).accuracy = accuracy := by
  rcases accuracy with _ | (_ | _ | _) <;> rfl

/-- Dropping a bit halves the number. -/
theorem locates_shiftRightOne {m : ExtendedMantissa} (h : Locates number m.mantissa m.accuracy) :
    Locates (number / 2) m.shiftRightOne.mantissa m.shiftRightOne.accuracy := by
  obtain ⟨mantissa, roundBit, stickyBit⟩ := m
  obtain ⟨half, rfl | rfl⟩ := Nat.even_or_odd' mantissa
  · have hhalf : 2 * half / 2 = half := by omega
    cases roundBit <;> cases stickyBit <;>
      simp only [ExtendedMantissa.accuracy, Locates, ExtendedMantissa.shiftRightOne,
        Nat.mul_mod_right, hhalf, Nat.cast_mul, Nat.cast_ofNat, bne_self_eq_false,
        Bool.or_false, Bool.or_true] at h ⊢
    · linarith
    · exact ⟨by linarith, by linarith⟩
    · exact ⟨by linarith, by linarith⟩
    · exact ⟨by linarith, by linarith⟩
  · have hhalf : (2 * half + 1) / 2 = half := by omega
    have hodd : ((2 * half + 1) % 2 != 0) = true := by simp
    cases roundBit <;> cases stickyBit <;>
      simp only [ExtendedMantissa.accuracy, Locates, ExtendedMantissa.shiftRightOne,
        hodd, hhalf, Nat.cast_add, Nat.cast_mul, Nat.cast_ofNat, Nat.cast_one, Bool.or_false,
        Bool.or_true] at h ⊢
    · linarith
    · exact ⟨by linarith, by linarith⟩
    · exact ⟨by linarith, by linarith⟩
    · exact ⟨by linarith, by linarith⟩

theorem locates_shiftRight {m : ExtendedMantissa} (h : Locates number m.mantissa m.accuracy)
    (count : Nat) :
    Locates (number / 2 ^ count) (m >>> count).mantissa (m >>> count).accuracy := by
  induction count with
  | zero => simpa [HShiftRight.hShiftRight, Nat.repeat] using h
  | succ count ih =>
    rw [pow_succ, ← div_div]
    exact locates_shiftRightOne ih

/-- A mantissa is rounded to the nearest whole number, to an even one if two are as near. -/
theorem abs_sub_roundToNearestEven_le (h : Locates number mantissa accuracy) :
    |number - accuracy.roundToNearestEven mantissa| ≤ 1 / 2 ∧
      (|number - accuracy.roundToNearestEven mantissa| = 1 / 2 →
        Even (accuracy.roundToNearestEven mantissa)) := by
  -- strictly nearer than half leaves no tie
  have hnear {whole : Nat} (hlower : (whole : ℚ) - 1 / 2 < number)
      (hupper : number < whole + 1 / 2) :
      |number - whole| ≤ 1 / 2 ∧ (|number - whole| = 1 / 2 → Even whole) := by
    have hlt : |number - whole| < 1 / 2 := abs_lt.mpr ⟨by linarith, by linarith⟩
    exact ⟨hlt.le, fun heq ↦ absurd heq hlt.ne⟩
  rcases accuracy with _ | (_ | _ | _) <;>
    simp only [Locates, Accuracy.roundToNearestEven] at h ⊢
  · exact hnear (by linarith) (by linarith)
  · exact hnear (by linarith [h.1]) (by linarith [h.2])
  · rcases Nat.mod_two_eq_zero_or_one mantissa with heven | hodd
    · rw [heven, Nat.add_zero, h, add_sub_cancel_left]
      exact ⟨by norm_num, fun _ ↦ Nat.even_iff.mpr heven⟩
    · rw [hodd, h, Nat.cast_add, Nat.cast_one]
      exact ⟨by norm_num [abs_of_neg], fun _ ↦ Nat.even_iff.mpr (by omega)⟩
  · exact hnear (by push_cast; linarith [h.1]) (by push_cast; linarith [h.2])

/-- The nearest whole number is nearest among all whole numbers, and only ties are as near. -/
theorem abs_sub_le_abs_sub_int (h : |number - rounded| ≤ 1 / 2) (whole : ℤ) :
    |number - rounded| ≤ |number - whole| ∧
      (|number - rounded| = |number - whole| → (whole : ℚ) ≠ rounded →
        |number - rounded| = 1 / 2) := by
  by_cases heq : whole = rounded
  · rw [heq, Int.cast_natCast]
    exact ⟨le_rfl, fun _ hne ↦ absurd rfl hne⟩
  · have hapart : (1 : ℚ) ≤ |(whole : ℚ) - rounded| := by
      have hone : (1 : ℤ) ≤ |whole - rounded| := Int.one_le_abs (sub_ne_zero.mpr heq)
      exact_mod_cast hone
    have htriangle := abs_sub_le (whole : ℚ) number rounded
    rw [abs_sub_comm (whole : ℚ) number] at htriangle
    exact ⟨by linarith, fun hsame _ ↦ by linarith⟩

/-! ## Places -/

/-- A number that is rounded to a whole multiple of a place that doubles have: to the nearest one,
to an even one if two are as near. Fifty-three bits are filled unless the place is the least. -/
structure IsRounded (number : ℚ) (rounded : Nat) (place : Int) : Prop where
  near : |number / 2 ^ place - rounded| ≤ 1 / 2
  even : |number / 2 ^ place - rounded| = 1 / 2 → Even rounded
  least : -1074 ≤ place
  filled : place = -1074 ∨ (2 : ℚ) ^ (place + 52) ≤ number
  lt : number < 2 ^ (place + 53)

/-- Finite doubles are whole multiples of a place, or stay below fifty-three bits of it. -/
theorem exists_multiple_or_lt (hy : y.isFinite = true) (place : Int) :
    (∃ whole : ℤ, value y = whole * 2 ^ place) ∨
      ((magnitude y).exponent < place ∧ value y < 2 ^ (place + 52)) := by
  have hcanonical := isCanonical_magnitude hy
  rw [value]
  generalize (magnitude y).significand = mantissa at *
  generalize (magnitude y).exponent = exponent at *
  rcases le_or_gt place exponent with hplace | hplace
  · obtain ⟨count, hcount⟩ := Int.le.dest hplace
    refine .inl ⟨(if isNegative y then -1 else 1) * mantissa * 2 ^ count, ?_⟩
    rw [← hcount, zpow_add₀ two_ne_zero, zpow_natCast]
    push_cast
    ring
  · refine .inr ⟨hplace, ?_⟩
    have hpower : (2 : ℚ) ^ (53 : ℤ) * 2 ^ exponent ≤ 2 ^ (place + 52) := by
      rw [← zpow_add₀ two_ne_zero]
      exact zpow_le_zpow_right₀ one_le_two (by omega)
    have hbits : (mantissa : ℚ) < 2 ^ (53 : ℤ) := by exact_mod_cast hcanonical.bits
    have hpos : (0 : ℚ) < 2 ^ exponent := by positivity
    have hmagnitude : (mantissa : ℚ) * 2 ^ exponent < 2 ^ (53 : ℤ) * 2 ^ exponent :=
      mul_lt_mul_of_pos_right hbits hpos
    have hnonneg : (0 : ℚ) ≤ mantissa * 2 ^ exponent := by positivity
    split <;> linarith

namespace IsRounded

theorem le_two_pow (h : IsRounded number rounded place) : rounded ≤ 2 ^ 53 := by
  have hlt : number / 2 ^ place < 2 ^ (53 : ℤ) := by
    rw [div_lt_iff₀ (by positivity), ← zpow_add₀ two_ne_zero, add_comm]
    exact h.lt
  have hnear := (abs_le.mp h.near).1
  by_contra hgt
  have hle : (2 : ℚ) ^ (53 : ℤ) + 1 ≤ rounded := by exact_mod_cast not_le.mp hgt
  linarith

theorem two_pow_le (h : IsRounded number rounded place) (hplace : place ≠ -1074) :
    2 ^ 52 ≤ rounded := by
  have hle : 2 ^ (52 : ℤ) ≤ number / 2 ^ place := by
    rw [le_div_iff₀ (by positivity), ← zpow_add₀ two_ne_zero, add_comm]
    exact h.filled.resolve_left hplace
  have hnear := (abs_le.mp h.near).2
  by_contra hlt
  have hshort : (rounded : ℚ) + 1 ≤ 2 ^ (52 : ℤ) := by exact_mod_cast not_le.mp hlt
  linarith

/-- No finite double is nearer than the multiple that a number is rounded to. -/
theorem le (h : IsRounded number rounded place) (hy : y.isFinite = true) :
    |number - rounded * 2 ^ place| ≤ |number - value y| ∧
      (|number - rounded * 2 ^ place| = |number - value y| →
        value y ≠ rounded * 2 ^ place → Even rounded) := by
  have hpos : (0 : ℚ) < 2 ^ place := by positivity
  have hscale (whole : ℚ) :
      |number - whole * 2 ^ place| = |number / 2 ^ place - whole| * 2 ^ place := by
    rw [← abs_of_pos hpos, ← abs_mul, abs_of_pos hpos, sub_mul, div_mul_cancel₀ _ hpos.ne']
  rcases exists_multiple_or_lt hy place with ⟨whole, hwhole⟩ | ⟨hexponent, hlt⟩
  · obtain ⟨hle, htie⟩ := abs_sub_le_abs_sub_int h.near whole
    rw [hwhole, hscale, hscale]
    refine ⟨mul_le_mul_of_nonneg_right hle hpos.le, fun heq hne ↦ h.even ?_⟩
    exact htie (mul_right_cancel₀ hpos.ne' heq) fun hsame ↦ hne (by rw [hsame])
  · -- a double with lower places stays below the least number that fills fifty-three bits
    have hleast := (isCanonical_magnitude hy).least
    have hfilled := h.filled.resolve_left (by omega)
    have hbound := (abs_sub_le_abs_sub_int h.near (2 ^ 52 : ℕ)).1
    have hpower : ((2 ^ 52 : ℕ) : ℚ) * 2 ^ place = 2 ^ (place + 52) := by
      rw [add_comm, zpow_add₀ two_ne_zero]
      norm_num
    have hnearer := mul_le_mul_of_nonneg_right hbound hpos.le
    rw [← hscale, ← hscale, Int.cast_natCast, hpower, abs_of_nonneg (sub_nonneg.mpr hfilled)]
      at hnearer
    have hfar : number - 2 ^ (place + 52) < |number - value y| :=
      lt_of_lt_of_le (by linarith) (le_abs_self _)
    exact ⟨(hnearer.trans_lt hfar).le, fun heq ↦ absurd heq (hnearer.trans_lt hfar).ne⟩

theorem isNearest_of_value (h : IsRounded number rounded place) (hnonneg : 0 ≤ number)
    (hlt : number < overflow) (hx : x.isFinite = true) (hvalue : value x = rounded * 2 ^ place)
    (heven : Even rounded → Even (magnitude x).significand) : IsNearest number x where
  isNaN_eq := isNaN_of_isFinite hx
  isFinite_iff := iff_of_true hx (by rwa [abs_of_nonneg hnonneg])
  isNegative_iff hinfinite := by
    rw [hx] at hinfinite
    cases hinfinite
  le _ hy := by
    rw [hvalue]
    exact (h.le hy).1
  even _ hy heq hne := by
    rw [hvalue] at heq hne
    exact heven ((h.le hy).2 heq hne)

end IsRounded

/-! ## Infinite doubles -/

theorem isNearest_of_unpack_eq (hnumber : overflow ≤ number)
    (hx : x.toModel.unpack = .infinity .positive) : IsNearest number x := by
  have hfinite : x.isFinite = false := congrArg UnpackedFloat.isFinite hx
  have hnan : x.isNaN = false := congrArg UnpackedFloat.isNaN hx
  have hpos : 0 < number := overflow_pos.trans_le hnumber
  have hsign : signOf x = .positive := by
    rw [unpack_eq_infinity hfinite hnan] at hx
    exact UnpackedFloat.infinity.inj hx
  refine ⟨hnan, ?_, fun _ ↦ ?_, fun hx ↦ ?_, fun hx ↦ ?_⟩
  · rw [abs_of_pos hpos, hfinite]
    exact iff_of_false Bool.false_ne_true hnumber.not_gt
  · rw [isNegative_eq_true_iff, hsign]
    exact iff_of_false nofun hpos.not_gt
  · rw [hfinite] at hx
    cases hx
  · rw [hfinite] at hx
    cases hx

/-- Packing gives infinity where there is no room for the exponent. -/
theorem unpack_double_of_lt {hpos : 0 < mantissa} (hexponent : 971 < exponent) (sign : Sign) :
    (double (.finite sign mantissa exponent hpos)).toModel.unpack = .infinity sign := by
  have hfull : 2 ^ 11 ≤ (exponent + Format.binary64.exponentBias +
      Format.binary64.mantissaBitsWithoutImplicit).toNat + 1 := by
    change 2048 ≤ (exponent + 1023 + 52).toNat + 1
    omega
  have hpack : Float.Model.pack (.finite sign mantissa exponent hpos) =
      Float.Model.pack (.infinity sign) := by
    unfold Float.Model.pack UnpackedFloat.pack
    simp only [if_pos hfull]
  change (Float.Model.pack _).unpack = _
  rw [hpack]
  exact unpack_pack_infinity sign

/-! ## Rounding -/

/-- The number `rounded · 2 ^ place`, where a mantissa that was rounded up to the next power of two
takes one more place. -/
def carried (rounded : Nat) (place : Int) : UnpackedFloat :=
  if rounded = 2 ^ 53 then unpacked .positive (2 ^ 52) (place + 1)
  else unpacked .positive rounded place

theorem lt_overflow (hlt : number < 2 ^ (place + 53)) (hplace : place ≤ 970) :
    number < overflow := by
  have hunit : (2 : ℚ) ^ (place + 1) ≤ 2 ^ (971 : ℤ) :=
    zpow_le_zpow_right₀ one_le_two (by omega)
  have hsplit : (2 : ℚ) ^ (place + 53) = 2 ^ 52 * 2 ^ (place + 1) := by
    rw [show place + 53 = 52 + (place + 1) by omega, zpow_add₀ two_ne_zero]
    norm_num
  have hpos : (0 : ℚ) < 2 ^ (place + 1) := by positivity
  rw [overflow_eq]
  generalize (2 : ℚ) ^ (971 : ℤ) = unit at *
  linarith

theorem overflow_le (hle : (2 : ℚ) ^ (place + 52) ≤ number) (hplace : 972 ≤ place) :
    overflow ≤ number := by
  have hunit : (2 : ℚ) ^ (971 : ℤ) ≤ 2 ^ (place - 1) :=
    zpow_le_zpow_right₀ one_le_two (by omega)
  have hsplit : (2 : ℚ) ^ (place + 52) = 2 ^ 53 * 2 ^ (place - 1) := by
    rw [show place + 52 = 53 + (place - 1) by omega, zpow_add₀ two_ne_zero]
    norm_num
  have hpos : (0 : ℚ) < 2 ^ (971 : ℤ) := by positivity
  rw [overflow_eq]
  generalize (2 : ℚ) ^ (971 : ℤ) = unit at *
  linarith

/-- In the greatest place that doubles have, a number is below `overflow` unless it is rounded up to
the next power of two. -/
theorem IsRounded.lt_overflow_iff (h : IsRounded number rounded 971) :
    number < overflow ↔ rounded ≠ 2 ^ 53 := by
  have hle := h.le_two_pow
  have hnear := abs_le.mp h.near
  have heven := h.even
  rw [overflow_eq, ← div_lt_iff₀ (by positivity)]
  generalize number / 2 ^ (971 : ℤ) = count at *
  constructor
  · rintro hlt rfl
    push_cast at hnear
    linarith [hnear.1]
  · intro hne
    by_contra hge
    have hlast : (rounded : ℚ) ≤ 2 ^ 53 - 1 := by
      have hlt : rounded + 1 ≤ 2 ^ 53 := Nat.lt_of_le_of_ne hle hne
      have hcast : ((rounded + 1 : Nat) : ℚ) ≤ ((2 ^ 53 : Nat) : ℚ) := Nat.cast_le.mpr hlt
      push_cast at hcast
      linarith
    have hrounded : (rounded : ℚ) = 2 ^ 53 - 1 := by linarith [hnear.2]
    have htie : |count - rounded| = 1 / 2 := by
      rw [abs_of_nonneg] <;> linarith [hnear.2]
    have hodd : rounded = 2 ^ 53 - 1 := by
      have hcast : (rounded : ℚ) + 1 = 2 ^ 53 := by linarith
      have hnat : rounded + 1 = 2 ^ 53 := by exact_mod_cast hcast
      omega
    rw [hodd] at heven
    exact absurd (heven (by rw [← hodd]; exact htie)) (by decide)

/-- A number that is rounded up to the next power of two. -/
theorem IsRounded.isNearest_of_carry (h : IsRounded number (2 ^ 53) place) (hnonneg : 0 ≤ number) :
    IsNearest number (double (unpacked .positive (2 ^ 52) (place + 1))) := by
  have hleast := h.least
  rcases le_or_gt place 970 with hplace | hplace
  · have hcanonical : IsCanonical (2 ^ 52) (place + 1) :=
      ⟨by decide, .inr le_rfl, by omega, by omega⟩
    refine h.isNearest_of_value hnonneg (lt_overflow h.lt hplace)
      (hcanonical.isFinite_double _) ?_ fun _ ↦ ?_
    · rw [value_double hcanonical, zpow_add_one₀ two_ne_zero]
      push_cast
      ring
    · rw [hcanonical.magnitude_double]
      exact (by decide : Even (2 ^ 52))
  · refine isNearest_of_unpack_eq ?_ ?_
    · rcases eq_or_lt_of_le (Int.add_one_le_of_lt hplace) with heq | hlt
      · obtain rfl : place = 971 := by omega
        exact not_lt.mp fun hlt ↦ h.lt_overflow_iff.mp hlt rfl
      · exact overflow_le (h.filled.resolve_left (by omega)) (by omega)
    · rw [unpacked, dif_neg (by decide)]
      exact unpack_double_of_lt (by omega) .positive

/-- A number that is rounded to fifty-three bits. -/
theorem IsRounded.isNearest_of_ne (h : IsRounded number rounded place) (hne : rounded ≠ 2 ^ 53)
    (hnonneg : 0 ≤ number) : IsNearest number (double (unpacked .positive rounded place)) := by
  rcases le_or_gt place 971 with hplace | hplace
  · have hcanonical : IsCanonical rounded place := by
      refine ⟨Nat.lt_of_le_of_ne h.le_two_pow hne, ?_, h.least, hplace⟩
      by_cases hlow : place = -1074
      · exact .inl hlow
      · exact .inr (h.two_pow_le hlow)
    refine h.isNearest_of_value hnonneg ?_ (hcanonical.isFinite_double _)
      (value_double hcanonical) fun heven ↦ ?_
    · rcases eq_or_lt_of_le hplace with rfl | hlt
      · exact h.lt_overflow_iff.mpr hne
      · exact lt_overflow h.lt (by omega)
    · rwa [hcanonical.magnitude_double]
  · have hbits := h.two_pow_le (by omega)
    refine isNearest_of_unpack_eq (overflow_le (h.filled.resolve_left (by omega)) (by omega)) ?_
    rw [unpacked, dif_neg (by omega)]
    exact unpack_double_of_lt hplace .positive

/-- What a number is rounded to is packed as the nearest double. -/
theorem IsRounded.isNearest (h : IsRounded number rounded place) (hnonneg : 0 ≤ number) :
    IsNearest number (double (carried rounded place)) := by
  unfold carried
  split
  next hcarry =>
    subst hcarry
    exact h.isNearest_of_carry hnonneg
  next hne => exact h.isNearest_of_ne hne hnonneg

theorem Locates.le (h : Locates number mantissa accuracy) : mantissa ≤ number := by
  rcases accuracy with _ | (_ | _ | _) <;> simp only [Locates] at h <;> linarith

theorem Locates.lt (h : Locates number mantissa accuracy) : number < mantissa + 1 := by
  rcases accuracy with _ | (_ | _ | _) <;> simp only [Locates] at h <;> linarith

/-- A mantissa that is rounded down to nothing. -/
theorem roundWithAccuracy_of_zero {kept : ExtendedMantissa} {sign : Sign}
    (hshift : shiftToTargetExponent Format.binary64 mantissa exponent accuracy = (kept, place))
    (hleast : -1074 ≤ place) (hzero : kept.roundedMantissa = 0) :
    roundWithAccuracy Format.binary64 sign mantissa exponent accuracy = .zero sign := by
  unfold roundWithAccuracy
  rw [hshift]
  dsimp only
  rw [hzero, shift_eq_self (by decide) hleast]
  rfl

/-- Fifty-three bits are filled where the place aimed at is not the least one. -/
theorem two_zpow_le_of_targetPlace (hle : mantissa * 2 ^ exponent ≤ number)
    (hplace : exponent ≤ targetPlace mantissa exponent)
    (hlow : targetPlace mantissa exponent ≠ -1074) :
    2 ^ (targetPlace mantissa exponent + 52) ≤ number := by
  have htotal : targetPlace mantissa exponent + 52 = mantissa.log2 + exponent := by
    unfold targetPlace at *
    omega
  have hsome : mantissa ≠ 0 := by
    rintro rfl
    rw [Nat.log2_zero] at htotal
    omega
  have hlog : (2 : ℚ) ^ mantissa.log2 ≤ mantissa := by
    exact_mod_cast Nat.log2_self_le hsome
  rw [htotal, zpow_add₀ two_ne_zero, zpow_natCast]
  exact (mul_le_mul_of_nonneg_right hlog (by positivity)).trans hle

/-- In the place aimed at there is room for fifty-three bits. -/
theorem lt_two_zpow_targetPlace (hlt : number < (mantissa + 1) * 2 ^ exponent) :
    number < 2 ^ (targetPlace mantissa exponent + 53) := by
  have hlog : (mantissa : ℚ) + 1 ≤ 2 ^ (mantissa.log2 + 1) := by
    exact_mod_cast Nat.lt_log2_self
  calc
    number < (mantissa + 1) * 2 ^ exponent := hlt
    _ ≤ 2 ^ (mantissa.log2 + 1) * 2 ^ exponent :=
      mul_le_mul_of_nonneg_right hlog (by positivity)
    _ = 2 ^ ((mantissa.log2 + 1 : Nat) + exponent) := by
      rw [zpow_add₀ two_ne_zero, zpow_natCast]
    _ ≤ 2 ^ (targetPlace mantissa exponent + 53) := by
      refine zpow_le_zpow_right₀ one_le_two ?_
      unfold targetPlace
      omega

/-- A mantissa whose places end where they should is rounded in the place aimed at. -/
theorem exists_isRounded (h : Locates (number / 2 ^ exponent) mantissa accuracy)
    (hplace : exponent ≤ targetPlace mantissa exponent) :
    ∃ rounded place, IsRounded number rounded place ∧
      roundWithAccuracy Format.binary64 .positive mantissa exponent accuracy =
        carried rounded place := by
  obtain ⟨count, hcount⟩ := Int.le.dest hplace
  have hshift := @shift_eq mantissa exponent accuracy count (by omega)
  have hlocates : Locates (number / 2 ^ exponent)
      (ExtendedMantissa.ofMantissaAndAccuracy mantissa accuracy).mantissa
      (ExtendedMantissa.ofMantissaAndAccuracy mantissa accuracy).accuracy := by
    rwa [mantissa_ofMantissaAndAccuracy, accuracy_ofMantissaAndAccuracy]
  have hkept := locates_shiftRight hlocates count
  rw [div_div, ← zpow_natCast, ← zpow_add₀ two_ne_zero, hcount] at hkept
  rw [hcount] at hshift
  generalize hkept_eq : ExtendedMantissa.ofMantissaAndAccuracy mantissa accuracy >>> count = kept
    at hkept hshift
  obtain ⟨hnear, heven⟩ := abs_sub_roundToNearestEven_le hkept
  have hpos : (0 : ℚ) < 2 ^ exponent := by positivity
  have hle := (le_div_iff₀ hpos).mp h.le
  have hlt := (div_lt_iff₀ hpos).mp h.lt
  have hrounded : IsRounded number kept.roundedMantissa (targetPlace mantissa exponent) := by
    refine ⟨hnear, heven, le_max_right _ _, ?_, lt_two_zpow_targetPlace hlt⟩
    by_cases hlow : targetPlace mantissa exponent = -1074
    · exact .inl hlow
    · exact .inr (two_zpow_le_of_targetPlace hle hplace hlow)
  refine ⟨_, _, hrounded, ?_⟩
  unfold carried
  split
  next hcarry =>
    rw [roundWithAccuracy_of_eq hshift hrounded.least hcarry, unpacked, dif_neg (by decide)]
  next hne =>
    have hbits := Nat.lt_of_le_of_ne hrounded.le_two_pow hne
    rcases Nat.eq_zero_or_pos kept.roundedMantissa with hzero | hpos
    · rw [roundWithAccuracy_of_zero hshift hrounded.least hzero, unpacked, dif_pos hzero]
    · rw [roundWithAccuracy_of_lt hshift hrounded.least hpos hbits, unpacked,
        dif_neg (Nat.ne_of_gt hpos)]

theorem isNearest_roundWithAccuracy (h : Locates (number / 2 ^ exponent) mantissa accuracy)
    (hplace : exponent ≤ targetPlace mantissa exponent) :
    IsNearest number
      (double (roundWithAccuracy Format.binary64 .positive mantissa exponent accuracy)) := by
  obtain ⟨rounded, place, hrounded, heq⟩ := exists_isRounded h hplace
  have hpos : (0 : ℚ) < 2 ^ exponent := by positivity
  have hnonneg : 0 ≤ number / 2 ^ exponent := (Nat.cast_nonneg mantissa).trans h.le
  rw [heq]
  exact hrounded.isNearest (by rwa [le_div_iff₀ hpos, zero_mul] at hnonneg)

/-! ## Products -/

variable {mantissa' : Nat} {exponent' : Int} {hpos : 0 < mantissa} {hpos' : 0 < mantissa'}

theorem isNearest_mul_finite (hlog : 52 ≤ (mantissa * mantissa').log2) :
    IsNearest (mantissa * 2 ^ exponent * (mantissa' * 2 ^ exponent'))
      (double (UnpackedFloat.mul Format.binary64 (.finite .positive mantissa exponent hpos)
        (.finite .positive mantissa' exponent' hpos'))) := by
  have hproduct : (mantissa : ℚ) * 2 ^ exponent * (mantissa' * 2 ^ exponent') =
      (mantissa * mantissa' : Nat) * 2 ^ (exponent + exponent') := by
    rw [zpow_add₀ two_ne_zero]
    push_cast
    ring
  refine isNearest_roundWithAccuracy ?_ ?_
  · rw [hproduct, mul_div_cancel_right₀ _ (by positivity)]
    exact rfl
  · unfold targetPlace
    omega

theorem isNearest_zero (hx : x.isFinite = true) (hvalue : value x = 0) : IsNearest 0 x where
  isNaN_eq := isNaN_of_isFinite hx
  isFinite_iff := iff_of_true hx (by simpa using overflow_pos)
  isNegative_iff hinfinite := by
    rw [hx] at hinfinite
    cases hinfinite
  le _ _ := by simp [hvalue]
  even _ _ heq hne := by
    rw [hvalue] at heq hne
    exact absurd (by simpa using heq.symm) hne

theorem value_of_unpack (h : x.toModel.unpack = .finite .positive mantissa exponent hpos) :
    value x = mantissa * 2 ^ exponent := by
  have hfinite : x.isFinite = true := congrArg UnpackedFloat.isFinite h
  rw [unpack_eq hfinite, unpacked] at h
  split at h
  next => cases h
  next =>
    have hsign : isNegative x = false := by
      rw [← Bool.not_eq_true, isNegative_eq_true_iff]
      intro hnegative
      rw [hnegative] at h
      cases h
    obtain ⟨-, hmantissa, hexponent⟩ := UnpackedFloat.finite.inj h
    rw [value_of_not_isNegative hsign, hmantissa, hexponent]

theorem value_eq_zero_iff : value x = 0 ↔ (magnitude x).significand = 0 := by
  rw [value]
  split <;> simp [zpow_ne_zero]

theorem value_of_unpack_zero {sign : Sign} (h : x.toModel.unpack = .zero sign) : value x = 0 := by
  have hfinite : x.isFinite = true := congrArg UnpackedFloat.isFinite h
  rw [unpack_eq hfinite, unpacked] at h
  split at h
  next hzero => rw [value, hzero, Nat.cast_zero, mul_zero, zero_mul]
  next => cases h

theorem isFinite_zero : (0.0 : Float).isFinite = true := congrArg UnpackedFloat.isFinite unpack_zero

theorem value_zero : value 0.0 = 0 := value_of_unpack_zero unpack_zero

theorem value_of_unpack_scaled {count : Nat} (h : x.toModel.unpack = scaled count exponent) :
    value x = count * 2 ^ exponent := by
  rcases Nat.eq_zero_or_pos count with rfl | hcount
  · rw [value_of_unpack_zero h, Nat.cast_zero, zero_mul]
  · rw [scaled_of_pos hcount] at h
    rw [value_of_unpack h, zpow_sub₀ two_ne_zero, zpow_natCast]
    push_cast
    field_simp

theorem isFinite_of_unpack_scaled {count : Nat} (h : x.toModel.unpack = scaled count exponent) :
    x.isFinite = true := by
  change x.toModel.unpack.isFinite = true
  rw [h]
  unfold scaled
  split <;> rfl

theorem value_ofNat {count : Nat} (hbits : count < 2 ^ 53) : value (Float.ofNat count) = count := by
  rw [value_of_unpack_scaled (unpack_ofNat hbits), zpow_zero, mul_one]

/-- A finite double that is not below zero is zero or positive. -/
theorem unpack_cases_of_nonneg (hx : x.isFinite = true) (hnonneg : 0 ≤ value x) :
    (∃ sign, x.toModel.unpack = .zero sign) ∨
      ∃ mantissa exponent hpos, x.toModel.unpack = .finite .positive mantissa exponent hpos := by
  rw [unpack_eq hx, unpacked]
  by_cases hzero : (magnitude x).significand = 0
  · rw [dif_pos hzero]
    exact .inl ⟨_, rfl⟩
  · have hsign : isNegative x = false :=
      ((value_nonneg_iff x).mp hnonneg).resolve_right fun h ↦ hzero (value_eq_zero_iff.mp h)
    rw [dif_neg hzero, signOf, hsign]
    exact .inr ⟨_, _, _, rfl⟩

theorem isNearest_zero_of_unpack {sign : Sign} (h : x.toModel.unpack = .zero sign) :
    IsNearest 0 x :=
  isNearest_zero (congrArg UnpackedFloat.isFinite h) (value_of_unpack_zero h)

/-- The product of a finite double that is not below zero and a positive one is the double nearest
to the exact product. -/
theorem isNearest_mul (hx : x.isFinite = true) (hnonneg : 0 ≤ value x) (hy : IsPositive y) :
    IsNearest (value x * value y) (x * y) := by
  change IsNearest _ (double (UnpackedFloat.mul Format.binary64 x.toModel.unpack y.toModel.unpack))
  unfold IsPositive at hy
  generalize hunpack' : y.toModel.unpack = factor at hy
  cases hy with
  | @finite mantissa' exponent' hpos' hnormal =>
    rcases unpack_cases_of_nonneg hx hnonneg with ⟨sign, hunpack⟩ | ⟨_, _, hpos, hunpack⟩
    · rw [hunpack, value_of_unpack_zero hunpack, zero_mul]
      exact isNearest_zero_of_unpack (unpack_pack_zero _)
    · rw [hunpack, value_of_unpack hunpack, value_of_unpack hunpack']
      refine isNearest_mul_finite ?_
      rw [Nat.le_log2 (by positivity)]
      exact hnormal.trans (Nat.le_mul_of_pos_left _ hpos)

/-! ## Quotients -/

/-- A remainder tells where a quotient lies from its whole part on. -/
theorem locates_div {dividend divisor : Nat} (hdivisor : 0 < divisor) :
    Locates ((dividend : ℚ) / divisor) (dividend / divisor)
      (accuracyOfFraction (dividend % divisor) divisor) := by
  have hsplit : (dividend : ℚ) =
      divisor * (dividend / divisor : Nat) + (dividend % divisor : Nat) := by
    exact_mod_cast (Nat.div_add_mod dividend divisor).symm
  have hlt := Nat.mod_lt dividend hdivisor
  have hpos : (0 : ℚ) < divisor := Nat.cast_pos.mpr hdivisor
  generalize dividend / divisor = whole at *
  generalize dividend % divisor = rest at *
  have hquotient : (dividend : ℚ) / divisor = whole + rest / divisor := by
    rw [hsplit]
    field_simp
  rw [hquotient]
  unfold accuracyOfFraction
  split
  next hzero => simp [Locates, hzero]
  next hsome =>
    have hrest : (0 : ℚ) < rest / divisor := div_pos (by positivity) hpos
    have hone : (rest : ℚ) / divisor < 1 := (div_lt_one hpos).mpr (Nat.cast_lt.mpr hlt)
    have hlt_iff : (rest : ℚ) / divisor < 1 / 2 ↔ 2 * rest < divisor := by
      rw [div_lt_div_iff₀ hpos two_pos, one_mul, mul_comm]
      exact_mod_cast Iff.rfl
    have heq_iff : (rest : ℚ) / divisor = 1 / 2 ↔ 2 * rest = divisor := by
      rw [div_eq_div_iff hpos.ne' two_ne_zero, one_mul, mul_comm]
      exact_mod_cast Iff.rfl
    rcases hcompare : compare (2 * rest) divisor with _ | _ | _
    · have hhalf := hlt_iff.mpr (Nat.compare_eq_lt.mp hcompare)
      exact ⟨by linarith, by linarith⟩
    · have hhalf := heq_iff.mpr (Nat.compare_eq_eq.mp hcompare)
      exact congrArg _ hhalf
    · have hgt := Nat.compare_eq_gt.mp hcompare
      have hhalf : (1 : ℚ) / 2 < rest / divisor := by
        refine lt_of_le_of_ne (not_lt.mp fun h ↦ ?_) fun h ↦ ?_
        · exact absurd (hlt_iff.mp h) (by omega)
        · exact absurd (heq_iff.mp h.symm) (by omega)
      exact ⟨by linarith, by linarith⟩

/-- A dividend that is longer by fifty-three bits has a quotient of fifty-three bits. -/
theorem le_log2_quotient {count : Nat} (hdividend : 0 < mantissa) (hdivisor : 0 < mantissa')
    (hcount : mantissa'.log2 + 53 ≤ mantissa.log2 + count) :
    52 ≤ (mantissa * 2 ^ count / mantissa').log2 := by
  have hquotient : 2 ^ 52 ≤ mantissa * 2 ^ count / mantissa' := by
    rw [Nat.le_div_iff_mul_le hdivisor]
    calc
      2 ^ 52 * mantissa' ≤ 2 ^ 52 * 2 ^ (mantissa'.log2 + 1) :=
        Nat.mul_le_mul_left _ (Nat.le_of_lt Nat.lt_log2_self)
      _ = 2 ^ (52 + (mantissa'.log2 + 1)) := (Nat.pow_add _ _ _).symm
      _ ≤ 2 ^ (mantissa.log2 + count) := Nat.pow_le_pow_right (by decide) (by omega)
      _ = 2 ^ mantissa.log2 * 2 ^ count := Nat.pow_add _ _ _
      _ ≤ mantissa * 2 ^ count :=
        Nat.mul_le_mul_right _ (Nat.log2_self_le (Nat.ne_of_gt hdividend))
  rw [Nat.le_log2 (by omega)]
  exact hquotient

theorem isNearest_div_finite :
    IsNearest (mantissa * 2 ^ exponent / (mantissa' * 2 ^ exponent'))
      (double (UnpackedFloat.div Format.binary64 (.finite .positive mantissa exponent hpos)
        (.finite .positive mantissa' exponent' hpos'))) := by
  have hbits : Format.binary64.mantissaBits = 53 := by decide
  have hleast : Format.binary64.minExponent = -1074 := by decide
  have htarget : Format.binary64.targetExponent
      (totalExponent mantissa exponent - totalExponent mantissa' exponent') =
        max ((mantissa.log2 : Int) + exponent - (mantissa'.log2 + exponent') - 53) (-1074) := by
    rw [totalExponent, totalExponent, Format.targetExponent, hbits, hleast]
    omega
  unfold UnpackedFloat.div divCore
  dsimp only
  rw [htarget]
  generalize hlow : min (exponent - exponent') (max ((mantissa.log2 : Int) + exponent -
    (mantissa'.log2 + exponent') - 53) (-1074)) = low
  generalize hcount : (exponent - exponent' - low).toNat = count
  rw [Nat.shiftLeft_eq]
  refine isNearest_roundWithAccuracy ?_ ?_
  · obtain rfl : exponent = exponent' + low + count := by omega
    have hquotient : (mantissa : ℚ) * 2 ^ (exponent' + low + count) / (mantissa' * 2 ^ exponent') /
        2 ^ low = (mantissa * 2 ^ count : Nat) / mantissa' := by
      rw [zpow_add₀ two_ne_zero, zpow_add₀ two_ne_zero, zpow_natCast]
      push_cast
      field_simp
    rw [hquotient]
    exact locates_div hpos'
  · rcases le_or_gt low (-1074) with hlow' | hlow'
    · exact hlow'.trans (le_max_right _ _)
    · have hlong := @le_log2_quotient mantissa mantissa' count hpos hpos' (by omega)
      unfold targetPlace
      omega

/-- The quotient of a finite double that is not below zero by a positive one is the double nearest
to the exact quotient. -/
theorem isNearest_div (hx : x.isFinite = true) (hnonneg : 0 ≤ value x) (hy : IsPositive y) :
    IsNearest (value x / value y) (x / y) := by
  change IsNearest _ (double (UnpackedFloat.div Format.binary64 x.toModel.unpack y.toModel.unpack))
  unfold IsPositive at hy
  generalize hunpack' : y.toModel.unpack = divisor at hy
  cases hy with
  | finite =>
    rcases unpack_cases_of_nonneg hx hnonneg with ⟨sign, hunpack⟩ | ⟨_, _, hpos, hunpack⟩
    · rw [hunpack, value_of_unpack_zero hunpack, zero_div]
      exact isNearest_zero_of_unpack (unpack_pack_zero _)
    · rw [hunpack, value_of_unpack hunpack, value_of_unpack hunpack']
      exact isNearest_div_finite

end PushBench.Binary64
