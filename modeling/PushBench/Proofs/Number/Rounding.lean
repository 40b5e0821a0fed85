import Mathlib.Data.Int.Log
import PushBench.Proofs.Number.Nearest

/-!
# What rounding keeps

A number has one nearest double. The nearest doubles of numbers are in the order of the numbers, a
double is its own nearest one, and the relative error is at most `2 ^ -53`.
-/

namespace PushBench.Binary64

open Float.Model Float.Model.UnpackedFloat

variable {number : ℚ} {x y : Float} {mantissa mantissa' count : Nat} {exponent exponent' : Int}

/-! ## Order -/

theorem IsNearest.value_le (h : IsNearest number x) (hx : x.isFinite = true)
    (hy : y.isFinite = true) (hle : number ≤ value y) : value x ≤ value y := by
  have hnearest := h.le hx hy
  rw [abs_sub_comm, abs_sub_comm number (value y), abs_of_nonneg (sub_nonneg.mpr hle)] at hnearest
  have habove := (le_abs_self _).trans hnearest
  linarith

theorem IsNearest.le_value (h : IsNearest number x) (hx : x.isFinite = true)
    (hy : y.isFinite = true) (hle : value y ≤ number) : value y ≤ value x := by
  have hnearest := h.le hx hy
  rw [abs_of_nonneg (sub_nonneg.mpr hle)] at hnearest
  have hbelow := (le_abs_self _).trans hnearest
  linarith

/-- A double is its own nearest one. -/
theorem IsNearest.value_eq_self (h : IsNearest (value y) x) (hx : x.isFinite = true)
    (hy : y.isFinite = true) : value x = value y :=
  le_antisymm (h.value_le hx hy le_rfl) (h.le_value hx hy le_rfl)

theorem IsNearest.isFinite_of_lt (h : IsNearest number x) (hnonneg : 0 ≤ number)
    (hlt : number < 2 ^ 54) : x.isFinite = true := by
  have hoverflow : number < overflow := @lt_overflow number 1 hlt (by decide)
  rw [h.isFinite_iff, abs_of_nonneg hnonneg]
  exact hoverflow

theorem IsNearest.value_nonneg (h : IsNearest number x) (hnumber : 0 ≤ number)
    (hx : x.isFinite = true) : 0 ≤ value x := by
  rw [← value_zero] at hnumber ⊢
  exact h.le_value hx isFinite_zero hnumber

theorem IsNearest.floor_eq_countLimit (h : IsNearest number x) (hnumber : 0 ≤ number)
    (hinfinite : x.isFinite = false) : floor x = countLimit := by
  have hpositive : isNegative x = false := by
    rw [← Bool.not_eq_true, h.isNegative_iff hinfinite, not_lt]
    exact hnumber
  have hinf : x.isInf = true :=
    congrArg UnpackedFloat.isInf (unpack_eq_infinity hinfinite h.isNaN_eq)
  rw [floor, saturating, h.isNaN_eq, hpositive, hinf]
  rfl

/-! ## Uniqueness -/

theorem value_eq_of_nonneg (hnonneg : 0 ≤ value x) :
    value x = (magnitude x).significand * 2 ^ (magnitude x).exponent := by
  rcases (value_nonneg_iff x).mp hnonneg with hsign | hzero
  · exact value_of_not_isNegative hsign
  · rw [hzero, value_eq_zero_iff.mp hzero, Nat.cast_zero, zero_mul]

/-- Numbers whose places are lower stay below the significands that fill fifty-three bits. -/
theorem IsCanonical.le_of_lt (h : IsCanonical mantissa exponent)
    (h' : IsCanonical mantissa' exponent')
    (hlt : (mantissa : ℚ) * 2 ^ exponent < mantissa' * 2 ^ exponent') : exponent ≤ exponent' := by
  by_contra hgt
  have hleast := h'.least
  have hnormal : 2 ^ 52 ≤ mantissa := h.normal.resolve_left (by omega)
  have hpower : (2 : ℚ) ^ (exponent' + 1) ≤ 2 ^ exponent :=
    zpow_le_zpow_right₀ one_le_two (by omega)
  rw [zpow_add_one₀ two_ne_zero] at hpower
  have hmantissa : (2 : ℚ) ^ 52 ≤ mantissa := by exact_mod_cast hnormal
  have hmantissa' : (mantissa' : ℚ) < 2 ^ 53 := by exact_mod_cast h'.bits
  have hpos : (0 : ℚ) < 2 ^ exponent' := by positivity
  have hlower : (2 : ℚ) ^ 52 * (2 ^ exponent' * 2) ≤ mantissa * 2 ^ exponent :=
    mul_le_mul hmantissa hpower (by positivity) (by positivity)
  have hupper : (mantissa' : ℚ) * 2 ^ exponent' < 2 ^ 53 * 2 ^ exponent' :=
    mul_lt_mul_of_pos_right hmantissa' hpos
  linarith

/-- After a double with an even significand there is another one before the next such double. -/
theorem exists_between_of_nonneg (hx : x.isFinite = true) (hy : y.isFinite = true)
    (hnonneg : 0 ≤ value x) (hlt : value x < value y) (hevenx : Even (magnitude x).significand)
    (heveny : Even (magnitude y).significand) :
    ∃ z : Float, z.isFinite = true ∧ value x < value z ∧ value z < value y := by
  have hcanonical := isCanonical_magnitude hx
  have hcanonical' := isCanonical_magnitude hy
  have hvalue' := value_eq_of_nonneg (hnonneg.trans hlt.le)
  rw [value_eq_of_nonneg hnonneg, hvalue'] at hlt ⊢
  generalize (magnitude x).significand = mantissa at hlt hevenx hcanonical ⊢
  generalize (magnitude x).exponent = exponent at hlt hcanonical ⊢
  generalize (magnitude y).significand = mantissa' at hlt heveny hcanonical' ⊢
  generalize (magnitude y).exponent = exponent' at hlt hcanonical' ⊢
  have hbits := hcanonical.bits
  have hnext : IsCanonical (mantissa + 1) exponent := by
    refine ⟨?_, hcanonical.normal.imp_right fun h ↦ by omega, hcanonical.least, hcanonical.room⟩
    obtain ⟨half, rfl⟩ := hevenx
    omega
  have hpos : (0 : ℚ) < 2 ^ exponent := by positivity
  refine ⟨double (unpacked .positive (mantissa + 1) exponent), hnext.isFinite_double _, ?_⟩
  rw [value_double hnext]
  refine ⟨mul_lt_mul_of_pos_right (by exact_mod_cast Nat.lt_succ_self mantissa) hpos, ?_⟩
  obtain ⟨count, rfl⟩ := Int.le.dest (hcanonical.le_of_lt hcanonical' hlt)
  rw [add_comm exponent, zpow_add₀ two_ne_zero, zpow_natCast, ← mul_assoc] at hlt ⊢
  have hwhole : mantissa < mantissa' * 2 ^ count := by
    exact_mod_cast lt_of_mul_lt_mul_right hlt hpos.le
  -- the next significand is odd
  have hne : mantissa + 1 ≠ mantissa' * 2 ^ count := by
    intro heq
    have heven : Even (mantissa + 1) := heq ▸ heveny.mul_right _
    exact (Nat.even_add_one.mp heven) hevenx
  have hbetween : mantissa + 1 < mantissa' * 2 ^ count := by omega
  exact mul_lt_mul_of_pos_right (by exact_mod_cast hbetween) hpos

theorem exists_between (hx : x.isFinite = true) (hy : y.isFinite = true)
    (hlt : value x < value y) (hevenx : Even (magnitude x).significand)
    (heveny : Even (magnitude y).significand) :
    ∃ z : Float, z.isFinite = true ∧ value x < value z ∧ value z < value y := by
  rcases le_or_gt 0 (value x) with hnonneg | hneg
  · exact exists_between_of_nonneg hx hy hnonneg hlt hevenx heveny
  · rcases lt_or_ge 0 (value y) with hpos | hnonpos
    · exact ⟨0.0, isFinite_zero, by rwa [value_zero], by rwa [value_zero]⟩
    · have hx' := (isFinite_neg (isNaN_of_isFinite hx)).trans hx
      have hy' := (isFinite_neg (isNaN_of_isFinite hy)).trans hy
      obtain ⟨z, hz, hlower, hupper⟩ := exists_between_of_nonneg hy' hx'
        (by rw [value_neg hy]; linarith) (by rw [value_neg hx, value_neg hy]; linarith)
        (by rwa [magnitude_neg hy]) (by rwa [magnitude_neg hx])
      rw [value_neg hx] at hupper
      rw [value_neg hy] at hlower
      refine ⟨-z, (isFinite_neg (isNaN_of_isFinite hz)).trans hz, ?_, ?_⟩ <;>
        rw [value_neg hz] <;> linarith

/-- A number has one nearest double, up to the sign of zero. -/
theorem IsNearest.value_eq (hx : IsNearest number x) (hy : IsNearest number y)
    (hfinite : x.isFinite = true) : value x = value y := by
  have hfinite' := hy.isFinite_iff.mpr (hx.isFinite_iff.mp hfinite)
  -- of two nearest doubles both have even significands, so that there is a nearer one between them
  have hnot {x y : Float} (hx : IsNearest number x) (hy : IsNearest number y)
      (hfinite : x.isFinite = true) (hfinite' : y.isFinite = true) : ¬value x < value y := by
    intro hlt
    have heq : |number - value x| = |number - value y| :=
      le_antisymm (hx.le hfinite hfinite') (hy.le hfinite' hfinite)
    obtain ⟨z, hz, hlower, hupper⟩ := exists_between hfinite hfinite' hlt
      (hx.even hfinite hfinite' heq hlt.ne') (hy.even hfinite' hfinite heq.symm hlt.ne)
    have hnearest := hx.le hfinite hz
    have hmiddle : number - value x = value y - number := by
      rcases abs_eq_abs.mp heq with hsame | hopposite
      · linarith
      · linarith
    rw [abs_of_pos (by linarith)] at hnearest
    rcases le_abs'.mp hnearest with h | h <;> linarith
  exact le_antisymm (not_lt.mp (hnot hy hx hfinite' hfinite))
    (not_lt.mp (hnot hx hy hfinite hfinite'))

/-! ## Errors -/

/-- Numbers with at most fifty-three bits are doubles. -/
theorem exists_value_eq (hcount : count ≤ 2 ^ 53) (hleast : -1022 ≤ exponent)
    (hroom : exponent ≤ 900) : ∃ y : Float, y.isFinite = true ∧ value y = count * 2 ^ exponent := by
  have hscaled {count : Nat} {exponent : Int} (hbits : count < 2 ^ 53) (hleast : -1022 ≤ exponent)
      (hroom : exponent ≤ 971) :
      ∃ y : Float, y.isFinite = true ∧ value y = count * 2 ^ exponent := by
    have hunpack := unpack_pack_scaled hbits hleast hroom
    exact ⟨double (scaled count exponent), isFinite_of_unpack_scaled hunpack,
      value_of_unpack_scaled hunpack⟩
  rcases Nat.lt_or_eq_of_le hcount with hlt | rfl
  · exact hscaled hlt hleast (by omega)
  · obtain ⟨y, hy, hvalue⟩ := hscaled (by decide : 1 < 2 ^ 53) (by omega : -1022 ≤ exponent + 53)
      (by omega)
    refine ⟨y, hy, ?_⟩
    rw [hvalue, add_comm, zpow_add₀ two_ne_zero]
    norm_num

/-- Whole numbers are doubles. -/
theorem exists_value_eq_natCast (hcount : count ≤ 2 ^ 53) :
    ∃ y : Float, y.isFinite = true ∧ value y = count := by
  obtain ⟨y, hy, hvalue⟩ := exists_value_eq hcount (by decide : (-1022 : ℤ) ≤ 0) (by decide)
  exact ⟨y, hy, by rw [hvalue, zpow_zero, mul_one]⟩

/-- The nearest double is not farther away than the two doubles around a number. -/
theorem IsNearest.abs_sub_le (h : IsNearest number x) (hx : x.isFinite = true)
    (hlower : 2 ^ (-900 : ℤ) ≤ number) (hupper : number < 2 ^ (900 : ℤ)) :
    |number - value x| ≤ number / 2 ^ 53 := by
  have hnumber : 0 < number := lt_of_lt_of_le (by positivity) hlower
  have hlog : (2 : ℚ) ^ Int.log 2 number ≤ number := Int.zpow_log_le_self one_lt_two hnumber
  have hlog' : number < (2 : ℚ) ^ (Int.log 2 number + 1) :=
    Int.lt_zpow_succ_log_self one_lt_two number
  have hleast : -900 ≤ Int.log 2 number := (Int.zpow_le_iff_le_log one_lt_two hnumber).mp hlower
  have hroom : Int.log 2 number < 900 := (Int.lt_zpow_iff_log_lt one_lt_two hnumber).mp hupper
  -- the number has fifty-three binary digits before the end of this place
  obtain ⟨place, hplace⟩ : ∃ place, Int.log 2 number = place + 52 :=
    ⟨_, (Int.sub_add_cancel _ _).symm⟩
  rw [hplace] at hleast hroom
  rw [hplace, zpow_add₀ two_ne_zero] at hlog
  rw [hplace, add_assoc, zpow_add₀ two_ne_zero] at hlog'
  have hunit : (0 : ℚ) < 2 ^ place := by positivity
  generalize hcount : ⌊number / 2 ^ place⌋₊ = count
  have hfloor : (count : ℚ) * 2 ^ place ≤ number := by
    rw [← le_div_iff₀ hunit, ← hcount]
    exact Nat.floor_le (by positivity)
  have hceil : number < (count + 1 : Nat) * 2 ^ place := by
    rw [← div_lt_iff₀ hunit, ← hcount, Nat.cast_add, Nat.cast_one]
    exact Nat.lt_floor_add_one _
  have hbits : count + 1 ≤ 2 ^ 53 := by
    have hlt : (count : ℚ) < 2 ^ 53 := by
      refine lt_of_mul_lt_mul_right (hfloor.trans_lt (hlog'.trans_eq ?_)) hunit.le
      rw [mul_comm]
      norm_num
    exact_mod_cast hlt
  obtain ⟨below, hbelow, hvalue⟩ := exists_value_eq (Nat.le_of_succ_le hbits)
    (by omega : -1022 ≤ place) (by omega)
  obtain ⟨above, habove, hvalue'⟩ := exists_value_eq hbits (by omega : -1022 ≤ place) (by omega)
  have hnearest := h.le hx hbelow
  have hnearest' := h.le hx habove
  rw [hvalue, abs_of_nonneg (sub_nonneg.mpr hfloor)] at hnearest
  rw [hvalue', abs_of_neg (sub_neg.mpr hceil)] at hnearest'
  push_cast at hnearest'
  rw [le_div_iff₀ (by positivity)]
  norm_num at hlog
  linarith

end PushBench.Binary64
