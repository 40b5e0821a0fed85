import Mathlib.Tactic.NormNum
import PushBench.Number.Scalar

/-!
# How large doubles become

A bound on the last binary place of a double bounds its magnitude. Counts, products and quotients
grow by a fixed number of places at most. A sum does not grow at all when one of the summands is so
much smaller than the bound that it vanishes in the rounding, so no number of small summands makes a
sum infinite.
-/

namespace PushBench.Binary64

open Float.Model Float.Model.UnpackedFloat

/-- A number is finite, has fifty-three bits at most, and its last binary place stands for at most
`2 ^ place`. -/
inductive EndsBy (place : Int) : UnpackedFloat → Prop
  | zero (sign : Sign) : EndsBy place (.zero sign)
  | finite {sign : Sign} {mantissa : Nat} {exponent : Int} {hpos : 0 < mantissa}
      (hbits : mantissa < 2 ^ 53) (hplace : exponent ≤ place) :
      EndsBy place (.finite sign mantissa exponent hpos)

variable {place : Int} {x y : UnpackedFloat} {mantissa : Nat} {exponent : Int}

instance (place : Int) : (x : UnpackedFloat) → Decidable (EndsBy place x)
  | .zero sign => isTrue (.zero sign)
  | .finite _ mantissa exponent _ =>
    if h : mantissa < 2 ^ 53 ∧ exponent ≤ place then isTrue (.finite h.1 h.2)
    else isFalse fun hends ↦ by cases hends with | finite hbits hplace => exact h ⟨hbits, hplace⟩
  | .infinity _ => isFalse nofun
  | .notANumber => isFalse nofun

theorem EndsBy.mono {place' : Int} (h : EndsBy place x) (hplace : place ≤ place') :
    EndsBy place' x := by
  cases h with
  | zero sign => exact .zero sign
  | finite hbits hends => exact .finite hbits (Int.le_trans hends hplace)

theorem EndsBy.isFinite (h : EndsBy place x) : x.isFinite = true := by
  cases h <;> rfl

/-! ## Binary logarithms -/

theorem log2_lt_of_lt {bits : Nat} (hbits : bits ≠ 0) (hlt : mantissa < 2 ^ bits) :
    mantissa.log2 < bits := by
  rcases Nat.eq_zero_or_pos mantissa with rfl | hpos
  · simpa [Nat.pos_iff_ne_zero] using hbits
  · exact (Nat.log2_lt (Nat.pos_iff_ne_zero.mp hpos)).mpr hlt

theorem log2_shiftLeft_le (mantissa count : Nat) :
    (mantissa <<< count).log2 ≤ mantissa.log2 + count := by
  apply Nat.le_of_lt_succ
  apply log2_lt_of_lt (Nat.succ_ne_zero _)
  rw [Nat.shiftLeft_eq, Nat.succ_eq_add_one, Nat.add_right_comm, Nat.pow_add]
  exact Nat.mul_lt_mul_of_pos_right Nat.lt_log2_self (Nat.two_pow_pos count)

theorem log2_mul_le {first second : Nat} (hfirst : first < 2 ^ 53) (hsecond : second < 2 ^ 53) :
    (first * second).log2 ≤ 105 :=
  Nat.le_of_lt_succ (log2_lt_of_lt (by decide) (Nat.lt_of_lt_of_le
    (Nat.mul_lt_mul'' hfirst hsecond) (by decide)))

theorem log2_div_le (dividend divisor : Nat) : (dividend / divisor).log2 ≤ dividend.log2 :=
  Nat.le_of_lt_succ (log2_lt_of_lt (Nat.succ_ne_zero _)
    (Nat.lt_of_le_of_lt (Nat.div_le_self _ _) Nat.lt_log2_self))

/-! ## Dropping places -/

/-- The place that rounding aims at. -/
def targetPlace (mantissa : Nat) (exponent : Int) : Int :=
  max (mantissa.log2 + exponent - 52) (-1074)

theorem targetExponent_eq (mantissa : Nat) (exponent : Int) :
    Format.binary64.targetExponent (totalExponent mantissa exponent) =
      targetPlace mantissa exponent := by
  have hbits : Format.binary64.mantissaBits = 53 := by decide
  have hleast : Format.binary64.minExponent = -1074 := by decide
  simp only [Format.targetExponent, totalExponent, targetPlace, hbits, hleast]
  omega

theorem mantissa_shiftRight (m : ExtendedMantissa) (count : Nat) :
    (m >>> count).mantissa = m.mantissa / 2 ^ count := by
  induction count with
  | zero => simp [HShiftRight.hShiftRight, Nat.repeat]
  | succ count ih =>
    change (m >>> count).mantissa / 2 = _
    rw [ih, Nat.div_div_eq_div_mul, Nat.pow_succ]

theorem mantissa_ofMantissaAndAccuracy (mantissa : Nat) (accuracy : Accuracy) :
    (ExtendedMantissa.ofMantissaAndAccuracy mantissa accuracy).mantissa = mantissa := by
  rcases accuracy with _ | (_ | _ | _) <;> rfl

theorem roundedMantissa_le (m : ExtendedMantissa) : m.roundedMantissa ≤ m.mantissa + 1 := by
  obtain ⟨mantissa, roundBit, stickyBit⟩ := m
  cases roundBit <;> cases stickyBit <;>
    simp only [ExtendedMantissa.roundedMantissa, ExtendedMantissa.accuracy,
      Accuracy.roundToNearestEven] <;> omega

/-- The last bit that is dropped decides whether a mantissa is rounded up. -/
theorem roundedMantissa_shiftRightOne (m : ExtendedMantissa) :
    m.shiftRightOne.roundedMantissa ≤ (m.mantissa + 1) / 2 := by
  obtain ⟨mantissa, roundBit, stickyBit⟩ := m
  rcases Nat.mod_two_eq_zero_or_one mantissa with heven | hodd
  · cases roundBit <;> cases stickyBit <;>
      simp [ExtendedMantissa.shiftRightOne, ExtendedMantissa.roundedMantissa,
        ExtendedMantissa.accuracy, Accuracy.roundToNearestEven, heven] <;> omega
  · cases roundBit <;> cases stickyBit <;>
      simp [ExtendedMantissa.shiftRightOne, ExtendedMantissa.roundedMantissa,
        ExtendedMantissa.accuracy, Accuracy.roundToNearestEven, hodd] <;> omega

/-- What stays below half of the last place does not round up to the next power of two. -/
theorem roundedMantissa_lt_of_lt {count : Nat} (hlt : mantissa < (2 ^ 54 - 1) * 2 ^ count) :
    (ExtendedMantissa.ofMantissaAndAccuracy mantissa .exact >>> (count + 1)).roundedMantissa <
      2 ^ 53 := by
  have hkept : mantissa / 2 ^ count < 2 ^ 54 - 1 :=
    (Nat.div_lt_iff_lt_mul (Nat.two_pow_pos count)).mpr hlt
  have hrounded : (ExtendedMantissa.ofMantissaAndAccuracy mantissa .exact >>>
      (count + 1)).roundedMantissa ≤ _ :=
    roundedMantissa_shiftRightOne (ExtendedMantissa.ofMantissaAndAccuracy mantissa .exact >>> count)
  rw [mantissa_shiftRight, mantissa_ofMantissaAndAccuracy] at hrounded
  omega

/-- So many places are dropped that fifty-three bits are left. -/
theorem mantissa_shift_lt (mantissa : Nat) (exponent : Int) (accuracy : Accuracy) :
    (shiftToTargetExponent Format.binary64 mantissa exponent accuracy).1.mantissa < 2 ^ 53 := by
  unfold shiftToTargetExponent shiftToExponent
  rw [targetExponent_eq]
  dsimp only
  generalize hcount : (targetPlace mantissa exponent - exponent).toNat = count
  have hbits : mantissa.log2 + 1 ≤ 53 + count := by
    unfold targetPlace at hcount
    omega
  rw [mantissa_shiftRight, mantissa_ofMantissaAndAccuracy,
    Nat.div_lt_iff_lt_mul (Nat.two_pow_pos count), ← Nat.pow_add]
  exact Nat.lt_of_lt_of_le Nat.lt_log2_self (Nat.pow_le_pow_right (by decide) hbits)

theorem exponent_shift (mantissa : Nat) (exponent : Int) (accuracy : Accuracy) :
    (shiftToTargetExponent Format.binary64 mantissa exponent accuracy).2 =
      max exponent (targetPlace mantissa exponent) := by
  unfold shiftToTargetExponent shiftToExponent
  rw [targetExponent_eq]
  dsimp only
  omega

/-! ## Rounding -/

/-- A rounded number ends by the place that the first step of rounding yields, unless the mantissa
is rounded up to the next power of two. -/
theorem endsBy_roundWithAccuracy (sign : Sign) {accuracy : Accuracy}
    (hplace : max exponent (targetPlace mantissa exponent) ≤ place)
    (hcarry : max exponent (targetPlace mantissa exponent) = place →
      (shiftToTargetExponent Format.binary64 mantissa exponent accuracy).1.roundedMantissa <
        2 ^ 53) :
    EndsBy place (roundWithAccuracy Format.binary64 sign mantissa exponent accuracy) := by
  have hexponent := exponent_shift mantissa exponent accuracy
  have hkept := mantissa_shift_lt mantissa exponent accuracy
  have hleast : -1074 ≤ max exponent (targetPlace mantissa exponent) := by
    unfold targetPlace
    omega
  unfold roundWithAccuracy
  generalize shiftToTargetExponent Format.binary64 mantissa exponent accuracy = first at *
  generalize max exponent (targetPlace mantissa exponent) = start at *
  obtain ⟨shifted, next⟩ := first
  dsimp only at *
  subst hexponent
  by_cases hzero : (shiftToTargetExponent Format.binary64 shifted.roundedMantissa next
      .exact).1.mantissa = 0
  · rw [dif_pos hzero]
    exact .zero sign
  · rw [dif_neg hzero]
    refine .finite (mantissa_shift_lt _ _ _) ?_
    rw [exponent_shift, targetPlace]
    have hrounded : shifted.roundedMantissa ≤ 2 ^ 53 :=
      Nat.le_trans (roundedMantissa_le shifted) hkept
    rcases Nat.lt_or_eq_of_le hrounded with hlt | heq
    · have hlog := log2_lt_of_lt (by decide) hlt
      omega
    · have hlog : shifted.roundedMantissa.log2 = 53 := by rw [heq, Nat.log2_two_pow]
      have hne : next ≠ place := fun hnext ↦ Nat.ne_of_lt (hcarry hnext) heq
      omega

theorem endsBy_roundWithAccuracy_of_lt (sign : Sign) (accuracy : Accuracy)
    (hplace : max exponent (targetPlace mantissa exponent) < place) :
    EndsBy place (roundWithAccuracy Format.binary64 sign mantissa exponent accuracy) :=
  endsBy_roundWithAccuracy sign (Int.le_of_lt hplace) fun heq ↦ absurd heq (Int.ne_of_lt hplace)

/-- A number rounded from any place ends by the place aimed at, unless places are dropped and the
mantissa is rounded up to the next power of two. -/
theorem endsBy_round (sign : Sign) (hplace : targetPlace mantissa exponent ≤ place)
    (hcarry : targetPlace mantissa exponent = place → exponent ≤ place ∧
      (shiftToTargetExponent Format.binary64 mantissa exponent .exact).1.roundedMantissa <
        2 ^ 53) :
    EndsBy place (UnpackedFloat.round Format.binary64 sign mantissa exponent) := by
  unfold UnpackedFloat.round decreaseExponent
  rw [targetExponent_eq]
  dsimp only
  generalize hcount : (exponent - targetPlace mantissa exponent).toNat = count
  have hlog := log2_shiftLeft_le mantissa count
  apply endsBy_roundWithAccuracy
  · unfold targetPlace at *
    omega
  · intro heq
    obtain ⟨hexponent, hrounded⟩ := hcarry (by unfold targetPlace at *; omega)
    obtain rfl : count = 0 := by unfold targetPlace at *; omega
    simpa using hrounded

theorem endsBy_normalize {mantissa : Int} (zeroSign : Sign)
    (hplace : targetPlace mantissa.natAbs exponent ≤ place)
    (hcarry : targetPlace mantissa.natAbs exponent = place → exponent ≤ place ∧
      (shiftToTargetExponent Format.binary64 mantissa.natAbs exponent .exact).1.roundedMantissa <
        2 ^ 53) :
    EndsBy place (UnpackedFloat.normalize Format.binary64 mantissa exponent zeroSign) := by
  unfold UnpackedFloat.normalize
  split
  case h_1 hlt =>
    have hneg : mantissa < 0 := Int.compare_eq_lt.mp hlt
    rw [show (-mantissa).toNat = mantissa.natAbs by omega]
    exact endsBy_round _ hplace hcarry
  case h_2 => exact .zero zeroSign
  case h_3 hgt =>
    have hpos : 0 < mantissa := Int.compare_eq_gt.mp hgt
    rw [show mantissa.toNat = mantissa.natAbs by omega]
    exact endsBy_round _ hplace hcarry

theorem endsBy_normalize_of_place_lt {mantissa : Int} (zeroSign : Sign)
    (hplace : targetPlace mantissa.natAbs exponent < place) :
    EndsBy place (UnpackedFloat.normalize Format.binary64 mantissa exponent zeroSign) :=
  endsBy_normalize zeroSign (Int.le_of_lt hplace) fun heq ↦ absurd heq (Int.ne_of_lt hplace)

/-- A number below half of the last place allowed does not grow beyond it. -/
theorem endsBy_normalize_of_lt {mantissa : Int} (zeroSign : Sign) {count : Nat}
    (hcount : exponent + count + 1 = place) (hleast : -1074 ≤ place)
    (hlt : mantissa.natAbs < (2 ^ 54 - 1) * 2 ^ count) :
    EndsBy place (UnpackedFloat.normalize Format.binary64 mantissa exponent zeroSign) := by
  have hlog : mantissa.natAbs.log2 < 54 + count := by
    apply log2_lt_of_lt (by omega)
    rw [Nat.pow_add]
    exact Nat.lt_of_lt_of_le hlt (Nat.mul_le_mul_right _ (by decide))
  apply endsBy_normalize
  · unfold targetPlace
    omega
  · intro htarget
    refine ⟨by omega, ?_⟩
    unfold shiftToTargetExponent shiftToExponent
    rw [targetExponent_eq, htarget]
    dsimp only
    rw [show (place - exponent).toNat = count + 1 by omega]
    exact roundedMantissa_lt_of_lt hlt

/-! ## Operations on unpacked numbers -/

theorem endsBy_mul_of_lt {sign sign' : Sign} {mantissa' : Nat} {exponent' : Int}
    {hpos : 0 < mantissa} {hpos' : 0 < mantissa'}
    (hplace : max (exponent + exponent') (targetPlace (mantissa * mantissa')
      (exponent + exponent')) < place) :
    EndsBy place (UnpackedFloat.mul Format.binary64 (.finite sign mantissa exponent hpos)
      (.finite sign' mantissa' exponent' hpos')) :=
  endsBy_roundWithAccuracy_of_lt _ _ hplace

/-- A product ends fifty-four places above the sum of the places of its factors at most. -/
theorem EndsBy.mul {first second : Int} (hx : EndsBy first x) (hy : EndsBy second y)
    (hleast : -1074 < first + second + 54) :
    EndsBy (first + second + 54) (UnpackedFloat.mul Format.binary64 x y) := by
  cases hx with
  | zero => cases hy <;> exact .zero _
  | finite hbits hplace =>
    cases hy with
    | zero => exact .zero _
    | finite hbits' hplace' =>
      have hlog := log2_mul_le hbits hbits'
      apply endsBy_mul_of_lt
      unfold targetPlace
      omega

/-- A quotient ends one place above the difference of the places at most. -/
theorem EndsBy.div {sign : Sign} {divisor : Nat} {scale : Int} {hpos : 0 < divisor}
    (hx : EndsBy place x) (hleast : -1074 < place - scale + 1) :
    EndsBy (place - scale + 1)
      (UnpackedFloat.div Format.binary64 x (.finite sign divisor scale hpos)) := by
  cases hx with
  | zero => exact .zero _
  | @finite _ mantissa exponent _ hbits hplace =>
    have hlog := log2_lt_of_lt (by decide) hbits
    apply endsBy_roundWithAccuracy_of_lt
    unfold targetPlace
    generalize (Format.binary64.targetExponent
      (totalExponent mantissa exponent - totalExponent divisor scale)) = target
    generalize hcount : (exponent - scale - min (exponent - scale) target).toNat = count
    have hquotient := log2_div_le (mantissa <<< count) divisor
    have hshift := log2_shiftLeft_le mantissa count
    omega

theorem natAbs_apply_add_le (first second : Sign) (m n : Nat) :
    (first.apply m + second.apply n).natAbs ≤ m + n := by
  cases first <;> cases second <;> simp only [Sign.apply] <;> omega

theorem natAbs_apply_sub_le (first second : Sign) (m n : Nat) :
    (first.apply m - second.apply n).natAbs ≤ m + n := by
  cases first <;> cases second <;> simp only [Sign.apply] <;> omega

/-- What is added to a number vanishes in the rounding if it is so small that it cannot reach half
of the last place allowed. -/
theorem EndsBy.add (hx : EndsBy place x) (hy : EndsBy (place - 54) y) (hleast : -1074 ≤ place) :
    EndsBy place (UnpackedFloat.add Format.binary64 x y) := by
  cases hx with
  | zero =>
    cases hy with
    | zero => unfold UnpackedFloat.add; dsimp only; split <;> exact .zero _
    | finite hbits' hplace' => exact .finite hbits' (by omega)
  | @finite sign mantissa exponent _ hbits hplace =>
    cases hy with
    | zero => exact .finite hbits hplace
    | @finite sign' mantissa' exponent' _ hbits' hplace' =>
      have hlow : min exponent exponent' ≤ place - 54 := by omega
      generalize hmin : min exponent exponent' = low at hlow
      obtain ⟨count, hcount⟩ : ∃ count : Nat, low + count + 1 = place :=
        ⟨(place - 1 - low).toNat, by omega⟩
      -- the first summand stays below the last place allowed, the second below half of it
      have hfirst : mantissa <<< (exponent - low).toNat ≤ (2 ^ 54 - 2) * 2 ^ count := by
        have hshift : (exponent - low).toNat ≤ count + 1 := by omega
        calc mantissa <<< (exponent - low).toNat
            = mantissa * 2 ^ (exponent - low).toNat := Nat.shiftLeft_eq _ _
          _ ≤ (2 ^ 53 - 1) * 2 ^ (count + 1) :=
            Nat.mul_le_mul (by omega) (Nat.pow_le_pow_right (by decide) hshift)
          _ = (2 ^ 54 - 2) * 2 ^ count := by rw [Nat.pow_succ]; omega
      have hsecond : mantissa' <<< (exponent' - low).toNat < 2 ^ count := by
        have hshift : 53 + (exponent' - low).toNat ≤ count := by omega
        calc mantissa' <<< (exponent' - low).toNat
            = mantissa' * 2 ^ (exponent' - low).toNat := Nat.shiftLeft_eq _ _
          _ < 2 ^ 53 * 2 ^ (exponent' - low).toNat :=
            Nat.mul_lt_mul_of_pos_right hbits' (Nat.two_pow_pos _)
          _ = 2 ^ (53 + (exponent' - low).toNat) := (Nat.pow_add _ _ _).symm
          _ ≤ 2 ^ count := Nat.pow_le_pow_right (by decide) hshift
      unfold UnpackedFloat.add decreaseExponent
      dsimp only
      rw [hmin]
      have hsum := natAbs_apply_add_le sign sign' (mantissa <<< (exponent - low).toNat)
        (mantissa' <<< (exponent' - low).toNat)
      exact endsBy_normalize_of_lt .positive hcount hleast (by omega)

/-- A difference ends two places above the places of its terms at most. -/
theorem EndsBy.sub (hx : EndsBy place x) (hy : EndsBy place y) (hleast : -1074 < place + 2) :
    EndsBy (place + 2) (UnpackedFloat.sub Format.binary64 x y) := by
  cases hx with
  | zero =>
    cases hy with
    | zero => unfold UnpackedFloat.sub; dsimp only; split <;> exact .zero _
    | finite hbits' hplace' => exact .finite hbits' (by omega)
  | @finite sign mantissa exponent _ hbits hplace =>
    cases hy with
    | zero => exact .finite hbits (by omega)
    | @finite sign' mantissa' exponent' _ hbits' hplace' =>
      unfold UnpackedFloat.sub decreaseExponent
      dsimp only
      generalize hlow : min exponent exponent' = low
      obtain ⟨room, hroom⟩ : ∃ room : Nat, low + room = place := ⟨(place - low).toNat, by omega⟩
      have hshift {bits : Nat} {from' : Int} (hlt : bits < 2 ^ 53) (hfrom : from' ≤ place) :
          bits <<< (from' - low).toNat < 2 ^ (53 + room) := by
        rw [Nat.shiftLeft_eq, Nat.pow_add]
        exact Nat.mul_lt_mul_of_lt_of_le hlt (Nat.pow_le_pow_right (by decide) (by omega))
          (Nat.two_pow_pos _)
      have hfirst := hshift hbits hplace
      have hsecond := hshift hbits' hplace'
      apply endsBy_normalize_of_place_lt
      have habs := natAbs_apply_sub_le sign sign' (mantissa <<< (exponent - low).toNat)
        (mantissa' <<< (exponent' - low).toNat)
      have hlog : (sign.apply (mantissa <<< (exponent - low).toNat : Nat) -
          sign'.apply (mantissa' <<< (exponent' - low).toNat : Nat)).natAbs.log2 < 54 + room := by
        apply log2_lt_of_lt (by omega)
        rw [Nat.pow_add] at hfirst hsecond ⊢
        omega
      unfold targetPlace
      omega

/-! ## Packing -/

/-- The stored exponent of a double places its last bit, subnormal doubles apart. -/
theorem endsBy_unpack {bits : BitVec Format.binary64.numBits}
    {stored : BitVec 11} (hstored : unpackExponent bits = stored) (hfinite : stored ≠ -1#11)
    (hleast : -1074 ≤ place) (hplace : (stored.toNat : Int) - 1075 ≤ place) :
    EndsBy place (UnpackedFloat.unpack Format.binary64 bits) := by
  subst hstored
  unfold UnpackedFloat.unpack
  dsimp only
  rw [if_neg hfinite]
  by_cases hsubnormal : unpackExponent bits = 0#11
  · rw [if_pos hsubnormal]
    by_cases hzero : unpackMantissa bits = 0#52
    · rw [dif_pos hzero]
      exact .zero _
    · rw [dif_neg hzero]
      refine .finite (Nat.lt_trans (unpackMantissa bits).isLt (by decide)) ?_
      rw [hsubnormal]
      exact hleast
  · rw [if_neg hsubnormal]
    exact .finite (1#1 ++ unpackMantissa bits).isLt hplace

theorem endsBy_unpack_components (sign : Sign) {stored : BitVec 11} (fraction : BitVec 52)
    (hfinite : stored ≠ -1#11) (hleast : -1074 ≤ place)
    (hplace : (stored.toNat : Int) - 1075 ≤ place) :
    EndsBy place (UnpackedFloat.unpack Format.binary64
      (packComponents Format.binary64 sign stored fraction)) :=
  endsBy_unpack unpackExponent_packComponents hfinite hleast hplace

/-- Packing keeps the bound of a number, if there is room for its exponent. -/
theorem EndsBy.unpack_pack (h : EndsBy place x) (hleast : -1074 ≤ place) (hroom : place ≤ 971) :
    EndsBy place (Float.Model.pack x).unpack := by
  cases h with
  | zero sign =>
    exact endsBy_unpack_components sign 0#52 (by decide) hleast (Int.le_trans (by decide) hleast)
  | @finite sign mantissa exponent hpos _ hplace =>
    have hbias : Format.binary64.exponentBias = 1023 := by decide
    change EndsBy place (UnpackedFloat.unpack Format.binary64
      (UnpackedFloat.pack Format.binary64 (.finite sign mantissa exponent hpos)))
    unfold UnpackedFloat.pack
    simp only [hbias]
    generalize hstored : (exponent + 1023 + 52).toNat = stored
    have hnat : (BitVec.ofNat 11 stored).toNat = stored := by
      rw [BitVec.toNat_ofNat, Nat.mod_eq_of_lt (by omega)]
    split
    case isTrue hfull => omega
    case isFalse =>
      split
      · refine endsBy_unpack_components sign _ (fun hones ↦ ?_) hleast ?_
        · have hones := congrArg BitVec.toNat hones
          rw [hnat] at hones
          change stored = 2047 at hones
          omega
        · rw [hnat]
          omega
      · exact endsBy_unpack_components sign _ (by decide) hleast
          (Int.le_trans (by decide) hleast)

/-! ## Doubles -/

theorem isNaN_of_isFinite {x : Float} (h : x.isFinite = true) : x.isNaN = false := by
  unfold Float.isFinite Float.Model.isFinite at h
  unfold Float.isNaN Float.Model.isNaN
  cases hx : x.toModel.unpack <;> rw [hx] at h <;> first | rfl | cases h

theorem isInf_of_isFinite {x : Float} (h : x.isFinite = true) : x.isInf = false := by
  unfold Float.isFinite Float.Model.isFinite at h
  unfold Float.isInf Float.Model.isInf
  cases hx : x.toModel.unpack <;> rw [hx] at h <;> first | rfl | cases h

/-- A double is finite, and its last binary place stands for at most `2 ^ place`. -/
def IsBounded (place : Int) (x : Float) : Prop := EndsBy place x.toModel.unpack

instance (place : Int) (x : Float) : Decidable (IsBounded place x) :=
  inferInstanceAs (Decidable (EndsBy place x.toModel.unpack))

theorem IsBounded.isFinite {x : Float} (h : IsBounded place x) : x.isFinite = true :=
  EndsBy.isFinite h

theorem IsBounded.mul {x y : Float} {first second : Int} (hx : IsBounded first x)
    (hy : IsBounded second y) (hleast : -1074 < first + second + 54)
    (hroom : first + second + 54 ≤ 971) : IsBounded (first + second + 54) (x * y) :=
  (EndsBy.mul hx hy hleast).unpack_pack (Int.le_of_lt hleast) hroom

theorem IsBounded.div {x y : Float} {sign : Sign} {divisor : Nat} {scale : Int}
    {hpos : 0 < divisor} (hx : IsBounded place x)
    (hy : y.toModel.unpack = .finite sign divisor scale hpos)
    (hleast : -1074 < place - scale + 1) (hroom : place - scale + 1 ≤ 971) :
    IsBounded (place - scale + 1) (x / y) := by
  have hdiv := @EndsBy.div place x.toModel.unpack sign divisor scale hpos hx hleast
  rw [← hy] at hdiv
  exact hdiv.unpack_pack (Int.le_of_lt hleast) hroom

theorem IsBounded.add {x y : Float} (hx : IsBounded place x) (hy : IsBounded (place - 54) y)
    (hleast : -1074 ≤ place) (hroom : place ≤ 971) : IsBounded place (x + y) :=
  (EndsBy.add hx hy hleast).unpack_pack hleast hroom

theorem IsBounded.sub {x y : Float} (hx : IsBounded place x) (hy : IsBounded place y)
    (hleast : -1074 < place + 2) (hroom : place + 2 ≤ 971) : IsBounded (place + 2) (x - y) :=
  (EndsBy.sub hx hy hleast).unpack_pack (Int.le_of_lt hleast) hroom

theorem IsBounded.mono {x : Float} {place' : Int} (hx : IsBounded place x)
    (hplace : place ≤ place') : IsBounded place' x :=
  EndsBy.mono hx hplace

/-- A count that is shifted to the left by as many places as its exponent takes back. -/
theorem endsBy_mul_shiftLeft {count : Nat} (hcount : count < 2 ^ 64) (bits : Nat) {factor : Nat}
    (hfactor : factor = 1) {hpos : 0 < count <<< bits} {hpos' : 0 < factor} :
    EndsBy 14 (UnpackedFloat.mul Format.binary64 (.finite .positive (count <<< bits) (-bits) hpos)
      (.finite .positive factor 0 hpos')) := by
  have hlog := log2_lt_of_lt (by decide) hcount
  have hshift := log2_shiftLeft_le count bits
  apply endsBy_mul_of_lt
  rw [hfactor, Nat.mul_one, targetPlace]
  omega

theorem endsBy_ofScientific {count : Nat} (hcount : count < 2 ^ 64) :
    EndsBy 14 (UnpackedFloat.ofScientific Format.binary64 count 0) := by
  unfold UnpackedFloat.ofScientific
  by_cases hzero : count = 0
  · rw [dif_pos hzero]
    exact .zero .positive
  · rw [dif_neg hzero, if_neg (by decide), if_neg (by norm_num), if_pos (by decide)]
    exact endsBy_mul_shiftLeft hcount _ rfl

/-- A count of sixty-four bits as a double. -/
theorem isBounded_ofNat {count : Nat} (hcount : count < 2 ^ 64) :
    IsBounded 14 (Float.ofNat count) := by
  change IsBounded 14 (Float.ofScientific count false 0)
  unfold Float.ofScientific
  split
  case isTrue h =>
    have hone : IsBounded (-52) (Float.ofBits 0x3FF0000000000000) := by decide +kernel
    have hwhole : IsBounded 12 count.toUInt64.toFloat := by
      have hlog : count.toUInt64.toNat.log2 < 64 :=
        log2_lt_of_lt (by decide) count.toUInt64.toNat_lt
      refine EndsBy.unpack_pack (endsBy_normalize_of_place_lt _ ?_) (by decide) (by decide)
      rw [Int.natAbs_natCast, targetPlace]
      omega
    exact hwhole.mul hone (by decide) (by decide)
  case isFalse => exact (endsBy_ofScientific hcount).unpack_pack (by decide) (by decide)

/-- A sum of any number of small doubles is bounded as long as its summands are. -/
theorem isBounded_sum {values : List Float} (hvalues : ∀ x ∈ values, IsBounded (place - 54) x)
    (hleast : -1074 ≤ place) (hroom : place ≤ 971) : IsBounded place (Scalar.sum values) := by
  have hfold : ∀ (values : List Float) (start : Float), IsBounded place start →
      (∀ x ∈ values, IsBounded (place - 54) x) → IsBounded place (values.foldl (· + ·) start) := by
    intro values
    induction values with
    | nil => exact fun _ hstart _ ↦ hstart
    | cons x values ih =>
      intro start hstart hvalues
      exact ih _ (hstart.add (hvalues x List.mem_cons_self) hleast hroom)
        fun y hy ↦ hvalues y (List.mem_cons_of_mem x hy)
  exact hfold values _ (.zero .positive) hvalues

end PushBench.Binary64
