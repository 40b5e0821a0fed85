import PushBench.Proofs.Json.Number
import PushBench.Proofs.Number.Literal

/-!
# Fixed decimal places

With a fixed count of places a number has a decimal text: the multiple of its last place that is
nearest to the number, the one with the even last digit if two are as near. This is the text that
finite doubles are written with.
-/

namespace PushBench

/-! ## Rounded quotients -/

/-- No whole number is nearer to a number than the one that it is rounded to. If another one is as
near, this one is even. -/
structure RoundsTo (number : ℚ) (whole : Nat) : Prop where
  near : |number - whole| ≤ 1 / 2
  even : |number - whole| = 1 / 2 → Even whole

section

open Float.Model.UnpackedFloat

variable {dividend divisor : Nat}

/-- A quotient is rounded as the remainder tells, in the way in which doubles are. -/
theorem roundQuotient_even (hdivisor : 0 < divisor) :
    roundQuotient .even dividend divisor =
      (accuracyOfFraction (dividend % divisor) divisor).roundToNearestEven
        (dividend / divisor) := by
  unfold roundQuotient Tie.takesUpper accuracyOfFraction
  generalize dividend / divisor = quotient
  generalize dividend % divisor = rest
  dsimp only
  by_cases hrest : rest = 0
  · simp [hrest, hdivisor.ne, Accuracy.roundToNearestEven]
  · rw [if_neg hrest]
    rcases hcompare : compare (2 * rest) divisor with _ | _ | _
    · have hlt := Nat.compare_eq_lt.mp hcompare
      simp [Accuracy.roundToNearestEven, hlt.ne, hlt.le]
    · have heq := Nat.compare_eq_eq.mp hcompare
      rcases Nat.mod_two_eq_zero_or_one quotient with heven | hodd
      · simp [Accuracy.roundToNearestEven, heq, heven]
      · simp [Accuracy.roundToNearestEven, heq, hodd]
    · have hgt := Nat.compare_eq_gt.mp hcompare
      simp [Accuracy.roundToNearestEven, hgt.ne', hgt]

theorem roundsTo_roundQuotient (hdivisor : 0 < divisor) :
    RoundsTo ((dividend : ℚ) / divisor) (roundQuotient .even dividend divisor) := by
  have hlocates := @Binary64.locates_div dividend _ hdivisor
  obtain ⟨hnear, heven⟩ := Binary64.abs_sub_roundToNearestEven_le hlocates
  rw [roundQuotient_even hdivisor]
  exact ⟨hnear, heven⟩

end

theorem RoundsTo.unique {number : ℚ} {whole other : Nat} (h : RoundsTo number whole)
    (h' : RoundsTo number other) : whole = other := by
  by_contra hne
  obtain ⟨hle, htie⟩ := Binary64.abs_sub_le_abs_sub_int h.near other
  obtain ⟨hle', htie'⟩ := Binary64.abs_sub_le_abs_sub_int h'.near whole
  rw [Int.cast_natCast] at hle htie hle' htie'
  have hsame := le_antisymm hle hle'
  -- two numbers as near are neighbours, and neighbours are not both even
  obtain ⟨half, rfl⟩ := h.even (htie hsame fun heq ↦ hne (Nat.cast_injective heq).symm)
  obtain ⟨half', rfl⟩ := h'.even (htie' hsame.symm fun heq ↦ hne (Nat.cast_injective heq))
  have hnear := abs_le.mp h.near
  have hnear' := abs_le.mp h'.near
  have hupper : ((half + half : Nat) : ℚ) ≤ (half' + half' + 1 : Nat) := by
    push_cast at hnear hnear' ⊢
    linarith
  have hlower : ((half' + half' : Nat) : ℚ) ≤ (half + half + 1 : Nat) := by
    push_cast at hnear hnear' ⊢
    linarith
  rw [Nat.cast_le] at hupper hlower
  omega

/-! ## Digits -/

namespace Decimal

/-- Digits without a needless zero in front are those that their number is written with. -/
theorem toDigits_ofDigits {text : List Char} (h : Json.IsWhole text) :
    toDigits (ofDigits text) = text := by
  apply eq_of_ofDigits_eq (areDigits_toDigits _).isDigit h.isDigit _ (ofDigits_toDigits _)
  obtain ⟨c, rest, rfl, hc⟩ := Json.head_of_areDigits h.toAreDigits
  by_cases hzero : digitValue c = 0
  · have hchar : c = '0' := eq_of_digitValue_eq hc rfl hzero
    subst hchar
    rw [h.eq_nil_of_zero rest rfl]
    rfl
  · apply Nat.le_antisymm
    · exact (Nat.length_toDigits_le_iff (by decide) (Nat.succ_pos _)).mpr (ofDigits_lt h.isDigit)
    · have hlower : tenPow rest.length ≤ ofDigits (c :: rest) := by
        rw [← List.singleton_append, ofDigits_append, ofDigits_singleton]
        exact (Nat.le_mul_of_pos_right _ (Nat.pos_of_ne_zero hzero)).trans (Nat.le_add_right _ _)
      exact (Nat.pow_lt_pow_iff_right (by decide)).mp (hlower.trans_lt (lt_ten_pow_length _))

/-- The digits after the point of a number that counts units of its last place. -/
def fractionDigits (places number : Nat) : List Char :=
  if places = 0 then [] else paddedDigits places (number % tenPow places)

/-- Digits with a point before them. Without digits there is no point. -/
def afterPoint : List Char → List Char
  | [] => []
  | digits => '.' :: digits

theorem afterPoint_of_ne_nil {digits : List Char} (hne : digits ≠ []) :
    afterPoint digits = '.' :: digits := by
  cases digits with
  | nil => exact absurd rfl hne
  | cons => rfl

theorem mem_afterPoint {c : Char} {digits : List Char} (h : c ∈ afterPoint digits) :
    c = '.' ∨ c ∈ digits := by
  cases digits with
  | nil => cases h
  | cons => exact List.mem_cons.mp h

theorem takeWhile_afterPoint (digits : List Char) :
    (afterPoint digits).takeWhile (· ≠ '.') = [] := by
  cases digits <;> rfl

theorem dropWhile_afterPoint (digits : List Char) :
    (afterPoint digits).dropWhile (· ≠ '.') = afterPoint digits := by
  cases digits <;> rfl

section

variable (places number : Nat)

theorem isDigit_of_mem_fractionDigits :
    ∀ c ∈ fractionDigits places number, c.isDigit = true := by
  unfold fractionDigits
  split
  case isTrue => exact nofun
  case isFalse => exact (areDigits_paddedDigits _ _).isDigit

theorem length_fractionDigits : (fractionDigits places number).length = places := by
  unfold fractionDigits
  split
  case isTrue hzero => exact hzero.symm
  case isFalse hplaces =>
    exact length_paddedDigits (Nat.pos_of_ne_zero hplaces)
      (Nat.mod_lt _ (Nat.pow_pos (by decide)))

theorem ofDigits_fractionDigits :
    ofDigits (fractionDigits places number) = number % tenPow places := by
  unfold fractionDigits
  split
  case isTrue hzero => rw [hzero]; exact (Nat.mod_one number).symm
  case isFalse => exact ofDigits_paddedDigits _ _

/-- The digits before and after the point together spell the number of units. -/
theorem ofDigits_whole_append_fractionDigits :
    ofDigits (toDigits (number / tenPow places) ++ fractionDigits places number) = number := by
  rw [ofDigits_append, length_fractionDigits, ofDigits_toDigits, ofDigits_fractionDigits]
  exact Nat.div_add_mod number (tenPow places)

theorem pointText_eq :
    pointText places number =
      toDigits (number / tenPow places) ++ afterPoint (fractionDigits places number) := by
  unfold pointText fractionDigits
  dsimp only
  split
  case isTrue => exact (List.append_nil _).symm
  case isFalse =>
    rw [afterPoint_of_ne_nil (areDigits_paddedDigits _ _).ne_nil]

end

/-! ## Texts of doubles -/

/-- The digits of a number before and after the point, with a fixed count of places. No needless
zero stands in front, and together they spell the nearest multiple of the last place, the one with
an even last digit if two are as near. -/
structure IsFixed (places : Nat) (number : ℚ) (whole fraction : List Char) : Prop where
  isWhole : Json.IsWhole whole
  isDigit : ∀ c ∈ fraction, c.isDigit = true
  length_eq : fraction.length = places
  roundsTo : RoundsTo (number * 10 ^ places) (ofDigits (whole ++ fraction))

/-- The decimal text of a number with a fixed count of places. -/
def IsFixedText (places : Nat) (number : ℚ) (text : List Char) : Prop :=
  ∃ whole fraction, IsFixed places number whole fraction ∧ text = whole ++ afterPoint fraction

theorem IsFixed.unique {places : Nat} {number : ℚ} {whole fraction whole' fraction' : List Char}
    (h : IsFixed places number whole fraction) (h' : IsFixed places number whole' fraction') :
    whole = whole' ∧ fraction = fraction' := by
  have hunits := h.roundsTo.unique h'.roundsTo
  have hlength := h.length_eq.trans h'.length_eq.symm
  obtain ⟨hwhole, hfraction⟩ := ofDigits_append_inj h.isDigit h'.isDigit hlength hunits
  constructor
  · calc
      whole = toDigits (ofDigits whole) := (toDigits_ofDigits h.isWhole).symm
      _ = toDigits (ofDigits whole') := congrArg toDigits hwhole
      _ = whole' := toDigits_ofDigits h'.isWhole
  · exact eq_of_ofDigits_eq h.isDigit h'.isDigit hlength hfraction

section

variable {x : Float} (hx : x.isFinite = true) (hsign : Binary64.isNegative x = false)
  (places : Nat)

include hx hsign

theorem isFixedText_fixedText :
    IsFixedText places (Binary64.value x) (fixedText places x) := by
  have hvalue : Binary64.value x * 10 ^ places =
      ((Binary64.magnitude x).numerator * tenPow places : Nat) /
        (Binary64.magnitude x).denominator := by
    rw [Binary64.value_of_not_isNegative hsign, Binary64.Dyadic.value_eq, Nat.cast_mul, tenPow,
      div_mul_eq_mul_div]
    congr 2
    exact (Nat.cast_pow 10 places).symm
  have htext : fixedText places x =
      pointText places (atPlaces places (Binary64.magnitude x)) := by
    rw [fixedText, Binary64.isNaN_of_isFinite hx, Binary64.isInf_of_isFinite hx, hsign]
    rfl
  have hrounds : RoundsTo (Binary64.value x * 10 ^ places)
      (atPlaces places (Binary64.magnitude x)) := by
    rw [hvalue]
    exact roundsTo_roundQuotient (Nat.two_pow_pos _)
  refine ⟨_, _, ⟨Json.isWhole_toDigits _, isDigit_of_mem_fractionDigits places _,
    length_fractionDigits places _, ?_⟩, htext.trans (pointText_eq places _)⟩
  rw [ofDigits_whole_append_fractionDigits]
  exact hrounds

/-- A finite double without a sign is written with the decimal text of its number. -/
theorem isFixedText_iff {text : List Char} :
    IsFixedText places (Binary64.value x) text ↔ text = fixedText places x := by
  obtain ⟨whole, fraction, hfixed, htext⟩ := isFixedText_fixedText hx hsign places
  constructor
  · rintro ⟨whole', fraction', hfixed', rfl⟩
    obtain ⟨rfl, rfl⟩ := hfixed.unique hfixed'
    exact htext.symm
  · rintro rfl
    exact ⟨whole, fraction, hfixed, htext⟩

end

end Decimal

end PushBench
