import PushBench.Number.Places

/-!
# Digits of decimals

The digits that a number is written with spell that number, and none of them is superfluous. No
other digits of their length spell it. The shortest decimal of a double has no digits but a zero
only for a double that is zero.
-/

namespace PushBench.Decimal

/-- Digits, of which there is at least one. -/
structure AreDigits (text : List Char) : Prop where
  ne_nil : text ≠ []
  isDigit : ∀ c ∈ text, c.isDigit = true

theorem areDigits_toDigits (number : Nat) : AreDigits (toDigits number) where
  ne_nil := Nat.toDigits_ne_nil
  isDigit _ hc := Nat.isDigit_of_mem_toDigits (by decide) (by decide) hc

theorem areDigits_append {zeros text : List Char} (hzeros : ∀ c ∈ zeros, c = '0')
    (htext : AreDigits text) : AreDigits (zeros ++ text) where
  ne_nil hnil := htext.ne_nil (List.append_eq_nil_iff.mp hnil).2
  isDigit c hc := by
    rcases List.mem_append.mp hc with hc | hc
    · rw [hzeros c hc]; rfl
    · exact htext.isDigit c hc

theorem areDigits_paddedDigits (count number : Nat) : AreDigits (paddedDigits count number) :=
  areDigits_append (fun _ hc ↦ List.eq_of_mem_replicate hc) (areDigits_toDigits number)

@[simp]
theorem ofDigits_toDigits (number : Nat) : ofDigits (toDigits number) = number :=
  Nat.ofDigitChars_ten_toDigits

@[simp]
theorem toDigits_zero : toDigits 0 = ['0'] := Nat.toDigits_zero 10

theorem head?_toDigits_ne {number : Nat} (hnumber : number ≠ 0) :
    (toDigits number).head? ≠ some '0' := by
  induction number using Nat.strongRecOn with
  | ind number ih =>
    rcases Nat.lt_or_ge number 10 with hlt | hge
    · have hdigit : ∀ digit < 10, digit ≠ 0 → Nat.digitChar digit ≠ '0' := by decide
      simpa [toDigits, Nat.toDigits_of_lt_base hlt] using hdigit number hlt hnumber
    · have hhigh : number / 10 ≠ 0 := by omega
      have hne : Nat.toDigits 10 (number / 10) ≠ [] := Nat.toDigits_ne_nil
      rw [toDigits, Nat.toDigits_of_base_le (by decide) hge, List.head?_append,
        List.head?_eq_some_head hne, Option.some_or, ← List.head?_eq_some_head hne]
      exact ih (number / 10) (by omega) hhigh

/-! ## Spelling -/

theorem ofDigits_append (text digits : List Char) :
    ofDigits (text ++ digits) = tenPow digits.length * ofDigits text + ofDigits digits :=
  (Nat.ofDigitChars_append 0).trans Nat.ofDigitChars_eq_ofDigitChars_zero

@[simp]
theorem ofDigits_singleton (c : Char) : ofDigits [c] = digitValue c := Nat.zero_add _

@[simp]
theorem ofDigits_paddedDigits (count number : Nat) :
    ofDigits (paddedDigits count number) = number := by
  have hzeros (count : Nat) : ofDigits (List.replicate count '0') = 0 :=
    Nat.ofDigitChars_replicate_zero.trans (Nat.mul_zero _)
  rw [paddedDigits, ofDigits_append, hzeros, Nat.mul_zero, Nat.zero_add, ofDigits_toDigits]

theorem length_paddedDigits {count number : Nat} (hcount : 0 < count)
    (hnumber : number < tenPow count) : (paddedDigits count number).length = count := by
  have hlength : (toDigits number).length ≤ count :=
    (Nat.length_toDigits_le_iff (by decide) hcount).mpr hnumber
  rw [paddedDigits, List.length_append, List.length_replicate]
  omega

theorem toNat_of_isDigit {c : Char} (hc : c.isDigit = true) :
    c.toNat = 48 + digitValue c ∧ digitValue c < 10 := by
  have hbounds : 48 ≤ c.toNat ∧ c.toNat ≤ 57 := Char.isDigit_iff_toNat.mp hc
  have hvalue : digitValue c = c.toNat - 48 := rfl
  omega

theorem eq_of_digitValue_eq {c d : Char} (hc : c.isDigit = true) (hd : d.isDigit = true)
    (h : digitValue c = digitValue d) : c = d :=
  Char.toNat_inj.mp (by rw [(toNat_of_isDigit hc).1, (toNat_of_isDigit hd).1, h])

section

variable {text other digits digits' : List Char}

theorem ofDigits_lt (hdigits : ∀ c ∈ digits, c.isDigit = true) :
    ofDigits digits < tenPow digits.length := by
  induction digits with
  | nil => exact Nat.one_pos
  | cons c digits ih =>
    obtain ⟨hc, hrest⟩ := List.forall_mem_cons.mp hdigits
    have hdigit := (toNat_of_isDigit hc).2
    calc
      ofDigits (c :: digits) = tenPow digits.length * digitValue c + ofDigits digits := by
        rw [← List.singleton_append, ofDigits_append, ofDigits_singleton]
      _ < tenPow digits.length * (digitValue c + 1) := Nat.add_lt_add_left (ih hrest) _
      _ ≤ tenPow digits.length * 10 := Nat.mul_le_mul_left _ hdigit

/-- If two texts spell one number and as many last digits are cut off both, what is left spells one
number, and so does what is cut off. -/
theorem ofDigits_append_inj (hdigits : ∀ c ∈ digits, c.isDigit = true)
    (hdigits' : ∀ c ∈ digits', c.isDigit = true) (hlength : digits.length = digits'.length)
    (h : ofDigits (text ++ digits) = ofDigits (other ++ digits')) :
    ofDigits text = ofDigits other ∧ ofDigits digits = ofDigits digits' := by
  have hlt := ofDigits_lt hdigits
  have hlt' := ofDigits_lt hdigits'
  rw [ofDigits_append, ofDigits_append, hlength] at h
  rw [hlength] at hlt
  have hpos : 0 < tenPow digits'.length := Nat.pow_pos (by decide)
  have hhigh : ofDigits text = ofDigits other := by
    have hquotient := congrArg (· / tenPow digits'.length) h
    simpa only [Nat.mul_add_div hpos, Nat.div_eq_of_lt hlt, Nat.div_eq_of_lt hlt', Nat.add_zero]
      using hquotient
  rw [hhigh] at h
  exact ⟨hhigh, Nat.add_left_cancel h⟩

/-- Digits of one length that spell one number are the same. -/
theorem eq_of_ofDigits_eq (hdigits : ∀ c ∈ digits, c.isDigit = true)
    (hdigits' : ∀ c ∈ digits', c.isDigit = true) (hlength : digits.length = digits'.length)
    (h : ofDigits digits = ofDigits digits') : digits = digits' := by
  induction digits generalizing digits' with
  | nil => exact (List.length_eq_zero_iff.mp hlength.symm).symm
  | cons c digits ih =>
    cases digits' with
    | nil => cases hlength
    | cons d digits' =>
      obtain ⟨hc, hdigits⟩ := List.forall_mem_cons.mp hdigits
      obtain ⟨hd, hdigits'⟩ := List.forall_mem_cons.mp hdigits'
      have hrest := Nat.succ.inj hlength
      obtain ⟨hfirst, hvalue⟩ := @ofDigits_append_inj [c] [d] _ _ hdigits hdigits' hrest h
      rw [ofDigits_singleton, ofDigits_singleton] at hfirst
      rw [eq_of_digitValue_eq hc hd hfirst, ih hdigits hdigits' hrest hvalue]

end

/-! ## Shortest decimals -/

theorem digits_trimWithin_ne {fuel : Nat} {x : Decimal} (hx : x.digits ≠ 0) :
    (trimWithin fuel x).digits ≠ 0 := by
  induction fuel generalizing x with
  | zero => exact hx
  | succ fuel ih =>
    unfold trimWithin
    split
    case isTrue hzero => exact ih (show x.digits / 10 ≠ 0 by omega)
    case isFalse => exact hx

end PushBench.Decimal

namespace PushBench.Shortest.Interval

variable {range : Interval} {tie : Tie} {found : Decimal}

theorem ne_zero_of_contains (hlower : 0 < range.lower) {unit scale point : Nat}
    (hunit : 0 < unit) (hpoint : range.contains unit scale point = true) : point ≠ 0 := by
  rintro rfl
  have hpos : range.lower * unit ≠ 0 := Nat.pos_iff_ne_zero.mp (Nat.mul_pos hlower hunit)
  simp [contains, hpos] at hpoint

/-- A point of a grid that rounds to an interval above zero is not zero. -/
theorem digits_onGrid_ne (hlower : 0 < range.lower) {exponent : Int}
    (hfound : range.onGrid tie exponent = some found) : found.digits ≠ 0 := by
  have hunit : 0 < twoPow range.exponent.toNat * tenPow (-exponent).toNat :=
    Nat.mul_pos (Nat.pow_pos (by decide)) (Nat.pow_pos (by decide))
  simp only [onGrid] at hfound
  split at hfound <;> cases hfound
  case h_1 hquotient _ =>
    have hne := ne_zero_of_contains hlower hunit hquotient
    dsimp only
    split
    · exact Nat.succ_ne_zero _
    · exact hne
  case h_2 hquotient _ => exact ne_zero_of_contains hlower hunit hquotient
  case h_3 => exact Nat.succ_ne_zero _

theorem digits_search_ne (hlower : 0 < range.lower) {count : Nat} {exponent : Int}
    (hfound : range.search tie count exponent = some found) : found.digits ≠ 0 := by
  induction count generalizing exponent with
  | zero => cases hfound
  | succ count ih =>
    unfold search at hfound
    split at hfound
    case h_1 hgrid => exact digits_onGrid_ne hlower (hgrid.trans hfound)
    case h_2 => exact ih hfound

end PushBench.Shortest.Interval

namespace PushBench.Decimal

/-- The shortest decimal of a double is the plain zero or has a digit that is not zero. -/
theorem shortest_eq_or_digits_ne (tie : Tie) (x : Float) :
    shortest tie x = ⟨0, 0⟩ ∨ (shortest tie x).digits ≠ 0 := by
  unfold shortest
  dsimp only
  split
  case isTrue => exact .inl rfl
  case isFalse hsignificand =>
    split
    case h_1 found hfound =>
      have hlower : 0 < (Shortest.Interval.ofFloat x).lower := by
        unfold Shortest.Interval.ofFloat
        dsimp only
        split <;> omega
      exact .inr (digits_trimWithin_ne (Shortest.Interval.digits_search_ne hlower hfound))
    case h_2 => exact .inl rfl

end PushBench.Decimal
