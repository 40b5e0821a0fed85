import PushBench.Json.Reader
import PushBench.Proofs.Number.Digits
import PushBench.Proofs.Number.Magnitude

/-!
# How JSON spells numbers

The grammar of numbers, by which the reader takes in a whole number and nothing more. Counts and
finite doubles are written by this grammar.
-/

namespace PushBench.Json

open Decimal (AreDigits)

/-! ## The grammar -/

/-- The whole part of a number: a zero, or digits that do not start with one. -/
structure IsWhole (text : List Char) : Prop extends AreDigits text where
  eq_nil_of_zero : ∀ rest, text = '0' :: rest → rest = []

/-- The places of a number: nothing, or a point and digits. -/
inductive IsFraction : List Char → Prop
  | nothing : IsFraction []
  | point {digits : List Char} (hdigits : AreDigits digits) : IsFraction ('.' :: digits)

/-- The exponent of a number: nothing, or a mark, perhaps a sign, and digits. -/
inductive IsExponent : List Char → Prop
  | nothing : IsExponent []
  | power {mark : Char} {sign digits : List Char} (hmark : mark = 'e' ∨ mark = 'E')
      (hsign : sign = [] ∨ sign = ['+'] ∨ sign = ['-']) (hdigits : AreDigits digits) :
      IsExponent (mark :: sign ++ digits)

/-- A number without its sign. -/
inductive IsUnsigned : List Char → Prop
  | parts {whole fraction exponent : List Char} (hwhole : IsWhole whole)
      (hfraction : IsFraction fraction) (hexponent : IsExponent exponent) :
      IsUnsigned (whole ++ fraction ++ exponent)

/-- A number. -/
inductive IsNumber : List Char → Prop
  | unsigned {literal : List Char} (hliteral : IsUnsigned literal) : IsNumber literal
  | negative {literal : List Char} (hliteral : IsUnsigned literal) : IsNumber ('-' :: literal)

/-- A text does not start with a character that could go on with a number. -/
def EndsNumber (text : List Char) : Prop :=
  ∀ c ∈ text.head?, c.isDigit = false ∧ c ≠ '.' ∧ c ≠ 'e' ∧ c ≠ 'E'

/-! ## Reading numbers -/

variable {text literal rest : List Char}

theorem head_of_areDigits (h : AreDigits text) :
    ∃ c tail, text = c :: tail ∧ c.isDigit = true := by
  cases text with
  | nil => exact absurd rfl h.ne_nil
  | cons c tail => exact ⟨c, tail, rfl, h.isDigit c List.mem_cons_self⟩

theorem readDigits_append (h : AreDigits text) (hrest : ∀ c ∈ rest.head?, c.isDigit = false) :
    readDigits (text ++ rest) = some (text, rest) := by
  have htake : rest.takeWhile Char.isDigit = [] := by
    cases rest with
    | nil => rfl
    | cons c tail => simp [hrest c rfl]
  have hdrop : rest.dropWhile Char.isDigit = rest := by
    cases rest with
    | nil => rfl
    | cons c tail => simp [hrest c rfl]
  obtain ⟨c, tail, rfl, -⟩ := head_of_areDigits h
  unfold readDigits
  rw [List.takeWhile_append_of_pos h.isDigit, List.dropWhile_append_of_pos h.isDigit, htake, hdrop,
    List.append_nil]

theorem readWhole_append (h : IsWhole text) (hrest : ∀ c ∈ rest.head?, c.isDigit = false) :
    readWhole (text ++ rest) = some (text, rest) := by
  obtain ⟨c, tail, rfl, -⟩ := head_of_areDigits h.toAreDigits
  by_cases hzero : c = '0'
  · subst hzero
    obtain rfl := h.eq_nil_of_zero tail rfl
    cases rest with
    | nil => rfl
    | cons c tail => simp [readWhole, hrest c rfl]
  · rw [← readDigits_append h.toAreDigits hrest]
    unfold readWhole
    split
    case h_1 heq => simp_all
    case h_2 => rfl

theorem readFraction_append (h : IsFraction text)
    (hrest : ∀ c ∈ rest.head?, c.isDigit = false ∧ c ≠ '.') :
    readFraction (text ++ rest) = some (text, rest) := by
  cases h with
  | nothing =>
    unfold readFraction
    split
    case h_1 => simp_all
    case h_2 => rfl
  | point hdigits =>
    simp [readFraction, readDigits_append hdigits fun c hc ↦ (hrest c hc).1]

theorem readSign_append {sign : List Char} (hsign : sign = [] ∨ sign = ['+'] ∨ sign = ['-'])
    (h : AreDigits text) : readSign (sign ++ (text ++ rest)) = (sign, text ++ rest) := by
  obtain ⟨c, tail, rfl, hc⟩ := head_of_areDigits h
  rcases hsign with rfl | rfl | rfl
  · unfold readSign
    split <;> simp_all
  · rfl
  · rfl

theorem readExponent_append (h : IsExponent text) (hrest : EndsNumber rest) :
    readExponent (text ++ rest) = some (text, rest) := by
  cases h with
  | nothing =>
    cases rest with
    | nil => rfl
    | cons c tail =>
      obtain ⟨-, -, hlower, hupper⟩ := hrest c rfl
      simp [readExponent, hlower, hupper]
  | @power mark sign digits hmark hsign hdigits =>
    have hread := readDigits_append hdigits fun c hc ↦ (hrest c hc).1
    simp [readExponent, hmark, readSign_append hsign hdigits, hread]

theorem endsFraction_exponent (h : IsExponent text) (hrest : EndsNumber rest) :
    ∀ c ∈ (text ++ rest).head?, c.isDigit = false ∧ c ≠ '.' := by
  cases h with
  | nothing => exact fun c hc ↦ ⟨(hrest c hc).1, (hrest c hc).2.1⟩
  | power hmark => rcases hmark with rfl | rfl <;> simp

theorem endsDigits_fraction (h : IsFraction text) (hrest : ∀ c ∈ rest.head?, c.isDigit = false) :
    ∀ c ∈ (text ++ rest).head?, c.isDigit = false := by
  cases h with
  | nothing => exact hrest
  | point => simp

theorem readUnsigned_append (h : IsUnsigned literal) (hrest : EndsNumber rest) :
    readUnsigned (literal ++ rest) = some (literal, rest) := by
  obtain ⟨hwhole, hfraction, hexponent⟩ := h
  have hends := endsFraction_exponent hexponent hrest
  have hpoint := endsDigits_fraction hfraction fun c hc ↦ (hends c hc).1
  simp only [readUnsigned, List.append_assoc, readWhole_append hwhole hpoint,
    readFraction_append hfraction hends, readExponent_append hexponent hrest, Option.bind_some,
    Option.map_some]

theorem head_of_isUnsigned (h : IsUnsigned literal) :
    ∃ c tail, literal = c :: tail ∧ c.isDigit = true := by
  obtain ⟨hwhole, -, -⟩ := h
  obtain ⟨c, tail, rfl, hc⟩ := head_of_areDigits hwhole.toAreDigits
  exact ⟨c, _, rfl, hc⟩

/-- A number is read as a whole where something else follows. -/
theorem readNumber_append (h : IsNumber literal) (hrest : EndsNumber rest) :
    readNumber (literal ++ rest) = some (literal, rest) := by
  cases h with
  | unsigned h =>
    rw [← readUnsigned_append h hrest]
    obtain ⟨c, tail, rfl, hc⟩ := head_of_isUnsigned h
    unfold readNumber
    split
    case h_1 => simp_all
    case h_2 => rfl
  | negative h => simp [readNumber, readUnsigned_append h hrest]

/-- A number starts with a digit or with a sign. -/
theorem head_of_isNumber (h : IsNumber literal) :
    ∃ c tail, literal = c :: tail ∧ (c.isDigit = true ∨ c = '-') := by
  cases h with
  | unsigned h =>
    obtain ⟨c, tail, rfl, hc⟩ := head_of_isUnsigned h
    exact ⟨c, tail, rfl, .inl hc⟩
  | negative => exact ⟨_, _, rfl, .inr rfl⟩

/-! ## Writing numbers -/

theorem isWhole_toDigits (number : Nat) : IsWhole (Decimal.toDigits number) where
  toAreDigits := Decimal.areDigits_toDigits number
  eq_nil_of_zero rest hrest := by
    rcases Nat.eq_zero_or_pos number with rfl | hpos
    · exact (List.cons.inj (Decimal.toDigits_zero.symm.trans hrest)).2.symm
    · have hhead := Decimal.head?_toDigits_ne (Nat.pos_iff_ne_zero.mp hpos)
      rw [hrest] at hhead
      exact absurd rfl hhead

theorem isWhole_append {zeros : List Char} (h : IsWhole text)
    (hhead : text.head? ≠ some '0') (hzeros : ∀ c ∈ zeros, c = '0') : IsWhole (text ++ zeros) where
  ne_nil hnil := h.ne_nil (List.append_eq_nil_iff.mp hnil).1
  isDigit c hc := by
    rcases List.mem_append.mp hc with hc | hc
    · exact h.isDigit c hc
    · rw [hzeros c hc]; rfl
  eq_nil_of_zero rest hrest := by
    obtain ⟨c, tail, rfl, -⟩ := head_of_areDigits h.toAreDigits
    obtain ⟨rfl, -⟩ := List.cons.inj hrest
    exact absurd rfl hhead

theorem isWhole_singleton {c : Char} (hc : c.isDigit = true) : IsWhole [c] where
  ne_nil := List.cons_ne_nil c []
  isDigit _ hmem := List.eq_of_mem_singleton hmem ▸ hc
  eq_nil_of_zero _ hrest := (List.cons.inj hrest).2.symm

theorem isUnsigned_whole (h : IsWhole text) : IsUnsigned text := by
  simpa using IsUnsigned.parts h .nothing .nothing

theorem isUnsigned_point {digits : List Char} (h : IsWhole text) (hdigits : AreDigits digits) :
    IsUnsigned (text ++ '.' :: digits) := by
  simpa using IsUnsigned.parts h (.point hdigits) .nothing

/-- A decimal written in full is a number, if a zero is written as a plain zero. -/
theorem isUnsigned_fullText (marksWhole : Bool) {x : Decimal}
    (hx : x = ⟨0, 0⟩ ∨ x.digits ≠ 0) : IsUnsigned (NumberStyle.fullText marksWhole x) := by
  unfold NumberStyle.fullText
  split
  case isTrue hneg =>
    have hplaces : x.exponent.natAbs ≠ 0 := by omega
    rw [Decimal.pointText, if_neg hplaces]
    exact isUnsigned_point (isWhole_toDigits _) (Decimal.areDigits_paddedDigits _ _)
  case isFalse hnonneg =>
    have hwhole : IsWhole (Decimal.toDigits x.digits ++ List.replicate x.exponent.toNat '0') := by
      rcases hx with rfl | hdigits
      · exact isWhole_toDigits 0
      · exact isWhole_append (isWhole_toDigits _) (Decimal.head?_toDigits_ne hdigits)
          fun _ hc ↦ List.eq_of_mem_replicate hc
    cases marksWhole with
    | false => simpa using isUnsigned_whole hwhole
    | true => exact isUnsigned_point hwhole (Decimal.areDigits_toDigits 0)

theorem isExponent_powerText (exponent : Int) : IsExponent (NumberStyle.powerText exponent) := by
  have hdigits := Decimal.areDigits_toDigits exponent.natAbs
  unfold NumberStyle.powerText
  split
  · exact .power (.inl rfl) (.inr (.inr rfl)) hdigits
  · exact .power (.inl rfl) (.inr (.inl rfl)) hdigits

/-- A decimal written with a power of ten is a number. -/
theorem isUnsigned_scaledText (x : Decimal) (leading : Int) :
    IsUnsigned (NumberStyle.scaledText x leading) := by
  have hpower := isExponent_powerText leading
  have hdigits := Decimal.areDigits_toDigits x.digits
  unfold NumberStyle.scaledText
  split
  case h_1 hnil => exact absurd hnil hdigits.ne_nil
  case h_2 digit hsingle =>
    have hdigit := hdigits.isDigit digit (by simp [hsingle])
    simpa using IsUnsigned.parts (isWhole_singleton hdigit) .nothing hpower
  case h_3 digit rest hmore heq =>
    have hdigit := hdigits.isDigit digit (by simp [heq])
    have hrest : AreDigits rest :=
      ⟨fun hnil ↦ hmore hnil, fun c hc ↦ hdigits.isDigit c (by simp [heq, hc])⟩
    simpa using IsUnsigned.parts (isWhole_singleton hdigit) (.point hrest) hpower

theorem isNumber_finiteText (style : NumberStyle) (x : Float) :
    IsNumber (style.finiteText x) := by
  have hunsigned : IsUnsigned (
      let shortest := Decimal.shortest style.tie x
      let leading := shortest.exponent + (Decimal.length shortest.digits : Int) - 1
      if shortest.digits = 0 || style.writesOut leading then
        NumberStyle.fullText style.marksWhole shortest
      else NumberStyle.scaledText shortest leading) := by
    dsimp only
    split
    · exact isUnsigned_fullText _ (Decimal.shortest_eq_or_digits_ne _ _)
    · exact isUnsigned_scaledText _ _
  unfold NumberStyle.finiteText
  dsimp only
  split
  · exact .negative hunsigned
  · exact .unsigned hunsigned

/-- A finite double is written as a number. -/
theorem isNumber_text (style : NumberStyle) {x : Float} (hx : x.isFinite = true) :
    IsNumber (style.text x) := by
  simp only [NumberStyle.text, Binary64.isNaN_of_isFinite hx, Binary64.isInf_of_isFinite hx,
    Bool.false_eq_true, if_false]
  exact isNumber_finiteText style x

end PushBench.Json
