import PushBench.Number.Places

/-!
# Styles of writing doubles

A style says how the shortest decimal of a double is laid out. Messages always write it out in
full; JSON changes to powers of ten outside a middle range.
-/

namespace PushBench

/-- How the shortest decimal of a finite double is written. -/
structure NumberStyle where
  /-- Whether a decimal whose leading digit stands for `10 ^ exponent` is written in full. -/
  writesOut : Int → Bool
  /-- Whether a whole number that is written out ends in `.0`. -/
  marksWhole : Bool
  /-- What happens to a value half-way between two shortest candidates. -/
  tie : Tie

namespace NumberStyle

/-- Messages write every double out in full. -/
def message : NumberStyle := ⟨fun _ ↦ true, false, .up⟩

/-- JSON writes doubles from `0.00001` up to below `10 ^ 16` out in full. -/
def json : NumberStyle := ⟨fun e ↦ decide (-5 ≤ e ∧ e < 16), true, .even⟩

/-- A decimal in full: digits, and a point where there are places. -/
def fullText (marksWhole : Bool) (x : Decimal) : List Char :=
  if x.exponent < 0 then Decimal.pointText x.exponent.natAbs x.digits
  else
    Decimal.toDigits x.digits ++ List.replicate x.exponent.toNat '0' ++
      if marksWhole then ['.', '0'] else []

/-- A power of ten with its sign. -/
def powerText (exponent : Int) : List Char :=
  'e' :: (if exponent < 0 then '-' else '+') :: Decimal.toDigits exponent.natAbs

/-- A decimal as one digit, the others after a point, and a power of ten. -/
def scaledText (x : Decimal) (leading : Int) : List Char :=
  match Decimal.toDigits x.digits with
  | [] => []
  | [digit] => digit :: powerText leading
  | digit :: rest => digit :: '.' :: rest ++ powerText leading

/-- The text of a finite double. -/
def finiteText (style : NumberStyle) (x : Float) : List Char :=
  let shortest := Decimal.shortest style.tie x
  let leading := shortest.exponent + (Decimal.length shortest.digits : Int) - 1
  let sign := if Binary64.isNegative x then ['-'] else []
  sign ++
    if shortest.digits = 0 || style.writesOut leading then fullText style.marksWhole shortest
    else scaledText shortest leading

/-- The text of any double. -/
def text (style : NumberStyle) (x : Float) : List Char :=
  if x.isNaN then ['N', 'a', 'N']
  else if x.isInf then (if Binary64.isNegative x then ['-'] else []) ++ ['i', 'n', 'f']
  else style.finiteText x

end NumberStyle

end PushBench
