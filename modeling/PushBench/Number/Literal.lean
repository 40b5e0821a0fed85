import PushBench.Number.Decimal

/-!
# Spelled numbers

Decimal spellings and the doubles nearest to them. A plain spelling has digits and at most one
point; a free spelling may have a power of ten, and it may name a value that is not finite.
-/

namespace PushBench

namespace Decimal

/-- The decimal that digits with at most one point spell. There has to be a digit. -/
def ofPoint? (text : List Char) : Option Decimal :=
  let whole := text.takeWhile Char.isDigit
  match text.dropWhile Char.isDigit with
  | [] => if whole.isEmpty then none else some ⟨ofDigits whole, 0⟩
  | '.' :: fraction =>
    if fraction.all Char.isDigit && !(whole ++ fraction).isEmpty then
      some ⟨ofDigits (whole ++ fraction), -(fraction.length : Int)⟩
    else none
  | _ => none

/-- The whole number that digits after an optional sign spell. There has to be a digit. -/
def ofSigned? (text : List Char) : Option Int :=
  let (negative, digits) :=
    match text with
    | '-' :: rest => (true, rest)
    | '+' :: rest => (false, rest)
    | text => (false, text)
  if digits.isEmpty || !digits.all Char.isDigit then none
  else some (if negative then -(ofDigits digits : Int) else (ofDigits digits : Int))

/-- Whether a character marks a power of ten. -/
def isPowerMark (c : Char) : Bool := c == 'e' || c == 'E'

/-- The decimal that digits with at most one point and an optional power of ten spell. -/
def ofScaled? (text : List Char) : Option Decimal :=
  match text.dropWhile (!isPowerMark ·) with
  | [] => ofPoint? text
  | _ :: power => do
    let number ← ofPoint? (text.takeWhile (!isPowerMark ·))
    let exponent ← ofSigned? power
    return { number with exponent := number.exponent + exponent }

end Decimal

namespace Binary64

/-- A magnitude with an optional sign before it. -/
def signed (read : List Char → Option Float) : List Char → Option Float
  | '-' :: rest => (read rest).map (-·)
  | '+' :: rest => read rest
  | text => read text

/-- The double nearest to a plain spelling with an optional sign. -/
def readPlain : List Char → Option Float :=
  signed fun text ↦ (Decimal.ofPoint? text).map Decimal.toFloat

/-- The double that a free spelling without sign stands for. -/
def readMagnitude (text : List Char) : Option Float :=
  match String.ofList (text.map Char.toLower) with
  | "inf" => some infinity
  | "infinity" => some infinity
  | "nan" => some (0.0 / 0.0)
  | _ => (Decimal.ofScaled? text).map Decimal.toFloat

/-- The double nearest to a free spelling with an optional sign. -/
def read : List Char → Option Float := signed readMagnitude

end Binary64

end PushBench
