import PushBench.Number.Binary64

/-!
# Decimal numbers

A decimal is `digits · 10 ^ exponent`. This module turns digit characters into numbers and back,
and a decimal into the double nearest to it.
-/

namespace PushBench

/-- The number `digits · 10 ^ exponent`. -/
structure Decimal where
  digits : Nat
  exponent : Int
  deriving DecidableEq, Repr

namespace Decimal

/-- The value of a decimal digit. -/
def digitValue (c : Char) : Nat := c.toNat - '0'.toNat

/-- The number that decimal digits spell, most significant first. -/
def ofDigits (text : List Char) : Nat :=
  text.foldl (fun number c ↦ 10 * number + digitValue c) 0

/-- The decimal digits of a number, most significant first. -/
def toDigits (number : Nat) : List Char := Nat.toDigits 10 number

/-- How many decimal digits a number has. Zero has one. -/
def length (number : Nat) : Nat := (toDigits number).length

/-- The same number with no trailing zero digit; at most `fuel` digits are taken off. -/
def trimWithin : Nat → Decimal → Decimal
  | 0, x => x
  | fuel + 1, x =>
    if x.digits ≠ 0 ∧ x.digits % 10 = 0 then
      trimWithin fuel ⟨x.digits / 10, x.exponent + 1⟩
    else x

/-- The same number with no trailing zero digit. -/
def trim (x : Decimal) : Decimal := trimWithin (length x.digits) x

/-- The double nearest to a decimal, ties to even. Decimals that no double comes near are settled
by their size alone: with the leading digit at `10 ^ 400` or above the result is infinite, and
below `10 ^ -400` it is zero. -/
def toFloat (x : Decimal) : Float :=
  let leading := x.exponent + (length x.digits : Int)
  if x.digits = 0 then 0.0
  else if 400 < leading then Binary64.infinity
  else if leading < -400 then 0.0
  else Float.ofScientific x.digits (decide (x.exponent < 0)) x.exponent.natAbs

end Decimal

end PushBench
