import PushBench.Number.Power

/-!
# Doubles as exact numbers

A finite double is a sign and a magnitude `significand · 2 ^ exponent`. This module reads both off
the sixty-four bits, so that rounding to whole numbers, printing and ordering are exact
calculations with natural numbers.
-/

namespace PushBench

/-- The magnitude `significand · 2 ^ exponent`. -/
structure Dyadic where
  significand : Nat
  exponent : Int
  deriving DecidableEq, Repr

namespace Dyadic

/-- The numerator of a magnitude over `denominator`. -/
def numerator (x : Dyadic) : Nat :=
  x.significand * twoPow x.exponent.toNat

/-- The power of two that a magnitude below one unit divides by. -/
def denominator (x : Dyadic) : Nat :=
  twoPow (-x.exponent).toNat

/-- The greatest whole number that is not above the magnitude. -/
def floor (x : Dyadic) : Nat :=
  x.numerator / x.denominator

/-- The least whole number that is not below the magnitude. -/
def ceil (x : Dyadic) : Nat :=
  (x.numerator + (x.denominator - 1)) / x.denominator

end Dyadic

namespace Binary64

/-- The largest count that sixty-four bits hold. -/
def countLimit : Nat := twoPow 64 - 1

/-- The bits of a double as a natural number. -/
def bits (x : Float) : Nat := x.toBits.toNat

/-- Whether the sign bit is set. -/
def isNegative (x : Float) : Bool := decide (twoPow 63 ≤ bits x)

/-- The fifty-two bits below the exponent. -/
def fraction (x : Float) : Nat := bits x % twoPow 52

/-- The eleven exponent bits as stored. -/
def storedExponent (x : Float) : Nat := bits x / twoPow 52 % twoPow 11

/-- The magnitude of a finite double. Subnormals have no implicit leading bit. -/
def magnitude (x : Float) : Dyadic :=
  if storedExponent x = 0 then ⟨fraction x, -1074⟩
  else ⟨twoPow 52 + fraction x, (storedExponent x : Int) - 1075⟩

/-- Whether a magnitude is the least of its binade, so that its lower neighbour is half as far
away as its upper one. -/
def isBinadeStart (x : Float) : Bool :=
  fraction x == 0 && decide (1 < storedExponent x)

/-- A key that orders doubles totally: negative before positive, `-0` before `0`, and a NaN after
infinity. -/
def orderKey (x : Float) : Nat :=
  if isNegative x then twoPow 64 - 1 - bits x else twoPow 63 + bits x

/-- A rounding of magnitudes carried to all doubles: a NaN and everything negative give zero, and
results above `countLimit` give `countLimit`. -/
def saturating (round : Dyadic → Nat) (x : Float) : Nat :=
  if x.isNaN || isNegative x then 0
  else if x.isInf then countLimit
  else min countLimit (round (magnitude x))

/-- The count below a double. -/
def floor (x : Float) : Nat := saturating Dyadic.floor x

/-- The count above a double. -/
def ceil (x : Float) : Nat := saturating Dyadic.ceil x

/-- Positive infinity. -/
def infinity : Float := 1.0 / 0.0

end Binary64

end PushBench
