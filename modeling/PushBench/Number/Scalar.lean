import PushBench.Number.Binary64

/-!
# Scalars

Timing statistics are written once for every arithmetic that has the operations of `Scalar`. The
program computes in doubles; the laws of the statistics hold in exact arithmetic, which is another
instance of the same interface.
-/

namespace PushBench

/-- The arithmetic that timing statistics need. -/
class Scalar (α : Type) extends Add α, Sub α, Mul α, Div α, OfScientific α where
  /-- A whole number as a scalar. -/
  ofNat : Nat → α
  sqrt : α → α
  /-- Strict comparison; a value that compares with nothing is not below anything. -/
  lt : α → α → Bool
  le : α → α → Bool
  /-- The total order that values are sorted by. -/
  sortsBefore : α → α → Bool
  /-- The value of an unbounded margin. -/
  infinity : α
  isInfinite : α → Bool
  /-- The greatest count that is not above a value. -/
  floor : α → Nat
  /-- The least count that is not below a value. -/
  ceil : α → Nat

namespace Scalar

variable {α : Type} [Scalar α]

/-- The sum of a list, taken from left to right. -/
def sum (values : List α) : α :=
  values.foldl (· + ·) (0.0 : α)

/-- The lesser of two values, the first if they do not differ. -/
def min (x y : α) : α := if lt y x then y else x

/-- The greater of two values, the first if they do not differ. -/
def max (x y : α) : α := if lt x y then y else x

/-- A value moved to the nearer end of an interval that it lies outside of. -/
def clamp (lower upper x : α) : α :=
  if lt x lower then lower else if lt upper x then upper else x

end Scalar

/-- Doubles: every operation rounds to nearest, and counts stop at the largest that sixty-four
bits hold. -/
instance : Scalar Float where
  ofNat := Float.ofNat
  sqrt := Float.sqrt
  lt x y := decide (x < y)
  le x y := decide (x ≤ y)
  sortsBefore x y := decide (Binary64.orderKey x ≤ Binary64.orderKey y)
  infinity := Binary64.infinity
  isInfinite := Float.isInf
  floor := Binary64.floor
  ceil := Binary64.ceil

end PushBench
