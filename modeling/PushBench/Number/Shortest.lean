import PushBench.Number.Decimal

/-!
# The shortest decimal of a double

Among the decimals that are nearer to a double than to any other, the shortest has the fewest
digits, and among those it is the nearest to the double. The search goes through the grids of one
digit, two digits, and so on. If a point of a grid rounds to the double, so does one of the two
points next to the double's exact value; the first grid with such a point wins.
-/

namespace PushBench

/-- What happens to a value half-way between two candidates. -/
inductive Tie where
  | up
  | even
  deriving DecidableEq, Repr

/-- Whether the upper of two neighbours `quotient` and `quotient + 1` is taken, for a value that
lies `2 * remainder / divisor` half-steps above the lower. -/
def Tie.takesUpper (tie : Tie) (quotient remainder divisor : Nat) : Bool :=
  if 2 * remainder = divisor then
    match tie with
    | .up => true
    | .even => quotient % 2 == 1
  else decide (divisor < 2 * remainder)

namespace Shortest

/-- The decimals that round to a magnitude, in quarters of its last binary place: from `lower` to
`upper` around `center`. The ends belong to it iff the significand is even. -/
structure Interval where
  lower : Nat
  center : Nat
  upper : Nat
  /-- The power of two that one quarter stands for. -/
  exponent : Int
  closed : Bool

/-- The interval of a finite double's magnitude. -/
def Interval.ofFloat (x : Float) : Interval :=
  let m := Binary64.magnitude x
  { lower := 4 * m.significand - if Binary64.isBinadeStart x then 1 else 2
    center := 4 * m.significand
    upper := 4 * m.significand + 2
    exponent := m.exponent - 2
    closed := m.significand % 2 == 0 }

/-- Whether `point · scale` lies in the interval after its quarters are multiplied by `unit`. -/
def Interval.contains (range : Interval) (unit scale point : Nat) : Bool :=
  if range.closed then
    decide (range.lower * unit ≤ point * scale) && decide (point * scale ≤ range.upper * unit)
  else
    decide (range.lower * unit < point * scale) && decide (point * scale < range.upper * unit)

/-- The point of the grid of step `10 ^ exponent` that rounds to the interval's center and is the
nearest to it, if there is one. -/
def Interval.onGrid (range : Interval) (tie : Tie) (exponent : Int) : Option Decimal :=
  let unit := twoPow range.exponent.toNat * tenPow (-exponent).toNat
  let scale := twoPow (-range.exponent).toNat * tenPow exponent.toNat
  let quotient := range.center * unit / scale
  let remainder := range.center * unit % scale
  match range.contains unit scale quotient, range.contains unit scale (quotient + 1) with
  | true, true =>
    some ⟨if tie.takesUpper quotient remainder scale then quotient + 1 else quotient, exponent⟩
  | true, false => some ⟨quotient, exponent⟩
  | false, true => some ⟨quotient + 1, exponent⟩
  | false, false => none

/-- The first hit on the grids of step `10 ^ exponent`, `10 ^ (exponent - 1)`, and so on through
`count` grids. -/
def Interval.search (range : Interval) (tie : Tie) : Nat → Int → Option Decimal
  | 0, _ => none
  | count + 1, exponent =>
    match range.onGrid tie exponent with
    | some x => some x
    | none => range.search tie count (exponent - 1)

/-- An exponent of ten that is not below the size of a magnitude: its binary length times the
logarithm of two, rounded up. -/
def decimalSize (m : Dyadic) : Int :=
  ((Nat.log2 m.significand : Int) + 1 + m.exponent) * 30103 / 100000 + 1

end Shortest

/-- The shortest decimal that rounds to the magnitude of a finite double. Twenty grids are more
than enough: seventeen digits tell any two doubles apart. -/
def Decimal.shortest (tie : Tie) (x : Float) : Decimal :=
  let m := Binary64.magnitude x
  if m.significand = 0 then ⟨0, 0⟩
  else
    match (Shortest.Interval.ofFloat x).search tie 20 (Shortest.decimalSize m) with
    | some found => found.trim
    | none => ⟨0, 0⟩

end PushBench
