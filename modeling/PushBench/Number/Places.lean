import PushBench.Number.Shortest

/-!
# Fixed decimal places

The exact value of a double, rounded to a number of decimal places with ties to even.
-/

namespace PushBench

/-- A quotient rounded to the nearest whole number. -/
def roundQuotient (tie : Tie) (numerator divisor : Nat) : Nat :=
  let quotient := numerator / divisor
  if tie.takesUpper quotient (numerator % divisor) divisor then quotient + 1 else quotient

namespace Decimal

/-- The digits of `number`, at least `count` of them. -/
def paddedDigits (count number : Nat) : List Char :=
  let digits := toDigits number
  List.replicate (count - digits.length) '0' ++ digits

/-- A count of units of `10 ^ -places`, with a point if there are places. -/
def pointText (places number : Nat) : List Char :=
  let whole := toDigits (number / tenPow places)
  if places = 0 then whole else whole ++ '.' :: paddedDigits places (number % tenPow places)

/-- A magnitude in units of `10 ^ -places`, rounded with ties to even. -/
def atPlaces (places : Nat) (m : Dyadic) : Nat :=
  roundQuotient .even (m.numerator * tenPow places) m.denominator

/-- A double with a fixed number of decimal places. The sign of a negative zero stays. -/
def fixedText (places : Nat) (x : Float) : List Char :=
  if x.isNaN then ['N', 'a', 'N']
  else
    let sign := if Binary64.isNegative x then ['-'] else []
    if x.isInf then sign ++ ['i', 'n', 'f']
    else sign ++ pointText places (atPlaces places (Binary64.magnitude x))

end Decimal

end PushBench
