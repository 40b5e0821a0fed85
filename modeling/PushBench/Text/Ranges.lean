/-!
# Sets of characters as ranges

A property of characters is kept as the ascending list of code points at which it changes, starting
from "does not hold". A character has the property iff an odd number of changes are at or before
it.
-/

namespace PushBench

/-- Whether a code point lies in the set that changes at `changes`. -/
def memRanges (changes : List Nat) (code : Nat) : Bool :=
  match changes with
  | [] => false
  | first :: rest => if code < first then false else !memRanges rest code

end PushBench
