/-!
# Powers

Powers of two and of ten as natural numbers.
-/

namespace PushBench

/-- A power of two. -/
def twoPow (exponent : Nat) : Nat := Nat.pow 2 exponent

/-- A power of ten. -/
def tenPow (exponent : Nat) : Nat := Nat.pow 10 exponent

end PushBench
