import PushBench.Number.Scalar

/-!
# Percentiles

A percentile of a list is read off the sorted list, by linear interpolation between the two ranks
next to it.
-/

namespace PushBench

variable {α : Type} [Scalar α]

/-- The value at a fractional rank of a sorted list, between the two whole ranks next to it. A rank
past the end counts as the last. -/
def interpolateAt (sorted : List α) (last : Nat) (rank : α) : α :=
  let lower := Scalar.floor rank
  let upper := min (lower + 1) last
  let fraction := rank - Scalar.ofNat lower
  let low := sorted.getD lower (0.0 : α)
  let high := sorted.getD upper (0.0 : α)
  low + fraction * (high - low)

/-- The percentile of a list: zero for the empty list, and the value itself for a single one.
Percentages below 0 count as 0, and those above 100 as 100. -/
def percentile (values : List α) (percentage : α) : α :=
  match values with
  | [] => (0.0 : α)
  | [value] => value
  | _ =>
    let last := values.length - 1
    let share := Scalar.clamp (0.0 : α) (1.0 : α) (percentage / (100.0 : α))
    interpolateAt (values.mergeSort Scalar.sortsBefore) last (share * Scalar.ofNat last)

end PushBench
