/-!
# Similar words

The Jaro similarity of two words: the mean of the share of each word that is common to both and of
the share of the common characters that stand in the same order.
-/

namespace PushBench

namespace Similarity

/-- Marks the first unmarked occurrence of a character between the indices `low` and `high`. `index`
is the index of the first of the characters. -/
def markFirst (c : Char) (low high : Nat) : Nat → List (Char × Bool) → Option (List (Char × Bool))
  | _, [] => none
  | index, (other, marked) :: rest =>
    if low ≤ index ∧ index ≤ high ∧ other = c ∧ !marked then some ((other, true) :: rest)
    else (markFirst c low high (index + 1) rest).map ((other, marked) :: ·)

/-- The characters of a word that have a partner at most `reach` places away in another word, and
that word with the partners marked. `index` is the index of the first character. -/
def common (reach : Nat) : Nat → List Char → List (Char × Bool) → List Char × List (Char × Bool)
  | _, [], other => ([], other)
  | index, c :: rest, other =>
    match markFirst c (index - reach) (index + reach) 0 other with
    | some other =>
      let (matched, other) := common reach (index + 1) rest other
      (c :: matched, other)
    | none => common reach (index + 1) rest other

/-- Whether the similarity of two words is greater than seven tenths. -/
def areSimilar (left right : List Char) : Bool :=
  let reach := max left.length right.length / 2 - 1
  let (matched, marked) := common reach 0 left (right.map fun c ↦ (c, false))
  let partners := (marked.filter (·.2)).map Prod.fst
  let displaced := ((matched.zip partners).countP fun pair ↦ pair.1 != pair.2) / 2
  let count := matched.length
  decide (21 * left.length * right.length * count <
    10 * (count * count * (left.length + right.length) +
      (count - displaced) * left.length * right.length))

end Similarity

end PushBench
