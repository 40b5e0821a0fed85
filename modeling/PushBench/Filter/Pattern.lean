import PushBench.Filter.CharSet
import PushBench.Number.Power

/-!
# Patterns

What a regular expression means: from which positions of a text to which it leads. A set of
positions is a number whose bits are the positions in it, so that a pattern acts on a whole set at
once, and repetition is iteration until nothing changes.
-/

namespace PushBench

/-- What a pattern can demand of the place between two characters. -/
inductive Anchor where
  | textStart
  | textEnd
  /-- After a line feed or at the start. -/
  | lineStart
  /-- Before a line feed or at the end. -/
  | lineEnd
  /-- As `lineStart`, where a carriage return alone or with a line feed ends lines too. -/
  | lineStartAfterReturn
  /-- As `lineEnd`, where a carriage return alone or with a line feed ends lines too. -/
  | lineEndBeforeReturn
  /-- Whether there is a word character before and after, given as a relation. -/
  | words (wordSet : CharSet) (relation : Bool → Bool → Bool)

/-- Whether a place satisfies an anchor, given the characters before and after it. -/
def Anchor.holds : Anchor → Option Char → Option Char → Bool
  | .textStart, before, _ => before.isNone
  | .textEnd, _, after => after.isNone
  | .lineStart, before, _ => before.all (· == '\n')
  | .lineEnd, _, after => after.all (· == '\n')
  | .lineStartAfterReturn, before, after =>
    before.all fun c ↦ c == '\n' || c == '\r' && after != some '\n'
  | .lineEndBeforeReturn, before, after =>
    after.all fun c ↦ c == '\r' || c == '\n' && before != some '\r'
  | .words wordSet relation, before, after =>
    relation (before.any (wordSet.contains ·.toNat)) (after.any (wordSet.contains ·.toNat))

/-- A regular expression. -/
inductive Pattern where
  | empty
  | one (set : CharSet)
  | anchored (anchor : Anchor)
  | sequence (first second : Pattern)
  | choice (left right : Pattern)
  /-- At least `least` times, and at most `most` times if there is a bound. -/
  | repeated (body : Pattern) (least : Nat) (most : Option Nat)

/-- The set of the places of a text at which a condition on the characters before and after holds.
`before` is the character before the text. -/
def placesWhere (holds : Option Char → Option Char → Bool) (before : Option Char) :
    List Char → Nat
  | [] => if holds before none then 1 else 0
  | c :: rest =>
    (if holds before (some c) then 1 else 0) + 2 * placesWhere holds (some c) rest

/-- Applies a step up to `count` times, or until it changes nothing. -/
def iterateUntilStable (step : Nat → Nat) : Nat → Nat → Nat
  | 0, places => places
  | count + 1, places =>
    let next := step places
    if next = places then places else iterateUntilStable step count next

namespace Pattern

/-- A list of patterns, one after the other. -/
def sequences (patterns : List Pattern) : Pattern :=
  match patterns with
  | [] => .empty
  | [pattern] => pattern
  | pattern :: rest => .sequence pattern (sequences rest)

/-- The places at which a match that starts at one of `places` can end. After as many rounds as the
text has places, one more round of a repetition changes nothing. -/
def ends (text : List Char) : Pattern → Nat → Nat
  | .empty, places => places
  | .one set, places =>
    2 * (places &&& placesWhere (fun _ after ↦ after.any (set.contains ·.toNat)) none text)
  | .anchored anchor, places => places &&& placesWhere anchor.holds none text
  | .sequence first second, places => second.ends text (first.ends text places)
  | .choice left right, places => left.ends text places ||| right.ends text places
  | .repeated body least most, places =>
    let rounds := text.length + 1
    let required := iterateUntilStable (body.ends text) (min least rounds) places
    let optional :=
      match most with
      | some most => min (most - least) rounds
      | none => rounds
    iterateUntilStable (fun places ↦ places ||| body.ends text places) optional required

/-- Whether a pattern matches somewhere in a text. -/
def matchesIn (pattern : Pattern) (text : List Char) : Bool :=
  pattern.ends text (twoPow (text.length + 1) - 1) != 0

end Pattern

end PushBench
