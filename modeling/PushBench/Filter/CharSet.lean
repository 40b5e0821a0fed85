import PushBench.Text.Blank
import PushBench.Text.Folding
import PushBench.Text.Ranges
import PushBench.Text.Word

/-!
# Sets of characters

The sets that character classes are built of. Case is ignored by closing a set under case variants.
-/

namespace PushBench

/-- A set of code points. -/
inductive CharSet where
  /-- The code points from `first` to `last`. -/
  | range (first last : Nat)
  /-- The set that changes at `changes`. -/
  | property (changes : List Nat)
  | union (left right : CharSet)
  | intersection (left right : CharSet)
  | difference (left right : CharSet)
  | complement (set : CharSet)
  /-- All characters below `limit` that differ in case only from a character of the set. -/
  | caseless (limit : Nat) (set : CharSet)
  deriving Repr

namespace CharSet

/-- The set without elements. -/
def empty : CharSet := .property []

/-- The set of one character. -/
def single (c : Char) : CharSet := .range c.toNat c.toNat

/-- The set of the characters of a text. -/
def ofChars (chars : List Char) : CharSet :=
  chars.foldr (fun c set ↦ .union (single c) set) empty

/-- The union of sets. -/
def unions (sets : List CharSet) : CharSet := sets.foldr .union empty

/-- The elements of exactly one of two sets. -/
def symmetricDifference (left right : CharSet) : CharSet :=
  .union (.difference left right) (.difference right left)

/-- Whether a code point belongs to a set. -/
def contains : CharSet → Nat → Bool
  | .range first last, code => decide (first ≤ code) && decide (code ≤ last)
  | .property changes, code => memRanges changes code
  | .union left right, code => left.contains code || right.contains code
  | .intersection left right, code => left.contains code && right.contains code
  | .difference left right, code => left.contains code && !right.contains code
  | .complement set, code => !set.contains code
  | .caseless limit set, code =>
    set.contains code ||
      decide (code < limit) && (caseVariants code).any fun variant ↦
        decide (variant < limit) && set.contains variant

/-! ## Named sets -/

/-- The decimal digits of ASCII. -/
def asciiDigit : CharSet := .range 48 57

/-- The capital letters of ASCII. -/
def asciiUpper : CharSet := .range 65 90

/-- The small letters of ASCII. -/
def asciiLower : CharSet := .range 97 122

/-- The letters of ASCII. -/
def asciiLetter : CharSet := .union asciiUpper asciiLower

/-- The letters and digits of ASCII. -/
def asciiAlphanumeric : CharSet := .union asciiLetter asciiDigit

/-- The white space of ASCII. -/
def asciiSpace : CharSet := .union (.range 9 13) (.range 32 32)

/-- The word characters of ASCII. -/
def asciiWord : CharSet := .union asciiAlphanumeric (.range 95 95)

/-- The punctuation of ASCII. -/
def asciiPunctuation : CharSet :=
  unions [.range 33 47, .range 58 64, .range 91 96, .range 123 126]

/-- The set that a name between colons stands for in a class. -/
def ofAsciiName? : String → Option CharSet
  | "alnum" => some asciiAlphanumeric
  | "alpha" => some asciiLetter
  | "ascii" => some (.range 0 127)
  | "blank" => some (ofChars ['\t', ' '])
  | "cntrl" => some (.union (.range 0 31) (.range 127 127))
  | "digit" => some asciiDigit
  | "graph" => some (.range 33 126)
  | "lower" => some asciiLower
  | "print" => some (.range 32 126)
  | "punct" => some asciiPunctuation
  | "space" => some asciiSpace
  | "upper" => some asciiUpper
  | "word" => some asciiWord
  | "xdigit" => some (unions [asciiDigit, .range 65 70, .range 97 102])
  | _ => none

/-- Decimal digits. -/
def digit : CharSet := .property digitChanges

/-- White space. -/
def space : CharSet := .property blankChanges

/-- Word characters. -/
def word : CharSet := .property wordChanges

end CharSet

end PushBench
