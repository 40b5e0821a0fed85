import PushBench.Text.Ranges

/-!
# White space

The property White_Space of Unicode, and texts without white space at their ends.
-/

namespace PushBench

/-- The code points at which White_Space changes. -/
def blankChanges : List Nat :=
  [9, 14, 32, 33, 133, 134, 160, 161, 5760, 5761, 8192, 8203, 8232, 8234, 8239, 8240, 8287, 8288,
    12288, 12289]

/-- Whether a character is white space. -/
def isBlank (c : Char) : Bool := memRanges blankChanges c.toNat

/-- A text from its first character that is not white space. -/
def trimStart (text : List Char) : List Char := text.dropWhile isBlank

/-- A text up to its last character that is not white space. -/
def trimEnd (text : List Char) : List Char := (text.reverse.dropWhile isBlank).reverse

/-- A text without the white space at its ends. -/
def trim (text : List Char) : List Char := trimEnd (trimStart text)

end PushBench
