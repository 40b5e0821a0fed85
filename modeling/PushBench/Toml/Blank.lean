/-!
# Blanks in TOML

Space, comments and ends of lines. Every reader takes the text from where its part starts and yields
the text after it.
-/

namespace PushBench.Toml

/-- Space within a line. -/
def isSpace (c : Char) : Bool := c == ' ' || c == '\t'

/-- A text after the space at its start. -/
def skipSpace (text : List Char) : List Char := text.dropWhile isSpace

/-- Whether a character may stand in a comment or in a literal string: no control but the tab. -/
def isPrintable (c : Char) : Bool :=
  c == '\t' || decide (32 ≤ c.toNat) && c != '\x7f'

/-- The end of a line, and nothing else. -/
def readNewline : List Char → Option (List Char)
  | '\n' :: rest => some rest
  | '\r' :: '\n' :: rest => some rest
  | _ => none

/-- A text after the comment at its start, if there is one. -/
def skipComment : List Char → List Char
  | '#' :: rest => rest.dropWhile isPrintable
  | text => text

/-- The rest of a line: space, a comment, and the end of the line or of the text. -/
def readLineEnd (text : List Char) : Option (List Char) :=
  match skipComment (skipSpace text) with
  | [] => some []
  | text => readNewline text

/-- A text after all space, comments and ends of lines at its start; at most `fuel` of them. There
is no answer if a comment is not followed by the end of a line or of the text. -/
def skipLinesWithin : Nat → List Char → Option (List Char)
  | 0, text => some text
  | fuel + 1, text =>
    match skipSpace text with
    | '#' :: rest => (readLineEnd ('#' :: rest)).bind (skipLinesWithin fuel)
    | '\n' :: rest => skipLinesWithin fuel rest
    | '\r' :: rest => (readNewline ('\r' :: rest)).bind (skipLinesWithin fuel)
    | text => some text

/-- A text after all space, comments and ends of lines at its start. -/
def skipLines (text : List Char) : Option (List Char) := skipLinesWithin text.length text

end PushBench.Toml
