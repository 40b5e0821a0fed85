import PushBench.Toml.Blank

/-!
# TOML strings

Basic strings, in which a backslash escapes, and literal strings, in which nothing does. Both have
a form that runs over several lines.
-/

namespace PushBench.Toml

/-- The value of a hexadecimal digit. -/
def hexDigit? (c : Char) : Option Nat :=
  if '0' ≤ c ∧ c ≤ '9' then some (c.toNat - '0'.toNat)
  else if 'a' ≤ c ∧ c ≤ 'f' then some (c.toNat - 'a'.toNat + 10)
  else if 'A' ≤ c ∧ c ≤ 'F' then some (c.toNat - 'A'.toNat + 10)
  else none

/-- The number that hexadecimal digits spell. -/
def hexNumber? (digits : List Char) : Option Nat :=
  digits.foldl (fun number c ↦ do return 16 * (← number) + (← hexDigit? c)) (some 0)

/-- The character that `count` hexadecimal digits spell, and the text after them. -/
def readCodePoint (count : Nat) (text : List Char) : Option (Char × List Char) :=
  if text.length < count then none
  else
    (hexNumber? (text.take count)).bind fun code ↦
      if code.isValidChar then some (Char.ofNat code, text.drop count) else none

/-- The character that an escape stands for, read after the backslash. -/
def readEscape : List Char → Option (Char × List Char)
  | 'b' :: rest => some ('\x08', rest)
  | 't' :: rest => some ('\t', rest)
  | 'n' :: rest => some ('\n', rest)
  | 'f' :: rest => some ('\x0c', rest)
  | 'r' :: rest => some ('\r', rest)
  | '"' :: rest => some ('"', rest)
  | '\\' :: rest => some ('\\', rest)
  | 'u' :: rest => readCodePoint 4 rest
  | 'U' :: rest => readCodePoint 8 rest
  | _ => none

/-- The rest of a basic string after its opening quote; at most `fuel` characters. -/
def readBasic : Nat → List Char → Option (List Char × List Char)
  | 0, _ => none
  | fuel + 1, text =>
    match text with
    | '"' :: rest => some ([], rest)
    | '\\' :: rest => do
      let (c, rest) ← readEscape rest
      let (chars, rest) ← readBasic fuel rest
      return (c :: chars, rest)
    | c :: rest =>
      if isPrintable c then (readBasic fuel rest).map fun (chars, rest) ↦ (c :: chars, rest)
      else none
    | [] => none

/-- The rest of a literal string after its opening quote. -/
def readLiteral : List Char → Option (List Char × List Char)
  | '\'' :: rest => some ([], rest)
  | c :: rest =>
    if isPrintable c then (readLiteral rest).map fun (chars, rest) ↦ (c :: chars, rest) else none
  | [] => none

/-- A text after the end of a line, if it starts with one. -/
def skipNewline (text : List Char) : List Char := (readNewline text).getD text

/-- The text after a backslash at the end of a line, if it starts with the rest of that line: all
space and ends of lines up to the next character that shows. -/
def skipFolded (text : List Char) : Option (List Char) :=
  (readNewline (skipSpace text)).map fun rest ↦ dropBlank rest.length rest
where
  dropBlank : Nat → List Char → List Char
    | 0, text => text
    | fuel + 1, text =>
      let text := skipSpace text
      match readNewline text with
      | some rest => dropBlank fuel rest
      | none => text

/-- How a string of several lines goes on after its quotes: `kept` of them belong to it, and the
string is over or goes on. -/
def closing (quotes : Nat) : Option (Nat × Bool) :=
  if quotes < 3 then some (quotes, false)
  else if quotes < 6 then some (quotes - 3, true)
  else none

/-- The rest of a basic string of several lines; at most `fuel` parts. -/
def readBasicLines : Nat → List Char → Option (List Char × List Char)
  | 0, _ => none
  | fuel + 1, text =>
    match text with
    | '"' :: _ =>
      let quotes := text.takeWhile (· == '"')
      let rest := text.dropWhile (· == '"')
      match closing quotes.length with
      | none => none
      | some (kept, true) => some (List.replicate kept '"', rest)
      | some (kept, false) =>
        (readBasicLines fuel rest).map fun (chars, rest) ↦
          (List.replicate kept '"' ++ chars, rest)
    | '\\' :: rest =>
      match skipFolded rest with
      | some rest => readBasicLines fuel rest
      | none => do
        let (c, rest) ← readEscape rest
        let (chars, rest) ← readBasicLines fuel rest
        return (c :: chars, rest)
    | c :: rest =>
      match readNewline (c :: rest) with
      | some rest => (readBasicLines fuel rest).map fun (chars, rest) ↦ ('\n' :: chars, rest)
      | none =>
        if isPrintable c then
          (readBasicLines fuel rest).map fun (chars, rest) ↦ (c :: chars, rest)
        else none
    | [] => none

/-- The rest of a literal string of several lines; at most `fuel` parts. -/
def readLiteralLines : Nat → List Char → Option (List Char × List Char)
  | 0, _ => none
  | fuel + 1, text =>
    match text with
    | '\'' :: _ =>
      let quotes := text.takeWhile (· == '\'')
      let rest := text.dropWhile (· == '\'')
      match closing quotes.length with
      | none => none
      | some (kept, true) => some (List.replicate kept '\'', rest)
      | some (kept, false) =>
        (readLiteralLines fuel rest).map fun (chars, rest) ↦
          (List.replicate kept '\'' ++ chars, rest)
    | c :: rest =>
      match readNewline (c :: rest) with
      | some rest => (readLiteralLines fuel rest).map fun (chars, rest) ↦ ('\n' :: chars, rest)
      | none =>
        if isPrintable c then
          (readLiteralLines fuel rest).map fun (chars, rest) ↦ (c :: chars, rest)
        else none
    | [] => none

/-- A string that stays on one line. -/
def readLineString : List Char → Option (List Char × List Char)
  | '"' :: rest => readBasic (rest.length + 1) rest
  | '\'' :: rest => readLiteral rest
  | _ => none

/-- A string of any form. -/
def readString : List Char → Option (List Char × List Char)
  | '"' :: '"' :: '"' :: rest => readBasicLines (rest.length + 1) (skipNewline rest)
  | '\'' :: '\'' :: '\'' :: rest => readLiteralLines (rest.length + 1) (skipNewline rest)
  | text => readLineString text

end PushBench.Toml
