import PushBench.Json.Value

/-!
# Writing JSON

JSON text without white space, and JSON text over several lines. Strings escape the quote, the
backslash and the controls below the space; all else stands for itself.
-/

namespace PushBench.Json

/-- The two lowercase hexadecimal digits of a control character. -/
def controlDigits (code : Nat) : List Char :=
  [Nat.digitChar (code / 16), Nat.digitChar (code % 16)]

/-- One character of a string. -/
def escapeChar (c : Char) : List Char :=
  if c = '"' then ['\\', '"']
  else if c = '\\' then ['\\', '\\']
  else if c = '\x08' then ['\\', 'b']
  else if c = '\t' then ['\\', 't']
  else if c = '\n' then ['\\', 'n']
  else if c = '\x0c' then ['\\', 'f']
  else if c = '\r' then ['\\', 'r']
  else if c.toNat < 32 then ['\\', 'u', '0', '0'] ++ controlDigits c.toNat
  else [c]

/-- A string in quotes. -/
def quote (text : String) : List Char :=
  '"' :: text.toList.flatMap escapeChar ++ ['"']

/-- The words for truth values. -/
def boolText : Bool → List Char
  | true => ['t', 'r', 'u', 'e']
  | false => ['f', 'a', 'l', 's', 'e']

/-- The word for the absence of a value. -/
def nullText : List Char := ['n', 'u', 'l', 'l']

mutual

/-- JSON text without white space. -/
def compact : Json → List Char
  | .null => nullText
  | .bool value => boolText value
  | .number literal => literal
  | .string text => quote text
  | .unpaired => nullText
  | .array items => '[' :: compactItems items ++ [']']
  | .object members => '\x7b' :: compactMembers members ++ ['\x7d']

/-- Items with commas between them. -/
def compactItems : List Json → List Char
  | [] => []
  | [item] => compact item
  | item :: rest => compact item ++ ',' :: compactItems rest

/-- Members with commas between them. -/
def compactMembers : List (String × Json) → List Char
  | [] => []
  | [(name, value)] => quote name ++ ':' :: compact value
  | (name, value) :: rest => quote name ++ ':' :: compact value ++ ',' :: compactMembers rest

end

/-- A new line that is indented by two spaces per level. -/
def newline (level : Nat) : List Char := '\n' :: List.replicate (2 * level) ' '

mutual

/-- JSON text with every item and member on a line of its own, at a level of nesting. Empty arrays
and objects stay on one line. -/
def prettyAt (level : Nat) : Json → List Char
  | .null => nullText
  | .bool value => boolText value
  | .number literal => literal
  | .string text => quote text
  | .unpaired => nullText
  | .array [] => ['[', ']']
  | .array items => '[' :: prettyItems (level + 1) items ++ newline level ++ [']']
  | .object [] => ['\x7b', '\x7d']
  | .object members =>
    '\x7b' :: prettyMembers (level + 1) members ++ newline level ++ ['\x7d']

/-- Items on lines of their own, with commas between them. -/
def prettyItems (level : Nat) : List Json → List Char
  | [] => []
  | [item] => newline level ++ prettyAt level item
  | item :: rest => newline level ++ prettyAt level item ++ ',' :: prettyItems level rest

/-- Members on lines of their own, with commas between them. -/
def prettyMembers (level : Nat) : List (String × Json) → List Char
  | [] => []
  | [(name, value)] => newline level ++ quote name ++ [':', ' '] ++ prettyAt level value
  | (name, value) :: rest =>
    newline level ++ quote name ++ [':', ' '] ++ prettyAt level value ++
      ',' :: prettyMembers level rest

end

/-- JSON text over several lines. -/
def pretty (value : Json) : List Char := prettyAt 0 value

end PushBench.Json
