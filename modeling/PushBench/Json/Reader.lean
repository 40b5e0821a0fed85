import PushBench.Json.Value

/-!
# Reading JSON

A text is read as one strict JSON value with nothing but white space around it. Every reader takes
the text from where the value starts and yields the text after it.
-/

namespace PushBench.Json

/-- White space between the parts of a value. -/
def isSpace (c : Char) : Bool :=
  c == ' ' || c == '\n' || c == '\t' || c == '\r'

/-- A text from its first character that is not white space. -/
def skipSpace (text : List Char) : List Char := text.dropWhile isSpace

/-! ## Numbers -/

/-- The digits at the start of a text, of which there must be one, and the text after them. -/
def readDigits (text : List Char) : Option (List Char × List Char) :=
  match text.takeWhile Char.isDigit with
  | [] => none
  | digits => some (digits, text.dropWhile Char.isDigit)

/-- The whole part of a number: a zero, or digits that do not start with one. -/
def readWhole : List Char → Option (List Char × List Char)
  | '0' :: rest =>
    match rest with
    | c :: _ => if c.isDigit then none else some (['0'], rest)
    | [] => some (['0'], [])
  | text => readDigits text

/-- A point and digits, or nothing. -/
def readFraction : List Char → Option (List Char × List Char)
  | '.' :: rest => (readDigits rest).map fun (digits, rest) ↦ ('.' :: digits, rest)
  | text => some ([], text)

/-- The sign of an exponent, or nothing. -/
def readSign : List Char → List Char × List Char
  | '+' :: rest => (['+'], rest)
  | '-' :: rest => (['-'], rest)
  | text => ([], text)

/-- An exponent, or nothing. -/
def readExponent : List Char → Option (List Char × List Char)
  | c :: rest =>
    if c = 'e' ∨ c = 'E' then
      let (sign, rest) := readSign rest
      (readDigits rest).map fun (digits, rest) ↦ (c :: sign ++ digits, rest)
    else some ([], c :: rest)
  | [] => some ([], [])

/-- A number without its sign. -/
def readUnsigned (text : List Char) : Option (List Char × List Char) :=
  (readWhole text).bind fun (whole, text) ↦
    (readFraction text).bind fun (fraction, text) ↦
      (readExponent text).map fun (exponent, text) ↦ (whole ++ fraction ++ exponent, text)

/-- A number. -/
def readNumber : List Char → Option (List Char × List Char)
  | '-' :: rest => (readUnsigned rest).map fun (literal, rest) ↦ ('-' :: literal, rest)
  | text => readUnsigned text

/-! ## Strings -/

/-- A part of a string: a character, or a code unit that was spelled with digits. -/
inductive StringPart where
  | char (c : Char)
  | unit (code : Nat)

/-- The value of a hexadecimal digit. -/
def hexValue (c : Char) : Option Nat :=
  if '0' ≤ c ∧ c ≤ '9' then some (c.toNat - '0'.toNat)
  else if 'a' ≤ c ∧ c ≤ 'f' then some (c.toNat - 'a'.toNat + 10)
  else if 'A' ≤ c ∧ c ≤ 'F' then some (c.toNat - 'A'.toNat + 10)
  else none

/-- The number that four hexadecimal digits spell. -/
def hexUnit (a b c d : Char) : Option Nat := do
  let a ← hexValue a
  let b ← hexValue b
  let c ← hexValue c
  let d ← hexValue d
  return ((a * 16 + b) * 16 + c) * 16 + d

/-- The character that a backslash and a letter stand for. -/
def escaped : Char → Option Char
  | '"' => some '"'
  | '\\' => some '\\'
  | '/' => some '/'
  | 'b' => some '\x08'
  | 'f' => some '\x0c'
  | 'n' => some '\n'
  | 'r' => some '\r'
  | 't' => some '\t'
  | _ => none

/-- The parts of a string up to its closing quote, and the text after that. -/
def readParts : List Char → Option (List StringPart × List Char)
  | [] => none
  | '"' :: rest => some ([], rest)
  | '\\' :: 'u' :: a :: b :: c :: d :: rest => do
    let code ← hexUnit a b c d
    let (parts, rest) ← readParts rest
    return (.unit code :: parts, rest)
  | '\\' :: letter :: rest => do
    let c ← escaped letter
    let (parts, rest) ← readParts rest
    return (.char c :: parts, rest)
  | c :: rest =>
    if c.toNat < 32 ∨ c = '\\' then none
    else (readParts rest).map fun (parts, rest) ↦ (.char c :: parts, rest)

/-- Whether a code unit is the first half of a surrogate pair. -/
def isLeading (code : Nat) : Bool := decide (0xd800 ≤ code ∧ code < 0xdc00)

/-- Whether a code unit is the second half of a surrogate pair. -/
def isTrailing (code : Nat) : Bool := decide (0xdc00 ≤ code ∧ code < 0xe000)

/-- The characters of a string, if no half of a surrogate pair stands alone. -/
def joinParts : List StringPart → Option (List Char)
  | [] => some []
  | .char c :: rest => (joinParts rest).map (c :: ·)
  | .unit first :: .unit second :: rest =>
    if isLeading first then
      if isTrailing second then
        (joinParts rest).map
          (Char.ofNat (0x10000 + (first - 0xd800) * 0x400 + (second - 0xdc00)) :: ·)
      else none
    else if isTrailing first then none
    else (joinParts (.unit second :: rest)).map (Char.ofNat first :: ·)
  | .unit code :: rest =>
    if isLeading code || isTrailing code then none
    else (joinParts rest).map (Char.ofNat code :: ·)

/-- A string after its opening quote. -/
def readString (text : List Char) : Option (Json × List Char) :=
  (readParts text).map fun (parts, rest) ↦
    match joinParts parts with
    | some chars => (.string (String.ofList chars), rest)
    | none => (.unpaired, rest)

/-- The name of a member and the colon after it. A name must be a text. -/
def readName : List Char → Option (String × List Char)
  | '"' :: rest =>
    match readString rest with
    | some (.string name, rest) =>
      match skipSpace rest with
      | ':' :: rest => some (name, rest)
      | _ => none
    | _ => none
  | _ => none

/-! ## Values -/

mutual

/-- A value at the start of a text, nested at most `depth` deep. -/
def readValue : Nat → List Char → Option (Json × List Char)
  | 0, _ => none
  | depth + 1, text =>
    match skipSpace text with
    | 'n' :: 'u' :: 'l' :: 'l' :: rest => some (.null, rest)
    | 't' :: 'r' :: 'u' :: 'e' :: rest => some (.bool true, rest)
    | 'f' :: 'a' :: 'l' :: 's' :: 'e' :: rest => some (.bool false, rest)
    | '"' :: rest => readString rest
    | '[' :: rest =>
      match skipSpace rest with
      | ']' :: rest => some (.array [], rest)
      | rest => (readItems depth rest).map fun (items, rest) ↦ (.array items, rest)
    | '\x7b' :: rest =>
      match skipSpace rest with
      | '\x7d' :: rest => some (.object [], rest)
      | rest => (readMembers depth rest).map fun (members, rest) ↦ (.object members, rest)
    | text => (readNumber text).map fun (literal, rest) ↦ (.number literal, rest)

/-- The items of an array up to its end. -/
def readItems : Nat → List Char → Option (List Json × List Char)
  | 0, _ => none
  | depth + 1, text =>
    match readValue depth text with
    | none => none
    | some (item, rest) =>
      match skipSpace rest with
      | ']' :: rest => some ([item], rest)
      | ',' :: rest => (readItems depth rest).map fun (items, rest) ↦ (item :: items, rest)
      | _ => none

/-- The members of an object up to its end. -/
def readMembers : Nat → List Char → Option (List (String × Json) × List Char)
  | 0, _ => none
  | depth + 1, text =>
    match readName (skipSpace text) with
    | none => none
    | some (name, rest) =>
      match readValue depth rest with
      | none => none
      | some (value, rest) =>
        match skipSpace rest with
        | '\x7d' :: rest => some ([(name, value)], rest)
        | ',' :: rest =>
          (readMembers depth rest).map fun (members, rest) ↦ ((name, value) :: members, rest)
        | _ => none

end

/-- The value that a text spells. Every nested value takes a character at least, so the length of
the text bounds the depth. -/
def read (text : List Char) : Option Json :=
  match readValue (2 * text.length + 2) text with
  | some (value, rest) => if (skipSpace rest).isEmpty then some value else none
  | none => none

end PushBench.Json
