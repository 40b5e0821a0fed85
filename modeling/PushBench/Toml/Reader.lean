import PushBench.Toml.Moment
import PushBench.Toml.Number
import PushBench.Toml.Table

/-!
# Reading TOML

The statements of a document, the values in them, and the table that they add up to.
-/

namespace PushBench.Toml

/-- Values are nested less deep than this, and keys have fewer parts. -/
def nestingLimit : Nat := 80

/-! ## Keys -/

/-- Whether a character may stand in a key without quotes. -/
def isBareKey (c : Char) : Bool := c.isAlphanum || c == '_' || c == '-'

/-- One part of a key. -/
def readKeyPart (text : List Char) : Option (String × List Char) :=
  match readLineString text with
  | some (chars, rest) => some (String.ofList chars, rest)
  | none =>
    match text.takeWhile isBareKey with
    | [] => none
    | chars => some (String.ofList chars, text.dropWhile isBareKey)

/-- The parts of a key with space around each of them; at most `fuel` parts. -/
def readKeyParts : Nat → List Char → Option (Key × List Char)
  | 0, _ => none
  | fuel + 1, text => do
    let (part, rest) ← readKeyPart (skipSpace text)
    match skipSpace rest with
    | '.' :: rest =>
      let (key, rest) ← readKeyParts fuel rest
      return (⟨part :: key.path, key.last⟩, rest)
    | rest => return (⟨[], part⟩, rest)

/-- A key. -/
def readKey : List Char → Option (Key × List Char) := readKeyParts (nestingLimit - 1)

/-! ## Values -/

/-- A word that stands for a truth value. -/
def readBoolean : List Char → Option (Toml × List Char)
  | 't' :: 'r' :: 'u' :: 'e' :: rest => some (.boolean true, rest)
  | 'f' :: 'a' :: 'l' :: 's' :: 'e' :: rest => some (.boolean false, rest)
  | _ => none

/-- A value that has no values in it. -/
def readScalar (text : List Char) : Option (Toml × List Char) :=
  match readString text with
  | some (chars, rest) => some (.string (String.ofList chars), rest)
  | none => readBoolean text <|> readMoment text <|> readNumber text

mutual

/-- A value that is nested at most `depth` deep; `fuel` bounds its parts. -/
def readValue : Nat → Nat → List Char → Option (Toml × List Char)
  | 0, _, _ => none
  | fuel + 1, depth, text =>
    match text with
    | '[' :: rest =>
      if depth = 0 then none
      else (readItems fuel (depth - 1) rest).map fun (items, rest) ↦ (.array items, rest)
    | '\x7b' :: rest =>
      if depth = 0 then none
      else
        match skipSpace rest with
        | '\x7d' :: rest => (inlineTable []).map (·, rest)
        | rest => do
          let (assignments, rest) ← readAssignments fuel (depth - 1) rest
          return (← inlineTable assignments, rest)
    | text => readScalar text

/-- The items of an array up to its end. A comma may follow the last. -/
def readItems : Nat → Nat → List Char → Option (List Toml × List Char)
  | 0, _, _ => none
  | fuel + 1, depth, text =>
    match skipLines text with
    | none => none
    | some (']' :: rest) => some ([], rest)
    | some text => do
      let (item, rest) ← readValue fuel depth text
      match ← skipLines rest with
      | ',' :: rest =>
        let (items, rest) ← readItems fuel depth rest
        return (item :: items, rest)
      | ']' :: rest => return ([item], rest)
      | _ => none

/-- The assignments of an inline table up to its end. -/
def readAssignments : Nat → Nat → List Char → Option (List (Key × Toml) × List Char)
  | 0, _, _ => none
  | fuel + 1, depth, text => do
    let (key, rest) ← readKey text
    let rest ← readMark '=' rest
    let (value, rest) ← readValue fuel depth (skipSpace rest)
    match skipSpace rest with
    | ',' :: rest =>
      let (assignments, rest) ← readAssignments fuel depth rest
      return ((key, value) :: assignments, rest)
    | '\x7d' :: rest => return ([(key, value)], rest)
    | _ => none

end

/-! ## Documents -/

/-- A header after its opening bracket, with the rest of its line. -/
def readHeader (text : List Char) : Option (Statement × List Char) := do
  let (key, rest) ← readKey text
  let rest ← (readMark ']' rest).bind readLineEnd
  return (.header key, rest)

/-- A header of an array of tables after its opening brackets, with the rest of its line. -/
def readElement (text : List Char) : Option (Statement × List Char) := do
  let (key, rest) ← readKey text
  let rest ← ((readMark ']' rest).bind (readMark ']')).bind readLineEnd
  return (.element key, rest)

/-- An assignment with the rest of its line. -/
def readAssignment (text : List Char) : Option (Statement × List Char) := do
  let (key, rest) ← readKey text
  let rest ← readMark '=' rest
  let (value, rest) ← readValue (2 * rest.length + 2) (nestingLimit - 1) (skipSpace rest)
  let rest ← readLineEnd rest
  return (.assignment key value, rest)

/-- A statement with the rest of its line. -/
def readStatement : List Char → Option (Statement × List Char)
  | '[' :: '[' :: rest => readElement rest
  | '[' :: rest => readHeader rest
  | text => readAssignment text

/-- All statements of a text; at most `fuel` lines. -/
def readStatements : Nat → List Char → Option (List Statement)
  | 0, _ => none
  | fuel + 1, text =>
    match skipLines text with
    | none =>
      none
    | some [] => some []
    | some text => do
      let (statement, rest) ← readStatement text
      let statements ← readStatements fuel rest
      return statement :: statements

/-- The table that a document spells. A mark of the byte order may come first. -/
def read (text : List Char) : Option Toml :=
  let text :=
    match text with
    | '\ufeff' :: rest => rest
    | text => text
  (readStatements (text.length + 1) text).bind Draft.ofStatements

end PushBench.Toml
