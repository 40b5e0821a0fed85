import PushBench.Filter.Escape

/-!
# Character classes

Classes in brackets: characters, ranges, named sets and classes, which can be nested, negated and
combined by operations.
-/

namespace PushBench.CharClass

/-- The operations between the parts of a class. -/
inductive Operation where
  | intersection
  | difference
  | symmetricDifference
  deriving DecidableEq, Repr

/-- The result of an operation. -/
def Operation.apply (flags : PatternFlags) (left right : CharSet) : Operation → CharSet
  | .intersection => .intersection (flags.closed left) (flags.closed right)
  | .difference => .difference (flags.closed left) (flags.closed right)
  | .symmetricDifference => .symmetricDifference (flags.closed left) (flags.closed right)

/-- A class that has been opened. -/
structure Draft where
  negated : Bool
  /-- What stands before the last operation, and that operation. -/
  pending : Option (CharSet × Operation)
  /-- The parts since the last operation. -/
  parts : CharSet

namespace Draft

/-- A draft with one more part. -/
def add (draft : Draft) (part : CharSet) : Draft :=
  { draft with parts := .union draft.parts part }

/-- The set of a draft, before it is negated. -/
def content (draft : Draft) (flags : PatternFlags) : CharSet :=
  match draft.pending with
  | some (left, operation) => operation.apply flags left draft.parts
  | none => draft.parts

/-- A draft with one more operation. -/
def operate (draft : Draft) (flags : PatternFlags) (operation : Operation) : Draft :=
  { draft with pending := some (draft.content flags, operation), parts := .empty }

/-- The set of a class that has been closed. -/
def close (draft : Draft) (flags : PatternFlags) : Option CharSet :=
  let set := flags.closed (draft.content flags)
  flags.admitted (if draft.negated then .complement set else set)

end Draft

/-- A circumflex, if there is one. -/
def readNegation (flags : PatternFlags) : List Char → Bool × List Char
  | '^' :: rest => (true, flags.skip rest)
  | text => (false, text)

/-- The minus signs at the start of a class, which stand for themselves. -/
def skipMinus (flags : PatternFlags) : Nat → List Char → List Char
  | fuel + 1, '-' :: rest => skipMinus flags fuel (flags.skip rest)
  | _, text => text

/-- The start of a class after its bracket: a negation, and then minus signs or a closing bracket
that stand for themselves. -/
def readOpening (flags : PatternFlags) (text : List Char) : Draft × List Char :=
  let (negated, text) := readNegation flags (flags.skip text)
  match text with
  | '-' :: _ =>
    (⟨negated, none, .union .empty (.single '-')⟩, skipMinus flags text.length text)
  | ']' :: rest => (⟨negated, none, .union .empty (.single ']')⟩, flags.skip rest)
  | _ => (⟨negated, none, .empty⟩, text)

/-- The set of a name between colons, after the bracket that opens it. -/
def readNamed (flags : PatternFlags) : List Char → Option (CharSet × List Char)
  | ':' :: rest =>
    let (negated, rest) :=
      match rest with
      | '^' :: rest => (true, rest)
      | rest => (false, rest)
    match rest.dropWhile (· ≠ ':') with
    | ':' :: ']' :: after => do
      let set ← CharSet.ofAsciiName? (String.ofList (rest.takeWhile (· ≠ ':')))
      let set := flags.closed set
      let set ← flags.admitted (if negated then .complement set else set)
      return (set, after)
    | _ => none
  | _ => none

/-- A part of a class that can be the end of a range. -/
def readAtom (flags : PatternFlags) : List Char → Option (PatternEscape × List Char)
  | '\\' :: rest => PatternEscape.read flags rest
  | c :: rest => some (.literal c false, rest)
  | [] => none

/-- The code point of an end of a range. -/
def codeOf? (flags : PatternFlags) : PatternEscape → Option Nat
  | .literal c _ => if flags.unicode || decide (c.toNat < 128) then some c.toNat else none
  | _ => none

/-- A part of a class that is no range. -/
def setOf? (flags : PatternFlags) (atom : PatternEscape) : Option CharSet :=
  match atom with
  | .set set => some set
  | atom => (codeOf? flags atom).map fun code ↦ .range code code

/-- Whether a minus sign after the start of a range stands for a range, given what follows it. -/
def continuesRange : List Char → Bool
  | ']' :: _ => false
  | '-' :: _ => false
  | _ => true

/-- A character, a set, or a range. -/
def readRange (flags : PatternFlags) (text : List Char) : Option (CharSet × List Char) := do
  let (first, rest) ← readAtom flags text
  match flags.skip rest with
  | [] => none
  | '-' :: rest =>
    let after := flags.skip rest
    if continuesRange after then
      let (last, rest) ← readAtom flags after
      let first ← codeOf? flags first
      let last ← codeOf? flags last
      if first ≤ last then return (.range first last, rest) else none
    else return (← setOf? flags first, '-' :: rest)
  | rest => return (← setOf? flags first, rest)

/-- The parts of a class up to its closing bracket; `fuel` bounds the parts. -/
def readParts (flags : PatternFlags) : Nat → Draft → List Char → Option (CharSet × List Char)
  | 0, _, _ => none
  | fuel + 1, draft, text =>
    match flags.skip text with
    | [] => none
    | '[' :: rest =>
      match readNamed flags rest with
      | some (set, rest) => readParts flags fuel (draft.add set) rest
      | none => do
        let (inner, rest) := readOpening flags rest
        let (set, rest) ← readParts flags fuel inner rest
        readParts flags fuel (draft.add set) rest
    | ']' :: rest => (draft.close flags).map (·, rest)
    | '&' :: '&' :: rest => readParts flags fuel (draft.operate flags .intersection) rest
    | '-' :: '-' :: rest => readParts flags fuel (draft.operate flags .difference) rest
    | '~' :: '~' :: rest =>
      readParts flags fuel (draft.operate flags .symmetricDifference) rest
    | text => do
      let (set, rest) ← readRange flags text
      readParts flags fuel (draft.add set) rest

/-- A class after its opening bracket. -/
def read (flags : PatternFlags) (text : List Char) : Option (CharSet × List Char) :=
  let (draft, rest) := readOpening flags text
  readParts flags (text.length + 1) draft rest

end PushBench.CharClass
