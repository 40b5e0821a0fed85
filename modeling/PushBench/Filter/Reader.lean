import PushBench.Filter.Class
import PushBench.Number.Decimal

/-!
# Reading patterns

A pattern is a choice of sequences of items. Flags that are set in a group hold up to its end.
-/

namespace PushBench

namespace Pattern

/-- The part of a group that has been read. -/
structure Draft where
  flags : PatternFlags
  /-- The names of all groups so far. -/
  names : List String
  /-- The alternatives that are complete, the last first. -/
  alternatives : List Pattern
  /-- The items of the current alternative, the last first. Flags leave an item that is no
  pattern. -/
  items : List (Option Pattern)

namespace Draft

/-- A group that has been opened. -/
def start (flags : PatternFlags) (names : List String) : Draft := ⟨flags, names, [], []⟩

/-- A draft with one more item. -/
def add (draft : Draft) (pattern : Pattern) : Draft :=
  { draft with items := some pattern :: draft.items }

/-- The current alternative. -/
def current (draft : Draft) : Pattern := sequences (draft.items.reverse.filterMap id)

/-- Starts the next alternative. -/
def split (draft : Draft) : Draft :=
  { draft with alternatives := draft.current :: draft.alternatives, items := [] }

/-- The pattern of a group that is complete. -/
def close (draft : Draft) : Pattern :=
  draft.alternatives.foldl (fun rest pattern ↦ .choice pattern rest) draft.current

/-- Repeats the last item, if there is one that can be repeated. -/
def repeatLast (draft : Draft) (least : Nat) (most : Option Nat) : Option Draft :=
  match draft.items with
  | some pattern :: items =>
    some { draft with items := some (.repeated pattern least most) :: items }
  | _ => none

end Draft

/-- A text after the question mark at its start, if there is one. It makes a repetition as short as
possible. -/
def skipQuestion : List Char → List Char
  | '?' :: rest => rest
  | text => text

/-- A number of repetitions, with white space around it. -/
def readCount (text : List Char) : Option (Nat × List Char) :=
  let text := trimStart text
  let digits := text.takeWhile Char.isDigit
  let count := Decimal.ofDigits digits
  if digits.isEmpty || decide (twoPow 32 ≤ count) then none
  else some (count, trimStart (text.dropWhile Char.isDigit))

/-- Numbers of repetitions after their opening brace: a number, a least number, or two bounds. -/
def readBounds (flags : PatternFlags) (text : List Char) :
    Option (Nat × Option Nat × List Char) := do
  let (least, rest) ← readCount (flags.skip text)
  match rest with
  | ',' :: rest =>
    match flags.skip rest with
    | '\x7d' :: rest => return (least, none, rest)
    | rest =>
      let (most, rest) ← readCount rest
      match rest with
      | '\x7d' :: rest => if least ≤ most then return (least, some most, rest) else none
      | _ => none
  | '\x7d' :: rest => return (least, some least, rest)
  | _ => none

/-- Whether a character may stand in the name of a group. -/
def isGroupName (isFirst : Bool) (c : Char) : Bool :=
  c == '_' || isAlphabetic c ||
    !isFirst && (['.', '[', ']'].contains c || memRanges digitChanges c.toNat)

/-- The name of a group up to the bracket that closes it. No two groups have the same name. -/
def readGroupName (names : List String) (text : List Char) : Option (String × List Char) :=
  let name := text.takeWhile (· ≠ '>')
  match name, text.dropWhile (· ≠ '>') with
  | first :: others, _ :: rest =>
    if isGroupName true first && others.all (isGroupName false) &&
        !names.contains (String.ofList name) then
      some (String.ofList name, rest)
    else none
  | _, _ => none

/-- What the opening of a group comes to. -/
inductive Opening where
  /-- The flags of the enclosing group change. -/
  | flags (flags : PatternFlags)
  /-- A group is opened. -/
  | group (draft : Draft)

/-- The opening of a group after its parenthesis. Groups that look ahead or behind are refused. -/
def readOpening (draft : Draft) (text : List Char) : Option (Opening × List Char) :=
  match draft.flags.skip text with
  | '?' :: '=' :: _ => none
  | '?' :: '!' :: _ => none
  | '?' :: '<' :: '=' :: _ => none
  | '?' :: '<' :: '!' :: _ => none
  | '?' :: 'P' :: '<' :: rest => named rest
  | '?' :: '<' :: rest => named rest
  | '?' :: rest =>
    match draft.flags.readLetters true [] rest with
    | some (flags, ')' :: after) =>
      if rest.head? = some ')' then none else some (.flags flags, after)
    | some (flags, _ :: after) => some (.group (.start flags draft.names), after)
    | _ => none
  | rest => some (.group (.start draft.flags draft.names), rest)
where
  named (rest : List Char) : Option (Opening × List Char) :=
    (readGroupName draft.names rest).map fun (name, rest) ↦
      (.group (.start draft.flags (name :: draft.names)), rest)

/-- What a character or an escape stands for by itself. -/
def ofEscape (flags : PatternFlags) : PatternEscape → Option Pattern
  | .literal c isByte =>
    if isByte && !flags.unicode && decide (128 ≤ c.toNat) then none
    else some (.one (flags.closed (.single c)))
  | .set set => some (.one set)
  | .anchor anchor => some (.anchored anchor)

/-- A single character, a class, an escape, the dot, or an anchor. -/
def readSingle (flags : PatternFlags) : List Char → Option (Pattern × List Char)
  | [] => none
  | '[' :: rest => (CharClass.read flags rest).map fun (set, rest) ↦ (.one set, rest)
  | '\\' :: rest => do
    let (escape, rest) ← PatternEscape.read flags rest
    return (← ofEscape flags escape, rest)
  | '.' :: rest => flags.dot.map fun set ↦ (.one set, rest)
  | '^' :: rest => some (.anchored flags.lineStart, rest)
  | '$' :: rest => some (.anchored flags.lineEnd, rest)
  | c :: rest => (ofEscape flags (.literal c false)).map (·, rest)

/-- Reads a group up to the parenthesis that closes it, which is left to be read, or to the end of
the text; `fuel` bounds the items. -/
def readGroup : Nat → Draft → List Char → Option (Draft × List Char)
  | 0, _, _ => none
  | fuel + 1, draft, text =>
    match draft.flags.skip text with
    | [] => some (draft, [])
    | ')' :: rest => some (draft, ')' :: rest)
    | '(' :: rest => do
      match ← readOpening draft rest with
      | (.flags flags, rest) =>
        readGroup fuel { draft with flags, items := none :: draft.items } rest
      | (.group inner, rest) =>
        let (inner, rest) ← readGroup fuel inner rest
        match rest with
        | ')' :: rest => readGroup fuel ({ draft with names := inner.names }.add inner.close) rest
        | _ => none
    | '|' :: rest => readGroup fuel draft.split rest
    | '?' :: rest => do readGroup fuel (← draft.repeatLast 0 (some 1)) (skipQuestion rest)
    | '*' :: rest => do readGroup fuel (← draft.repeatLast 0 none) (skipQuestion rest)
    | '+' :: rest => do readGroup fuel (← draft.repeatLast 1 none) (skipQuestion rest)
    | '\x7b' :: rest => do
      let (least, most, rest) ← readBounds draft.flags rest
      readGroup fuel (← draft.repeatLast least most) (skipQuestion (draft.flags.skip rest))
    | text => do
      let (pattern, rest) ← readSingle draft.flags text
      readGroup fuel (draft.add pattern) rest

/-- The pattern that a text spells. -/
def read (text : List Char) : Option Pattern :=
  match readGroup (text.length + 1) (.start {} []) text with
  | some (draft, []) => some draft.close
  | _ => none

end Pattern

end PushBench
