import PushBench.Filter.Flags
import PushBench.Filter.Property

/-!
# Escapes in patterns

What a backslash and the characters after it stand for.
-/

namespace PushBench

/-- What an escape stands for. -/
inductive PatternEscape where
  /-- One character. It may have been spelled as a byte, with two digits. -/
  | literal (c : Char) (isByte : Bool)
  | set (set : CharSet)
  | anchor (anchor : Anchor)

namespace PatternEscape

/-! ## Characters by number -/

/-- The value of a hexadecimal digit. -/
def hexDigit? (c : Char) : Option Nat :=
  if '0' ≤ c ∧ c ≤ '9' then some (c.toNat - '0'.toNat)
  else if 'a' ≤ c ∧ c ≤ 'f' then some (c.toNat - 'a'.toNat + 10)
  else if 'A' ≤ c ∧ c ≤ 'F' then some (c.toNat - 'A'.toNat + 10)
  else none

/-- The character of a number. -/
def charOf? (code : Nat) : Option Char :=
  if code.isValidChar then some (Char.ofNat code) else none

/-- Exactly `count` hexadecimal digits, added to a number. -/
def readDigits (flags : PatternFlags) : Nat → Nat → List Char → Option (Nat × List Char)
  | 0, number, text => some (number, text)
  | count + 1, number, text =>
    match text with
    | [] => none
    | c :: rest =>
      (hexDigit? c).bind fun digit ↦
        readDigits flags count (16 * number + digit) (flags.skip rest)

/-- Hexadecimal digits up to a closing brace, of which there must be one. -/
def readBraced (flags : PatternFlags) (text : List Char) : Option (Nat × List Char) :=
  let kept := (text.takeWhile (· ≠ '\x7d')).filter fun c ↦ !(flags.verbose && isBlank c)
  match text.dropWhile (· ≠ '\x7d') with
  | [] => none
  | _ :: rest =>
    if kept.isEmpty then none
    else
      (kept.foldl (fun number c ↦ do return 16 * (← number) + (← hexDigit? c)) (some 0)).map
        (·, flags.skip rest)

/-- A character by its number: `width` hexadecimal digits, or any number of them in braces. -/
def readCode (flags : PatternFlags) (width : Nat) (text : List Char) :
    Option (PatternEscape × List Char) := do
  match flags.skip text with
  | '\x7b' :: rest =>
    let (code, rest) ← readBraced flags rest
    return (.literal (← charOf? code) false, rest)
  | text =>
    let (code, rest) ← readDigits flags width 0 text
    return (.literal (← charOf? code) (width == 2), rest)

/-! ## Properties -/

/-- A property after its letter: one letter, or a name in braces. -/
def readProperty (flags : PatternFlags) (negated : Bool) (text : List Char) :
    Option (PatternEscape × List Char) := do
  if !flags.unicode then none
  let (name, rest) ←
    match flags.skip text with
    | '\x7b' :: rest =>
      match rest.dropWhile (· ≠ '\x7d') with
      | [] => none
      | _ :: after =>
        let kept := (rest.takeWhile (· ≠ '\x7d')).filter fun c ↦ !(flags.verbose && isBlank c)
        some (kept, after)
    | '\\' :: _ => none
    | c :: rest => some ([c], flags.skip rest)
    | [] => none
  let query ← PropertyQuery.read name
  let set := flags.closed query.set
  return (.set (if negated != query.negated then .complement set else set), rest)

/-! ## Boundaries -/

/-- A boundary of words. -/
def boundary (flags : PatternFlags) (relation : Bool → Bool → Bool) : PatternEscape :=
  .anchor (.words flags.wordSet relation)

/-- A word starts here. -/
def startsWord (before after : Bool) : Bool := !before && after

/-- A word ends here. -/
def endsWord (before after : Bool) : Bool := before && !after

/-- The boundary of a name in braces. -/
def boundaryOfName? : String → Option (Bool → Bool → Bool)
  | "start" => some startsWord
  | "end" => some endsWord
  | "start-half" => some fun before _ ↦ !before
  | "end-half" => some fun _ after ↦ !after
  | _ => none

/-- Whether a character may stand in the name of a boundary. -/
def isBoundaryName (c : Char) : Bool := c.isAlpha || c == '-'

/-- What follows the letter of a boundary: a name in braces, or nothing. Braces that do not start
with the character of a name are left to be read as a repetition. -/
def readBoundary (flags : PatternFlags) (text : List Char) :
    Option (PatternEscape × List Char) :=
  match text with
  | '\x7b' :: rest =>
    match flags.skip rest with
    | [] => none
    | c :: rest =>
      if isBoundaryName c then
        match (c :: rest).dropWhile isBoundaryName with
        | '\x7d' :: after =>
          (boundaryOfName? (String.ofList ((c :: rest).takeWhile isBoundaryName))).map
            fun relation ↦ (boundary flags relation, after)
        | _ => none
      else some (boundary flags (· != ·), text)
  | _ => some (boundary flags (· != ·), text)

/-! ## Escapes -/

/-- Whether a character has a meaning of its own somewhere in a pattern. -/
def isMeta (c : Char) : Bool := "\\.+*?()|[]\x7b\x7d^$#&-~".toList.contains c

/-- Whether a backslash may stand before a character that has no other meaning then. -/
def isEscapable (c : Char) : Bool :=
  isMeta c || decide (c.toNat < 128) && !c.isAlphanum && c != '<' && c != '>'

/-- A set that an escape names, or its complement. -/
def setOf (flags : PatternFlags) (negated : Bool) (unicode ascii : CharSet) (rest : List Char) :
    Option (PatternEscape × List Char) :=
  let set := flags.named unicode ascii
  (flags.admitted (if negated then .complement set else set)).map fun set ↦ (.set set, rest)

/-- An escape after its backslash. -/
def read (flags : PatternFlags) : List Char → Option (PatternEscape × List Char)
  | [] => none
  | c :: rest =>
    match c with
    | 'x' => readCode flags 2 rest
    | 'u' => readCode flags 4 rest
    | 'U' => readCode flags 8 rest
    | 'p' => readProperty flags false rest
    | 'P' => readProperty flags true rest
    | 'd' => setOf flags false .digit .asciiDigit rest
    | 'D' => setOf flags true .digit .asciiDigit rest
    | 's' => setOf flags false .space .asciiSpace rest
    | 'S' => setOf flags true .space .asciiSpace rest
    | 'w' => setOf flags false .word .asciiWord rest
    | 'W' => setOf flags true .word .asciiWord rest
    | 'a' => some (.literal '\x07' false, rest)
    | 'f' => some (.literal '\x0c' false, rest)
    | 't' => some (.literal '\t' false, rest)
    | 'n' => some (.literal '\n' false, rest)
    | 'r' => some (.literal '\r' false, rest)
    | 'v' => some (.literal '\x0b' false, rest)
    | 'A' => some (.anchor .textStart, rest)
    | 'z' => some (.anchor .textEnd, rest)
    | 'b' => readBoundary flags rest
    | 'B' => some (boundary flags (· == ·), rest)
    | '<' => some (boundary flags startsWord, rest)
    | '>' => some (boundary flags endsWord, rest)
    | c => if isEscapable c then some (.literal c false, rest) else none

end PatternEscape

end PushBench
