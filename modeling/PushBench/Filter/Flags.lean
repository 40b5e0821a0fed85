import PushBench.Filter.Pattern

/-!
# Flags of patterns

Flags change how the rest of a group is understood.
-/

namespace PushBench

/-- The letters that stand for flags. -/
inductive PatternFlag where
  | caseless
  | multiline
  | dotAll
  /-- A carriage return ends lines. -/
  | returns
  /-- Repetitions are as short as possible. That changes where a match ends, not whether there is
  one. -/
  | lazy
  | unicode
  /-- White space and comments are passed over. -/
  | verbose
  deriving DecidableEq, Repr

/-- The flag of a letter. -/
def PatternFlag.ofChar? : Char → Option PatternFlag
  | 'i' => some .caseless
  | 'm' => some .multiline
  | 's' => some .dotAll
  | 'R' => some .returns
  | 'U' => some .lazy
  | 'u' => some .unicode
  | 'x' => some .verbose
  | _ => none

/-- The flags that are set. -/
structure PatternFlags where
  caseless : Bool := false
  multiline : Bool := false
  dotAll : Bool := false
  returns : Bool := false
  unicode : Bool := true
  verbose : Bool := false
  deriving DecidableEq, Repr

namespace PatternFlags

/-- Sets or clears a flag. -/
def set (flags : PatternFlags) (value : Bool) : PatternFlag → PatternFlags
  | .caseless => { flags with caseless := value }
  | .multiline => { flags with multiline := value }
  | .dotAll => { flags with dotAll := value }
  | .returns => { flags with returns := value }
  | .lazy => flags
  | .unicode => { flags with unicode := value }
  | .verbose => { flags with verbose := value }

/-- A text after the white space and comments at its start; at most `fuel` of them. -/
def skipWithin : Nat → List Char → List Char
  | 0, text => text
  | fuel + 1, text =>
    match trimStart text with
    | '#' :: rest => skipWithin fuel ((rest.dropWhile (· ≠ '\n')).drop 1)
    | text => text

/-- A text from its first character that counts. -/
def skip (flags : PatternFlags) (text : List Char) : List Char :=
  if flags.verbose then skipWithin (text.length + 1) text else text

/-- A set closed under the letter case that the flags ignore. -/
def closed (flags : PatternFlags) (set : CharSet) : CharSet :=
  if flags.caseless then .caseless (if flags.unicode then 0x110000 else 128) set else set

/-- A set, if it is one of characters. Without Unicode a set is one of bytes, and those that are no
ASCII are no characters. -/
def admitted (flags : PatternFlags) (set : CharSet) : Option CharSet :=
  if flags.unicode || !(List.range 128).any fun code ↦ set.contains (128 + code) then some set
  else none

/-- A named set in its Unicode or its ASCII form. -/
def named (flags : PatternFlags) (unicode ascii : CharSet) : CharSet :=
  if flags.unicode then unicode else ascii

/-- The word characters. -/
def wordSet (flags : PatternFlags) : CharSet := flags.named .word .asciiWord

/-- What the dot stands for. -/
def dot (flags : PatternFlags) : Option CharSet :=
  if !flags.unicode then none
  else if flags.dotAll then some (.complement .empty)
  else if flags.returns then some (.complement (.ofChars ['\n', '\r']))
  else some (.complement (.single '\n'))

/-- What the circumflex stands for. -/
def lineStart (flags : PatternFlags) : Anchor :=
  if !flags.multiline then .textStart
  else if flags.returns then .lineStartAfterReturn
  else .lineStart

/-- What the dollar sign stands for. -/
def lineEnd (flags : PatternFlags) : Anchor :=
  if !flags.multiline then .textEnd
  else if flags.returns then .lineEndBeforeReturn
  else .lineEnd

/-- Changes flags by letters up to a colon or a closing parenthesis, which is left to be read.
Letters after a minus clear their flags. No letter may come twice, and a minus has to be followed by
a letter. `seen` are the letters so far. -/
def readLetters (flags : PatternFlags) (value : Bool) (seen : List Char) :
    List Char → Option (PatternFlags × List Char)
  | [] => none
  | c :: rest =>
    if c = ':' ∨ c = ')' then
      if seen.head? = some '-' then none else some (flags, c :: rest)
    else if seen.contains c then none
    else if c = '-' then readLetters flags false (c :: seen) rest
    else
      match PatternFlag.ofChar? c with
      | some flag => readLetters (flags.set value flag) value (c :: seen) rest
      | none => none

end PatternFlags

end PushBench
