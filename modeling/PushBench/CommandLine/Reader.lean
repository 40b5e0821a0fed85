import PushBench.CommandLine.Flags
import PushBench.Text.Similarity

/-!
# Reading the command line

Arguments are read from the left. A flag's value is only looked at when the next flag or filter has
been recognized, so that an argument that is no flag at all is reported before a bad value to its
left. A command ends the line: nothing but a call for help can follow it.
-/

namespace PushBench

/-- Why a command line is refused. -/
inductive UsageError where
  /-- An argument that has no meaning at its place. -/
  | unknownArgument (text : String)
  /-- An argument that is almost a command, or help on something that is none. -/
  | unknownCommand (text : String)
  /-- A flag that lacks its value. -/
  | missingValue
  /-- A value that is not of the right kind. -/
  | malformedValue (text : String)
  /-- A value for a switch. -/
  | surplusValue (text : String)
  /-- A flag that was given before. -/
  | repeatedFlag
  deriving DecidableEq, Repr

/-- The text of the error. -/
def UsageError.message : UsageError → String
  | .unknownArgument text => "unexpected argument '" ++ text ++ "'"
  | .unknownCommand text => "unrecognized subcommand '" ++ text ++ "'"
  | .missingValue => "a value is required"
  | .malformedValue text => "invalid value '" ++ text ++ "'"
  | .surplusValue text => "unexpected value '" ++ text ++ "'"
  | .repeatedFlag => "a flag cannot be used multiple times"

/-- What ends the reading of a command line before there is anything to do. -/
inductive Interruption where
  | help
  | version
  | refused (error : UsageError)
  deriving DecidableEq, Repr

/-- The exit code of a program that does nothing. -/
def Interruption.exitCode : Interruption → Nat
  | .help => 0
  | .version => 0
  | .refused _ => 2

/-! ## Arguments -/

/-- What an argument looks like. -/
inductive Argument where
  /-- Two dashes alone: no flag follows. -/
  | dashes
  /-- A long name, and a value if there is one. -/
  | long (name : String) (value : Option String)
  | letters (letters : List Char)
  | word (text : String)
  deriving DecidableEq, Repr

/-- What a text looks like as an argument. -/
def Argument.ofText (text : String) : Argument :=
  match text.toList with
  | ['-', '-'] => .dashes
  | '-' :: '-' :: rest =>
    let name := String.ofList (rest.takeWhile (· ≠ '='))
    match rest.dropWhile (· ≠ '=') with
    | _ :: value => .long name (some (String.ofList value))
    | [] => .long name none
  | '-' :: c :: rest => .letters (c :: rest)
  | _ => .word text

/-! ## Lines in progress -/

/-- The part of a command line that has been read. -/
structure CommandDraft where
  flags : Flags := {}
  hasFilter : Bool := false
  /-- The last flag that takes a value, until that has been looked at, and the value if it was
  there. -/
  pending : Option (ValueFlag × Option String) := none

namespace CommandDraft

/-- Refuses a line. -/
def refuse {α : Type} (error : UsageError) : Except Interruption α := .error (.refused error)

/-- Gives a flag its value, unless it has one. -/
def assign (draft : CommandDraft) (flag : ValueFlag) (text : String) :
    Except Interruption CommandDraft :=
  if draft.flags.has flag then refuse .repeatedFlag
  else
    match draft.flags.assign text flag with
    | .ok flags => .ok { draft with flags, pending := none }
    | .error .missing => refuse .missingValue
    | .error .malformed => refuse (.malformedValue text)

/-- Looks at the value of the last flag. -/
def settle (draft : CommandDraft) : Except Interruption CommandDraft :=
  match draft.pending with
  | none => .ok draft
  | some (_, none) => refuse .missingValue
  | some (flag, some text) => draft.assign flag text

/-- Whether the next word is the value of a flag. -/
def awaits (draft : CommandDraft) : Bool :=
  match draft.pending with
  | some (_, none) => true
  | _ => false

/-- Takes the value that is awaited. -/
def supply (draft : CommandDraft) (text : String) : CommandDraft :=
  { draft with pending := draft.pending.map fun (flag, _) ↦ (flag, some text) }

/-- A flag whose value is still to come. -/
def await (draft : CommandDraft) (flag : ValueFlag) : Except Interruption CommandDraft :=
  draft.settle.map fun draft ↦ { draft with pending := some (flag, none) }

/-- A flag that comes with its value. -/
def attach (draft : CommandDraft) (flag : ValueFlag) (text : String) :
    Except Interruption CommandDraft :=
  draft.settle.bind fun draft ↦ draft.assign flag text

/-- A switch, which must not be on already. -/
def turnOn (draft : CommandDraft) (switch : Switch) : Except Interruption CommandDraft := do
  let draft ← draft.settle
  if draft.flags.isOn switch then refuse .repeatedFlag
  else return { draft with flags := draft.flags.turnOn switch }

/-- Stops reading, if the line is in order so far. -/
def interrupt (draft : CommandDraft) (interruption : Interruption) :
    Except Interruption CommandDraft :=
  draft.settle.bind fun _ ↦ .error interruption

/-- A long flag. -/
def takeLong (draft : CommandDraft) (name : String) (value : Option String) :
    Except Interruption CommandDraft :=
  match FlagName.ofLong? name, value with
  | none, _ => refuse (.unknownArgument ("--" ++ name))
  | some (.value flag), some text => draft.attach flag text
  | some (.value flag), none => draft.await flag
  | some _, some text => refuse (.surplusValue text)
  | some (.switch switch), none => draft.turnOn switch
  | some .help, none => draft.interrupt .help
  | some .version, none => draft.interrupt .version

/-- Flags by their letters. What follows the letter of a flag with a value is that value, with or
without an equals sign before it. -/
def takeLetters (draft : CommandDraft) : List Char → Except Interruption CommandDraft
  | [] => .ok draft
  | c :: rest =>
    match FlagName.ofLetter? c, rest with
    | none, _ => refuse (.unknownArgument (String.ofList ['-', c]))
    | some (.value flag), [] => draft.await flag
    | some (.value flag), '=' :: value => draft.attach flag (String.ofList value)
    | some (.value flag), value => draft.attach flag (String.ofList value)
    | some (.switch switch), _ => (draft.turnOn switch).bind fun draft ↦ draft.takeLetters rest
    | some .help, _ => draft.interrupt .help
    | some .version, _ => draft.interrupt .version

/-! ## Words -/

/-- The words that name commands. -/
def commandWords : List String := ["list", "run", "init", "help"]

/-- Refuses a word for which there is no place. -/
def refuseWord {α : Type} (afterDashes : Bool) (text : String) : Except Interruption α :=
  if afterDashes && commandWords.contains text then refuse (.unknownArgument text)
  else if commandWords.any fun word ↦ Similarity.areSimilar text.toList word.toList then
    refuse (.unknownCommand text)
  else refuse (.unknownArgument text)

/-- A word that is the filter. -/
def takeFilter (draft : CommandDraft) (afterDashes : Bool) (text : String) :
    Except Interruption CommandDraft :=
  if draft.hasFilter then refuseWord afterDashes text
  else
    draft.settle.map fun draft ↦
      { draft with flags := { draft.flags with filter := text }, hasFilter := true }

/-- The words after two dashes. -/
def takeWords (draft : CommandDraft) : List String → Except Interruption CommandDraft
  | [] => .ok draft
  | text :: rest => (draft.takeFilter true text).bind fun draft ↦ draft.takeWords rest

/-- The words after a call for help: at most one, and it has to name a command. -/
def helpOn : List String → Interruption
  | [] => .help
  | text :: rest =>
    if !commandWords.contains text then .refused (.unknownCommand text)
    else
      match rest with
      | [] => .help
      | text :: _ => .refused (.unknownCommand text)

/-- The arguments after a command. -/
def checkRest : List String → Except Interruption Unit
  | [] => .ok ()
  | text :: rest =>
    match Argument.ofText text, rest with
    | .dashes, [] => .ok ()
    | .dashes, text :: _ => refuse (.unknownArgument text)
    | .long "help" none, _ => .error .help
    | .long "help" (some value), _ => refuse (.surplusValue value)
    | .letters ('h' :: _), _ => .error .help
    | _, _ => refuse (.unknownArgument text)

/-- All arguments. -/
def takeAll (draft : CommandDraft) : List String → Except Interruption CommandDraft
  | [] => draft.settle
  | text :: rest =>
    match Argument.ofText text with
    | .dashes => (draft.takeWords rest).bind settle
    | .long name value => (draft.takeLong name value).bind fun draft ↦ draft.takeAll rest
    | .letters letters => (draft.takeLetters letters).bind fun draft ↦ draft.takeAll rest
    | .word text =>
      if draft.awaits then (draft.supply text).takeAll rest
      else if text = "help" then .error (helpOn rest)
      else
        match Command.ofName? text with
        | some command => do
          checkRest rest
          let draft ← draft.settle
          return { draft with flags := { draft.flags with command := some command } }
        | none => (draft.takeFilter false text).bind fun draft ↦ draft.takeAll rest

end CommandDraft

/-- The flags of a command line. -/
def Flags.read (arguments : List String) : Except Interruption Flags :=
  (CommandDraft.takeAll {} arguments).map CommandDraft.flags

end PushBench
