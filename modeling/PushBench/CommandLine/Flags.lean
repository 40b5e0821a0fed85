import PushBench.Number.Literal

/-!
# Flags

What a command line can say: a command, a filter, and flags, of which some take a value.
-/

namespace PushBench

/-- What the program is asked to do. -/
inductive Command where
  /-- Show the cases that would run. -/
  | list
  /-- Run the cases. -/
  | run
  /-- Write a configuration file. -/
  | init
  deriving DecidableEq, Repr

namespace Command

/-- The name of a command. -/
def text : Command → String
  | .list => "list"
  | .run => "run"
  | .init => "init"

/-- The command of a name. -/
def ofName? : String → Option Command
  | "list" => some .list
  | "run" => some .run
  | "init" => some .init
  | _ => none

end Command

/-- The flags that take a value. -/
inductive ValueFlag where
  | config
  | len
  | window
  | minSamples
  | target
  | maxTime
  | confidence
  | format
  | output
  | pinCpu
  deriving DecidableEq, Repr

/-- The flags that take none. -/
inductive Switch where
  | verify
  | dryRun
  | verbose
  /-- Accepted without effect, because build tools pass it to benchmarks. -/
  | bench
  deriving DecidableEq, Repr

/-- What a flag can be. -/
inductive FlagName where
  | value (flag : ValueFlag)
  | switch (switch : Switch)
  | help
  | version
  deriving DecidableEq, Repr

namespace FlagName

/-- The flag of a long name. -/
def ofLong? : String → Option FlagName
  | "config" => some (.value .config)
  | "len" => some (.value .len)
  | "sample-window" => some (.value .window)
  | "min-samples" => some (.value .minSamples)
  | "target-rme" => some (.value .target)
  | "max-time" => some (.value .maxTime)
  | "confidence" => some (.value .confidence)
  | "format" => some (.value .format)
  | "output" => some (.value .output)
  | "pin-cpu" => some (.value .pinCpu)
  | "verify" => some (.switch .verify)
  | "dry-run" => some (.switch .dryRun)
  | "verbose" => some (.switch .verbose)
  | "bench" => some (.switch .bench)
  | "help" => some .help
  | "version" => some .version
  | _ => none

/-- The flag of a letter. -/
def ofLetter? : Char → Option FlagName
  | 'n' => some (.value .len)
  | 'o' => some (.value .output)
  | 'v' => some (.switch .verbose)
  | 'h' => some .help
  | 'V' => some .version
  | _ => none

end FlagName

/-- A command line that has been read. -/
structure Flags where
  command : Option Command := none
  /-- A pattern that selects cases by their names. -/
  filter : String := ".*"
  config : Option String := none
  /-- Pushes per invocation. -/
  len : Option Nat := none
  window : Option String := none
  minSamples : Option Nat := none
  target : Option Float := none
  maxTime : Option String := none
  confidence : Option Float := none
  format : Option String := none
  output : Option String := none
  pinCpu : Option Nat := none
  verify : Bool := false
  dryRun : Bool := false
  verbose : Bool := false
  bench : Bool := false
  deriving Repr

/-- Why a value is not accepted. -/
inductive InvalidFlagValue where
  /-- There has to be a value, and an empty one does not count. -/
  | missing
  /-- The value is not a number of the right kind. -/
  | malformed
  deriving DecidableEq, Repr

namespace Flags

/-- Whether a flag has a value. -/
def has (flags : Flags) : ValueFlag → Bool
  | .config => flags.config.isSome
  | .len => flags.len.isSome
  | .window => flags.window.isSome
  | .minSamples => flags.minSamples.isSome
  | .target => flags.target.isSome
  | .maxTime => flags.maxTime.isSome
  | .confidence => flags.confidence.isSome
  | .format => flags.format.isSome
  | .output => flags.output.isSome
  | .pinCpu => flags.pinCpu.isSome

/-- Whether a switch is on. -/
def isOn (flags : Flags) : Switch → Bool
  | .verify => flags.verify
  | .dryRun => flags.dryRun
  | .verbose => flags.verbose
  | .bench => flags.bench

/-- Turns a switch on. -/
def turnOn (flags : Flags) : Switch → Flags
  | .verify => { flags with verify := true }
  | .dryRun => { flags with dryRun := true }
  | .verbose => { flags with verbose := true }
  | .bench => { flags with bench := true }

/-- A path. It must not be empty. -/
def pathOf (text : String) : Except InvalidFlagValue String :=
  if text.isEmpty then .error .missing else .ok text

/-- A number below `2 ^ 32`. Signs are admitted as long as the number is not negative. -/
def shortCountOf (text : String) : Except InvalidFlagValue Nat :=
  match Decimal.ofSigned? text.toList with
  | some number =>
    if 0 ≤ number ∧ number < twoPow 32 then .ok number.toNat else .error .malformed
  | none => .error .malformed

/-- A number below `2 ^ 64`. A plus sign is admitted. -/
def countOf (text : String) : Except InvalidFlagValue Nat :=
  match text.toList.head?, Decimal.ofSigned? text.toList with
  | some '-', _ => .error .malformed
  | _, some number => if number < twoPow 64 then .ok number.toNat else .error .malformed
  | _, none => .error .malformed

/-- A floating-point number. -/
def floatOf (text : String) : Except InvalidFlagValue Float :=
  match Binary64.read text.toList with
  | some number => .ok number
  | none => .error .malformed

/-- Gives a flag its value. -/
def assign (flags : Flags) (text : String) : ValueFlag → Except InvalidFlagValue Flags
  | .config => (pathOf text).map fun path ↦ { flags with config := some path }
  | .len => (shortCountOf text).map fun len ↦ { flags with len := some len }
  | .window => .ok { flags with window := some text }
  | .minSamples => (countOf text).map fun count ↦ { flags with minSamples := some count }
  | .target => (floatOf text).map fun target ↦ { flags with target := some target }
  | .maxTime => .ok { flags with maxTime := some text }
  | .confidence => (floatOf text).map fun level ↦ { flags with confidence := some level }
  | .format => .ok { flags with format := some text }
  | .output => (pathOf text).map fun path ↦ { flags with output := some path }
  | .pinCpu => (countOf text).map fun cpu ↦ { flags with pinCpu := some cpu }

end Flags

end PushBench
