import PushBench.Number.Literal
import PushBench.Text.Alphabetic
import PushBench.Text.Blank
import PushBench.Text.Lowercase
import PushBench.Text.Quoted

/-!
# Durations

A duration is a number and a unit, which starts at the first alphabetic character. Without a unit
the number is one of seconds.
-/

namespace PushBench

/-- A text that is no duration. -/
structure InvalidDuration where
  text : List Char
  deriving DecidableEq, Repr

/-- The text of the error. -/
def InvalidDuration.message (error : InvalidDuration) : String :=
  "invalid duration " ++ String.ofList (Quoted.encode error.text) ++
    ": expected a number followed by ns, us, ms, s or m"

/-- The units of time. -/
inductive TimeUnit where
  | nanosecond
  | microsecond
  | millisecond
  | second
  | minute
  deriving DecidableEq, Repr

namespace TimeUnit

/-- How many nanoseconds a unit has. -/
def nanoseconds : TimeUnit → Nat
  | .nanosecond => 1
  | .microsecond => 1000
  | .millisecond => 1000000
  | .second => 1000000000
  | .minute => 60000000000

/-- The unit of a name in any letter case. -/
def ofName? (name : List Char) : Option TimeUnit :=
  match String.ofList (lowercase name) with
  | "ns" => some .nanosecond
  | "us" => some .microsecond
  | "µs" => some .microsecond
  | "ms" => some .millisecond
  | "s" => some .second
  | "m" => some .minute
  | "min" => some .minute
  | _ => none

end TimeUnit

namespace Duration

/-- The number part of a trimmed text: all that comes before its first alphabetic character. -/
def numberPart (text : List Char) : List Char := text.takeWhile (!isAlphabetic ·)

/-- The unit part of a trimmed text: its first alphabetic character and all that follows. -/
def unitPart (text : List Char) : List Char := text.dropWhile (!isAlphabetic ·)

/-- The number of a duration: finite and not below zero. -/
def number? (text : List Char) : Option Float :=
  match Binary64.readPlain (trim text) with
  | some value => if value.isFinite && !decide (value < 0.0) then some value else none
  | none => none

/-- The unit of a duration. -/
def unit? (text : List Char) : Option TimeUnit :=
  if text.isEmpty then some .second else TimeUnit.ofName? text

/-- A number of units in whole nanoseconds, rounded down. -/
def toNanoseconds (number : Float) (unit : TimeUnit) : Nat :=
  Binary64.floor (number * Float.ofNat unit.nanoseconds)

/-- The nanoseconds of the duration that a text spells. -/
def read (text : List Char) : Except InvalidDuration Nat :=
  let text := trim text
  match number? (numberPart text), unit? (unitPart text) with
  | some number, some unit => .ok (toNanoseconds number unit)
  | _, _ => .error ⟨text⟩

end Duration

end PushBench
