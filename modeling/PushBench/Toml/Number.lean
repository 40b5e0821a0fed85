import PushBench.Toml.Quotation
import PushBench.Toml.Value
import PushBench.Number.Literal

/-!
# TOML numbers

Integers of sixty-four bits in four bases, and doubles. Single underscores may stand between digits.
-/

namespace PushBench.Toml

/-- Digits of a base with single underscores between them, as they are spelled. The text starts with
a digit. -/
def readRun (isDigit : Char → Bool) : List Char → Option (List Char × List Char)
  | c :: '_' :: rest =>
    if isDigit c then (readRun isDigit rest).map fun (digits, rest) ↦ (c :: digits, rest)
    else none
  | c :: rest =>
    if !isDigit c then none
    else
      match rest with
      | next :: _ =>
        if isDigit next then (readRun isDigit rest).map fun (digits, rest) ↦ (c :: digits, rest)
        else some ([c], rest)
      | [] => some ([c], [])
  | [] => none

/-- A sign, if there is one. -/
def readSign : List Char → List Char × List Char
  | '+' :: rest => ([], rest)
  | '-' :: rest => (['-'], rest)
  | text => ([], text)

/-- A decimal whole number without leading zeros. -/
def readWhole : List Char → Option (List Char × List Char)
  | '0' :: rest => some (['0'], rest)
  | text => readRun Char.isDigit text

/-- The integer `value`, if sixty-four bits hold it. -/
def integer? (value : Int) : Option Toml :=
  if -(twoPow 63 : Int) ≤ value ∧ value < twoPow 63 then some (.integer value) else none

/-- Digits of a base as an integer. -/
def readBased (base : Nat) (text : List Char) : Option (Toml × List Char) := do
  let (digits, rest) ← readRun (fun c ↦ ((hexDigit? c).any (· < base))) text
  let value := digits.foldl (fun number c ↦ base * number + (hexDigit? c).getD 0) 0
  return (← integer? value, rest)

/-- An integer. -/
def readInteger : List Char → Option (Toml × List Char)
  | '0' :: 'x' :: rest => readBased 16 rest
  | '0' :: 'o' :: rest => readBased 8 rest
  | '0' :: 'b' :: rest => readBased 2 rest
  | text => do
    let (sign, rest) := readSign text
    let (digits, rest) ← readWhole rest
    return (← (Decimal.ofSigned? (sign ++ digits)).bind integer?, rest)

/-- A point and digits, or nothing. -/
def readFraction : List Char → Option (List Char × List Char)
  | '.' :: rest => (readRun Char.isDigit rest).map fun (digits, rest) ↦ ('.' :: digits, rest)
  | text => some ([], text)

/-- A power of ten, or nothing. -/
def readPower : List Char → Option (List Char × List Char)
  | c :: rest =>
    if Decimal.isPowerMark c then
      let (sign, rest) := readSign rest
      (readRun Char.isDigit rest).map fun (digits, rest) ↦ (c :: sign ++ digits, rest)
    else some ([], c :: rest)
  | [] => some ([], [])

/-- A finite double. There has to be a point or a power of ten. What is too great is refused; what
is too far below zero is infinite. -/
def readFinite (text : List Char) : Option (Toml × List Char) := do
  let (sign, rest) := readSign text
  let (whole, rest) ← readWhole rest
  let (fraction, rest) ← readFraction rest
  let (power, rest) ← readPower rest
  if fraction.isEmpty && power.isEmpty then none
  let value ← Binary64.read (sign ++ whole ++ fraction ++ power)
  if value == Binary64.infinity then none
  return (.float value, rest)

/-- A double that is not finite, without its sign. -/
def readSpecialMagnitude : List Char → Option (Float × List Char)
  | 'i' :: 'n' :: 'f' :: rest => some (Binary64.infinity, rest)
  | 'n' :: 'a' :: 'n' :: rest => some (0.0 / 0.0, rest)
  | _ => none

/-- A double that is not finite. -/
def readSpecial (text : List Char) : Option (Toml × List Char) :=
  let (sign, rest) := readSign text
  (readSpecialMagnitude rest).map fun (value, rest) ↦
    (.float (if sign.isEmpty then value else -value), rest)

/-- A number. -/
def readNumber (text : List Char) : Option (Toml × List Char) :=
  readFinite text <|> readSpecial text <|> readInteger text

end PushBench.Toml
