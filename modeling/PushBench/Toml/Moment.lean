import PushBench.Toml.Value
import PushBench.Report.Date
import PushBench.Number.Decimal

/-!
# TOML dates and times

A date, a time of day, or both with an optional offset. They have to be on the calendar and on the
clock.
-/

namespace PushBench.Toml

/-- A number of exactly `width` digits. -/
def readFixed (width : Nat) (text : List Char) : Option (Nat × List Char) :=
  let digits := text.take width
  if digits.length = width && digits.all Char.isDigit then
    some (Decimal.ofDigits digits, text.drop width)
  else none

/-- A number of two digits that is at most `limit`. -/
def readPair (limit : Nat) (text : List Char) : Option (List Char) :=
  (readFixed 2 text).bind fun (number, rest) ↦ if number ≤ limit then some rest else none

/-- A character that has to come next. -/
def readMark (mark : Char) : List Char → Option (List Char)
  | c :: rest => if c = mark then some rest else none
  | [] => none

/-- A date on the calendar. -/
def readDate (text : List Char) : Option (List Char) := do
  let (year, text) ← readFixed 4 text
  let (month, text) ← (readMark '-' text).bind (readFixed 2)
  let (day, text) ← (readMark '-' text).bind (readFixed 2)
  if Date.isValid ⟨year, month, day⟩ then some text else none

/-- A text after a point and digits, if it starts with them. -/
def skipFraction : List Char → List Char
  | '.' :: c :: rest => if c.isDigit then rest.dropWhile Char.isDigit else '.' :: c :: rest
  | text => text

/-- A time of day, with seconds. There may be a second 60. -/
def readTime (text : List Char) : Option (List Char) := do
  let text ← readPair 23 text
  let text ← (readMark ':' text).bind (readPair 59)
  let text ← (readMark ':' text).bind (readPair 60)
  return skipFraction text

/-- The size of an offset from universal time. -/
def readOffset (text : List Char) : Option (List Char) :=
  ((readPair 23 text).bind (readMark ':')).bind (readPair 59)

/-- A text after the offset at its start, if there is one. -/
def skipOffset : List Char → Option (List Char)
  | 'Z' :: rest => some rest
  | 'z' :: rest => some rest
  | '+' :: rest => readOffset rest
  | '-' :: rest => readOffset rest
  | text => some text

/-- A text after the time of day that follows a date, if there is one. -/
def skipTime : List Char → Option (List Char)
  | c :: rest =>
    if c = 'T' ∨ c = 't' ∨ c = ' ' then
      match readTime rest with
      | some rest => skipOffset rest
      | none => some (c :: rest)
    else some (c :: rest)
  | [] => some []

/-- A date, a time or both. -/
def readMoment (text : List Char) : Option (Toml × List Char) :=
  ((readDate text).bind skipTime <|> readTime text).map fun rest ↦ (.moment, rest)

end PushBench.Toml
