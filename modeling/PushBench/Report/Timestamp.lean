import PushBench.Report.Date
import PushBench.Number.Places
import PushBench.Text.Blank

/-!
# Timestamps

Instants in universal time, written by the rules of RFC 3339. Reading is more generous than writing:
it takes any offset, a space between date and time, and white space between the parts.
-/

namespace PushBench

/-- An instant. -/
structure Timestamp where
  /-- Days since the first of January 1970. -/
  days : Int
  /-- Seconds since midnight. -/
  seconds : Nat
  /-- Nanoseconds within the second. Those of a leap second go on from `10 ^ 9`. -/
  nanoseconds : Nat
  deriving DecidableEq, Repr

namespace Timestamp

/-- The time that lies some nanoseconds after the start of 1970, with no leap seconds between. -/
def ofNanoseconds (nanoseconds : Int) : Timestamp :=
  let seconds := nanoseconds / 1000000000
  { days := seconds / 86400
    seconds := (seconds % 86400).toNat
    nanoseconds := (nanoseconds % 1000000000).toNat }

/-! ## Writing -/

/-- A number with at least two digits. -/
def twoDigits (number : Nat) : List Char := Decimal.paddedDigits 2 number

/-- A year with at least four digits, and with a sign if they are not enough. -/
def yearText (year : Int) : List Char :=
  if 0 ≤ year ∧ year ≤ 9999 then Decimal.paddedDigits 4 year.toNat
  else (if year < 0 then '-' else '+') :: Decimal.paddedDigits 4 year.natAbs

/-- A fraction of a second with no digits, three, six or nine: the fewest that lose nothing. -/
def fractionText (nanoseconds : Nat) : List Char :=
  if nanoseconds = 0 then []
  else if nanoseconds % 1000000 = 0 then
    '.' :: Decimal.paddedDigits 3 (nanoseconds / 1000000)
  else if nanoseconds % 1000 = 0 then '.' :: Decimal.paddedDigits 6 (nanoseconds / 1000)
  else '.' :: Decimal.paddedDigits 9 nanoseconds

/-- The text of an instant. A leap second is the second 60. -/
def text (timestamp : Timestamp) : List Char :=
  let date := Date.ofDays timestamp.days
  let isLeapSecond := decide (1000000000 ≤ timestamp.nanoseconds)
  let second := timestamp.seconds % 60 + if isLeapSecond then 1 else 0
  yearText date.year ++ '-' :: twoDigits date.month ++ '-' :: twoDigits date.day ++
    'T' :: twoDigits (timestamp.seconds / 3600) ++
    ':' :: twoDigits (timestamp.seconds / 60 % 60) ++
    ':' :: twoDigits second ++ fractionText (timestamp.nanoseconds % 1000000000) ++ ['Z']

/-! ## Reading -/

/-- At least one digit and at most `width`, and the text after them. White space may come first. -/
def readNumber (width : Nat) (text : List Char) : Option (Nat × List Char) :=
  let text := trimStart text
  match (text.take width).takeWhile Char.isDigit with
  | [] => none
  | digits => some (Decimal.ofDigits digits, text.drop digits.length)

/-- A year: four digits at most, or a sign and any number of digits. -/
def readYear (text : List Char) : Option (Int × List Char) :=
  match trimStart text with
  | '-' :: rest => if isDigitNext rest then (readNumber rest.length rest).map negated else none
  | '+' :: rest => if isDigitNext rest then (readNumber rest.length rest).map plain else none
  | text => (readNumber 4 text).map plain
where
  isDigitNext : List Char → Bool
    | c :: _ => c.isDigit
    | [] => false
  plain : Nat × List Char → Int × List Char := fun (number, rest) ↦ ((number : Int), rest)
  negated : Nat × List Char → Int × List Char := fun (number, rest) ↦ (-(number : Int), rest)

/-- A character that has to come next, and that white space may precede. -/
def readMark (mark : Char) (text : List Char) : Option (List Char) :=
  match trimStart text with
  | c :: rest => if c = mark then some rest else none
  | [] => none

/-- A fraction of a second in nanoseconds, or nothing. Digits after the ninth are passed over. -/
def readFraction : List Char → Option (Nat × List Char)
  | '.' :: rest =>
    match rest.takeWhile Char.isDigit with
    | [] => none
    | digits =>
      let kept := digits.take 9
      some (Decimal.ofDigits kept * tenPow (9 - kept.length), rest.dropWhile Char.isDigit)
  | text => some (0, text)

/-- The hours and minutes of an offset, in seconds. -/
def readOffsetSize : List Char → Option (Nat × List Char)
  | a :: b :: rest =>
    if a.isDigit && b.isDigit then
      match rest.dropWhile (fun c ↦ c == ':' || isBlank c) with
      | c :: d :: rest =>
        if decide ('0' ≤ c ∧ c ≤ '5') && d.isDigit then
          some (Decimal.ofDigits [a, b] * 3600 + Decimal.ofDigits [c, d] * 60, rest)
        else none
      | _ => none
    else none
  | _ => none

/-- The offset from universal time, in seconds. -/
def readOffset : List Char → Option (Int × List Char)
  | 'Z' :: rest => some (0, rest)
  | 'z' :: rest => some (0, rest)
  | '+' :: rest => (readOffsetSize rest).map fun (size, rest) ↦ ((size : Int), rest)
  | '-' :: rest => (readOffsetSize rest).map fun (size, rest) ↦ (-(size : Int), rest)
  | '\u2212' :: rest => (readOffsetSize rest).map fun (size, rest) ↦ (-(size : Int), rest)
  | a :: b :: c :: rest =>
    if [a, b, c].map Char.toUpper = ['U', 'T', 'C'] then some (0, rest) else none
  | _ => none

/-- A date, a time and an offset as an instant, if they are on the calendar and on the clock. -/
def ofParts (date : Date) (hour minute second nanoseconds : Nat) (offset : Int) :
    Option Timestamp :=
  if date.isValid && decide (hour < 24 ∧ minute < 60 ∧ second ≤ 60 ∧ offset.natAbs < 86400) then
    let local_ := (hour * 3600 + minute * 60 + min second 59 : Nat)
    let total := date.toDays * 86400 + local_ - offset
    let days := total / 86400
    let year := (Date.ofDays days).year
    if -262143 ≤ year ∧ year ≤ 262142 then
      some ⟨days, (total % 86400).toNat,
        if second = 60 then nanoseconds + 1000000000 else nanoseconds⟩
    else none
  else none

/-- The letter or space between date and time. -/
def readSeparator : List Char → Option (List Char)
  | c :: rest => if c = 'T' ∨ c = 't' ∨ c = ' ' then some rest else none
  | [] => none

/-- The instant that a text stands for. -/
def read (text : List Char) : Option Timestamp := do
  let (year, text) ← readYear text
  let text ← readMark '-' text
  let (month, text) ← readNumber 2 text
  let text ← readMark '-' text
  let (day, text) ← readNumber 2 text
  let text ← readSeparator text
  let (hour, text) ← readNumber 2 text
  let text ← readMark ':' text
  let (minute, text) ← readNumber 2 text
  let text ← readMark ':' text
  let (second, text) ← readNumber 2 text
  let (nanoseconds, text) ← readFraction text
  let (offset, text) ← readOffset (trimStart text)
  if !(trimStart text).isEmpty then none
  ofParts ⟨year, month, day⟩ hour minute second nanoseconds offset

end Timestamp

end PushBench
