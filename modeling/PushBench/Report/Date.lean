/-!
# Dates

The Gregorian calendar, extended without end in both directions, and its days counted from the
first of January 1970.
-/

namespace PushBench

/-- A day of the calendar. -/
structure Date where
  year : Int
  month : Nat
  day : Nat
  deriving DecidableEq, Repr

namespace Date

/-- Whether a year has a 29th of February. -/
def isLeap (year : Int) : Bool :=
  decide (year % 4 = 0 ∧ (year % 100 ≠ 0 ∨ year % 400 = 0))

/-- How many days a month has. -/
def monthLength (year : Int) (month : Nat) : Nat :=
  if month = 2 then (if isLeap year then 29 else 28)
  else if [4, 6, 9, 11].contains month then 30 else 31

/-- Whether a date is on the calendar. -/
def isValid (date : Date) : Bool :=
  decide (1 ≤ date.month ∧ date.month ≤ 12 ∧ 1 ≤ date.day ∧
    date.day ≤ monthLength date.year date.month)

/-- Days from the first of March of the year 0 to the first of January 1970. -/
def epochOffset : Int := 719468

/-- The number of a day, counted from the first of January 1970. Years are taken to start in March,
so that a leap day is the last day of its year. -/
def toDays (date : Date) : Int :=
  let year := if date.month ≤ 2 then date.year - 1 else date.year
  let month : Int := (date.month + 9) % 12
  let dayOfYear := (153 * month + 2) / 5 + (date.day : Int) - 1
  365 * year + year / 4 - year / 100 + year / 400 + dayOfYear - epochOffset

/-- The date of a day, counted from the first of January 1970. -/
def ofDays (days : Int) : Date :=
  let shifted := days + epochOffset
  let era := shifted / 146097
  let dayOfEra := shifted % 146097
  let yearOfEra := (dayOfEra - dayOfEra / 1460 + dayOfEra / 36524 - dayOfEra / 146096) / 365
  let dayOfYear := dayOfEra - (365 * yearOfEra + yearOfEra / 4 - yearOfEra / 100)
  let month := (5 * dayOfYear + 2) / 153
  let day := dayOfYear - (153 * month + 2) / 5 + 1
  let civilMonth := if month < 10 then month + 3 else month - 9
  let year := yearOfEra + 400 * era
  ⟨if civilMonth ≤ 2 then year + 1 else year, civilMonth.toNat, day.toNat⟩

end Date

end PushBench
