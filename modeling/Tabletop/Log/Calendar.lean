/-!
# The calendar

Dates of the Gregorian calendar and the numbers of days that they stand for. Days are counted from
the first of March of the year zero, so that the leap day ends a year. Years repeat their pattern
after four centuries.
-/

namespace Tabletop.Calendar

structure Date where
  year : Int
  month : Nat
  day : Nat
  deriving DecidableEq, Repr

def eraDays : Int := 146097

/-- The days from the first of March of the year zero to the start of 1970. -/
def epochDays : Int := 719468

/-- The date that comes a number of days after the start of 1970. -/
def ofDays (days : Int) : Date :=
  let shifted := days + epochDays
  let era := shifted / eraDays
  let dayOfEra := (shifted % eraDays).toNat
  -- Without the leap days that have passed, every year of the era has 365 days.
  let yearOfEra := (dayOfEra - dayOfEra / 1460 + dayOfEra / 36524 - dayOfEra / 146096) / 365
  let dayOfYear := dayOfEra - (365 * yearOfEra + yearOfEra / 4 - yearOfEra / 100)
  -- From March on, five months in a row have 153 days.
  let monthFromMarch := (5 * dayOfYear + 2) / 153
  let day := dayOfYear - (153 * monthFromMarch + 2) / 5 + 1
  let month := if monthFromMarch < 10 then monthFromMarch + 3 else monthFromMarch - 9
  let year := yearOfEra + era * 400 + (if month ≤ 2 then 1 else 0)
  ⟨year, month, day⟩

/-- The number of days from the start of 1970 to a date. -/
def toDays (d : Date) : Int :=
  let year := if d.month ≤ 2 then d.year - 1 else d.year
  let era := year / 400
  let yearOfEra := (year % 400).toNat
  let monthFromMarch := if 2 < d.month then d.month - 3 else d.month + 9
  let dayOfYear := (153 * monthFromMarch + 2) / 5 + d.day - 1
  let dayOfEra := 365 * yearOfEra + yearOfEra / 4 - yearOfEra / 100 + dayOfYear
  era * eraDays + dayOfEra - epochDays

/-- Whether a year has a leap day. -/
def isLeap (year : Int) : Bool := year % 4 == 0 && (year % 100 != 0 || year % 400 == 0)

def monthDays (year : Int) (month : Nat) : Nat :=
  if month = 2 then (if isLeap year then 29 else 28)
  else if month = 4 ∨ month = 6 ∨ month = 9 ∨ month = 11 then 30
  else 31

def firstYear : Int := -262143

def lastYear : Int := 262142

def firstDay : Int := toDays ⟨firstYear, 1, 1⟩

def lastDay : Int := toDays ⟨lastYear, 12, 31⟩

/-- Whether a date is one of the calendar. -/
def Date.isValid (d : Date) : Bool :=
  firstYear ≤ d.year && d.year ≤ lastYear && 1 ≤ d.month && d.month ≤ 12 &&
    1 ≤ d.day && d.day ≤ monthDays d.year d.month

end Tabletop.Calendar
