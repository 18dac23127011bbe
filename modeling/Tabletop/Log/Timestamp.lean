import Tabletop.Log.Calendar
import Tabletop.Text.Numeral

/-!
# Timestamps

A timestamp counts the seconds since the start of 1970 in universal time, and the nanoseconds into
the second. Leap seconds are not counted: the time within one belongs to the second before it, with
a billion nanoseconds and more.

It is written with date and time of the Gregorian calendar, as in `2024-05-04T18:30:00Z`. A leap
second is written as the sixtieth of its minute, a fraction of a second with three, six or nine
digits, and a year that is not between 0 and 9999 with its sign.
-/

namespace Tabletop

open Text

/-- A moment in universal time. -/
structure Timestamp where
  /-- The seconds since the start of 1970, leap seconds apart. -/
  seconds : Int
  /-- The nanoseconds since that second began; a billion and more in a leap second after it. -/
  nanos : Nat := 0
  deriving DecidableEq, Repr

namespace Timestamp

def daySeconds : Int := 86400

def secondNanos : Nat := 1000000000

/-- A number with leading zeros up to the given width. -/
def padded (width n : Nat) : List Char :=
  let digits := writeNat n
  List.replicate (width - digits.length) '0' ++ digits

/-- A year in four digits, with its sign when they do not suffice. -/
def yearChars (year : Int) : List Char :=
  if 0 ≤ year ∧ year ≤ 9999 then padded 4 year.toNat
  else (if year < 0 then '-' else '+') :: padded 4 year.natAbs

/-- A fraction of a second in nanoseconds: as many groups of three digits as it takes. -/
def fractionChars (nanos : Nat) : List Char :=
  if nanos = 0 then []
  else if nanos % 1000000 = 0 then '.' :: padded 3 (nanos / 1000000)
  else if nanos % 1000 = 0 then '.' :: padded 6 (nanos / 1000)
  else '.' :: padded 9 nanos

def toChars (t : Timestamp) : List Char :=
  let date := Calendar.ofDays (t.seconds / daySeconds)
  let second := (t.seconds % daySeconds).toNat
  let leap := t.nanos / secondNanos
  yearChars date.year ++ '-' :: padded 2 date.month ++ '-' :: padded 2 date.day ++
    'T' :: padded 2 (second / 3600) ++ ':' :: padded 2 (second / 60 % 60) ++
    ':' :: padded 2 (second % 60 + leap) ++ fractionChars (t.nanos % secondNanos) ++ ['Z']

protected def toString (t : Timestamp) : String := String.ofList t.toChars

instance : ToString Timestamp := ⟨Timestamp.toString⟩

@[simp] theorem fractionChars_zero : fractionChars 0 = [] := rfl

end Timestamp

end Tabletop
