import Tabletop.Bounds
import Tabletop.Log.Timestamp
import Tabletop.Text.Blank

/-!
# Reading timestamps

A timestamp is read from a date, a mark, a time and a zone, as in `2024-05-04T18:30:00+01:00`. The
numbers may have fewer digits than usual, blanks may stand before every number and every other
sign, and after the zone. The mark between date and time is a `T` in either case or one space.

A year with a sign may have any number of digits. A second may have a fraction, of which nine
digits count, and the sixtieth second of a minute is a leap second. The zone is `Z` or `UTC` in
either case, or an offset from universal time in hours and minutes of two digits each, with any
colons and blanks between them.

The first part at fault decides the error; whether the calendar has the day is looked at last.
-/

namespace Tabletop.Timestamp

open Text

/-- Why a text is no timestamp. -/
inductive ReadError where
  | truncated
  /-- A character is not one that may stand there. -/
  | malformed
  | outOfRange
  | trailing
  /-- In universal time the moment lies outside the calendar. -/
  | impossible
  deriving DecidableEq, Repr

def ReadError.message : ReadError → String
  | truncated => "premature end of input"
  | malformed => "input contains invalid characters"
  | outOfRange => "input is out of range"
  | trailing => "trailing input"
  | impossible => "no possible date and time matching input"

/-- Reads a number with at least one digit and at most `most`, and returns the rest. -/
def readNumber (most : Nat) (cs : List Char) : Except ReadError (Nat × List Char) :=
  let digits := (cs.take most).takeWhile Char.isDigit
  if cs = [] then .error .truncated
  else if digits = [] then .error .malformed
  else if int64Max < numeralValue digits then .error .outOfRange
  else .ok (numeralValue digits, cs.drop digits.length)

/-- Reads one character out of the given ones, and returns the rest. -/
def readMark (marks : List Char) : List Char → Except ReadError (List Char)
  | [] => .error .truncated
  | c :: cs => if c ∈ marks then .ok cs else .error .malformed

/-- Reads a year with blanks before it. A sign lifts the limit of four digits. -/
def readYear (cs : List Char) : Except ReadError (Int × List Char) := do
  let (year, rest) ← match trimLeft cs with
    | '-' :: cs => (readNumber cs.length cs).map fun (n, rest) => (-(n : Int), rest)
    | '+' :: cs => (readNumber cs.length cs).map fun (n, rest) => ((n : Int), rest)
    | cs => (readNumber 4 cs).map fun (n, rest) => ((n : Int), rest)
  if int32Min ≤ year ∧ year ≤ int32Max then .ok (year, rest) else .error .outOfRange

/-- Reads a number of at most two digits between two bounds, with blanks before it. -/
def readPart (lo hi : Nat) (cs : List Char) : Except ReadError (Nat × List Char) := do
  let (n, rest) ← readNumber 2 (trimLeft cs)
  if lo ≤ n ∧ n ≤ hi then .ok (n, rest) else .error .outOfRange

/-- Reads a number between two bounds behind a sign that separates it from the part before. -/
def readNext (mark : Char) (lo hi : Nat) (cs : List Char) :
    Except ReadError (Nat × List Char) := do
  readPart lo hi (← readMark [mark] (trimLeft cs))

/-- Reads the fraction of a second in nanoseconds, if there is one. Digits beyond the ninth do not
count. -/
def readFraction : List Char → Except ReadError (Nat × List Char)
  | '.' :: cs =>
    let digits := cs.takeWhile Char.isDigit
    if cs = [] then .error .truncated
    else if digits = [] then .error .malformed
    else .ok (numeralValue ((digits ++ List.replicate 9 '0').take 9), cs.dropWhile Char.isDigit)
  | cs => .ok (0, cs)

/-- Reads two digits. A text of less than two bytes ends too early. -/
def readPair : List Char → Except ReadError (Nat × List Char)
  | [] => .error .truncated
  | [c] => if c.utf8Size < 2 then .error .truncated else .error .malformed
  | a :: b :: rest =>
    if a.isDigit ∧ b.isDigit then .ok (numeralValue [a, b], rest) else .error .malformed

/-- Reads an offset behind its sign, in seconds. -/
def readOffset (cs : List Char) : Except ReadError (Nat × List Char) := do
  let (hours, cs) ← readPair cs
  let (minutes, cs) ← readPair (cs.dropWhile fun c => c = ':' ∨ isBlank c)
  if minutes ≤ 59 then .ok (hours * 3600 + minutes * 60, cs) else .error .outOfRange

def universal : List Char := ['u', 't', 'c']

/-- Reads a zone with blanks before it, as the seconds by which it is ahead of universal time. -/
def readZone (cs : List Char) : Except ReadError (Int × List Char) :=
  let cs := trimLeft cs
  if (cs.take 3).map Char.toLower = universal then .ok (0, cs.drop 3)
  else match cs with
    | [] => .error .truncated
    | c :: rest =>
      if c = 'Z' ∨ c = 'z' then .ok (0, rest)
      else if c = '+' then (readOffset rest).map fun (n, rest) => ((n : Int), rest)
      -- The minus sign of typography counts like the hyphen.
      else if c = '-' ∨ c = '\u2212' then
        (readOffset rest).map fun (n, rest) => (-(n : Int), rest)
      else .error .malformed

/-- The moment at which it is a given time of day on a given date, somewhere ahead of universal time
by less than a day. The sixtieth second of a minute is a leap second. -/
def resolve (date : Calendar.Date) (minutes second nanos : Nat) (ahead : Int) :
    Except ReadError Timestamp :=
  let counted := min second 59
  let seconds := Calendar.toDays date * daySeconds + (minutes * 60 + counted : Nat) - ahead
  let day := seconds / daySeconds
  if !date.isValid then .error .outOfRange
  else if ahead ≤ -daySeconds ∨ daySeconds ≤ ahead then .error .outOfRange
  else if day < Calendar.firstDay ∨ Calendar.lastDay < day then .error .impossible
  else .ok ⟨seconds, nanos + secondNanos * (second - counted)⟩

def read (cs : List Char) : Except ReadError Timestamp := do
  let (year, cs) ← readYear cs
  let (month, cs) ← readNext '-' 1 12 cs
  let (day, cs) ← readNext '-' 1 31 cs
  let cs ← readMark ['T', 't', ' '] cs
  let (hour, cs) ← readPart 0 23 cs
  let (minute, cs) ← readNext ':' 0 59 cs
  let (second, cs) ← readNext ':' 0 60 cs
  let (nanos, cs) ← readFraction cs
  let (ahead, cs) ← readZone cs
  if trimLeft cs ≠ [] then .error .trailing
  resolve ⟨year, month, day⟩ (hour * 60 + minute) second nanos ahead

/-- A number ends at the first character that is no digit, or when it has as many digits as it may
have. -/
theorem readNumber_of_digits {most : Nat} {digits rest : List Char} (hne : digits ≠ [])
    (hdigits : ∀ c ∈ digits, c.isDigit = true) (hmost : digits.length ≤ most)
    (hbound : (numeralValue digits : Int) ≤ int64Max)
    (hrest : digits.length = most ∨ ∀ c ∈ rest.head?, c.isDigit = false) :
    readNumber most (digits ++ rest) = .ok (numeralValue digits, rest) := by
  have htake : ((digits ++ rest).take most).takeWhile Char.isDigit = digits := by
    rw [List.take_append, List.take_of_length_le hmost, List.takeWhile_append_of_pos hdigits]
    rcases hrest with hfull | hstop
    · simp [hfull]
    · cases rest with
      | nil => simp
      | cons c cs =>
        have hc : c.isDigit = false := hstop c rfl
        cases most - digits.length <;> simp [hc]
  have hall : digits ++ rest ≠ [] := fun h => hne (List.append_eq_nil_iff.mp h).1
  unfold readNumber
  simp only [htake, hall, hne, if_false, if_neg (Int.not_lt.mpr hbound)]
  simp

end Tabletop.Timestamp
