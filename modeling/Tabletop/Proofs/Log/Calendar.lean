import Mathlib.Order.Monotone.Basic
import Tabletop.Log.Calendar

/-!
# Dates and days belong together

A number of days becomes a date by finding its place within four centuries: the year, the day of
that year, the month and the day of the month, all of them counted from March. The date stands for
that number of days again, and it is one that the calendar has, as long as the days lie within the
range of the calendar.

What has to be shown of the arithmetic is that the year is found. The days of an era without the
leap days before them never run backwards, so that it suffices to look at the first and the last day
of each of the four hundred years.

## Main definitions

* `Calendar.yearOfEra`, `Calendar.yearStart` — the year of a day of the era, and the day that a year
  starts with
* `Calendar.firstOfMarch`, `Calendar.dateIn` — the first day of a year, and the date of a day of it

## Main results

* `Calendar.yearOfEra_spec` — a day lies within the year that is found for it
* `Calendar.toDays_ofDays` — the date of a day stands for that day
* `Calendar.isValid_ofDays` — the dates within the range of the calendar are valid
-/

namespace Tabletop.Calendar

/-! ### The year of a day -/

/-- The number of a day of an era, less the leap days before it. -/
def commonDays (day : Nat) : Nat := day - day / 1460 + day / 36524 - day / 146096

/-- The year of the era in which a day lies, counted from March. -/
def yearOfEra (day : Nat) : Nat := commonDays day / 365

/-- The day of the era that starts a year. -/
def yearStart (year : Nat) : Nat := 365 * year + year / 4 - year / 100 + year / 400

/-- A day that is no leap day counts, and a leap day counts like the day before it. -/
theorem commonDays_le_succ (day : Nat) : commonDays day ≤ commonDays (day + 1) := by
  unfold commonDays
  omega

theorem commonDays_mono : Monotone commonDays := monotone_nat_of_le_succ commonDays_le_succ

/-- The first and the last day of each year of an era belong to that year. -/
theorem commonDays_yearStart :
    ∀ year < 400, 365 * year ≤ commonDays (yearStart year) ∧
      commonDays (yearStart (year + 1) - 1) < 365 * (year + 1) := by
  decide +kernel

/-- A day lies within the year that is found for it. -/
theorem yearOfEra_spec {day : Nat} (h : day < 146097) :
    yearOfEra day < 400 ∧ yearStart (yearOfEra day) ≤ day ∧
      day < yearStart (yearOfEra day + 1) := by
  have hfound : 365 * yearOfEra day ≤ commonDays day ∧
      commonDays day < 365 * (yearOfEra day + 1) := by
    unfold yearOfEra
    omega
  have hyear : yearOfEra day < 400 := by
    have hlast := commonDays_mono (Nat.le_of_lt_succ h)
    have hend : commonDays 146096 = 145999 := rfl
    omega
  refine ⟨hyear, ?_, ?_⟩
  · -- A day before the year would count no more than the last day of the year before.
    by_contra hbefore
    cases hzero : yearOfEra day with
    | zero => simp [hzero, yearStart] at hbefore
    | succ year =>
      rw [hzero] at hfound hyear hbefore
      have hprevious := (commonDays_yearStart year (by omega)).2
      have hmono := commonDays_mono (show day ≤ yearStart (year + 1) - 1 by omega)
      omega
  · by_contra hafter
    by_cases hlast : yearOfEra day = 399
    · rw [hlast] at hafter
      exact hafter h
    · have hnext := (commonDays_yearStart (yearOfEra day + 1) (by omega)).1
      have hmono := commonDays_mono (Nat.le_of_not_lt hafter)
      omega

/-! ### The date of a day of a year -/

/-- The date of a day of a year that starts in March, counted from zero. -/
def dateIn (year : Int) (dayOfYear : Nat) : Date :=
  let monthFromMarch := (5 * dayOfYear + 2) / 153
  let month := if monthFromMarch < 10 then monthFromMarch + 3 else monthFromMarch - 9
  ⟨year + (if month ≤ 2 then 1 else 0), month, dayOfYear - (153 * monthFromMarch + 2) / 5 + 1⟩

/-- The days from the start of 1970 to the first of March of a year. -/
def firstOfMarch (year : Int) : Int :=
  365 * year + year / 4 - year / 100 + year / 400 - epochDays

/-- Years repeat their pattern in every era. -/
theorem firstOfMarch_add_era (year : Nat) (era : Int) :
    firstOfMarch (year + era * 400) = yearStart year + era * eraDays - epochDays := by
  unfold firstOfMarch yearStart eraDays
  omega

/-- Every day lies in a year that starts in March. -/
theorem exists_ofDays_eq (days : Int) :
    ∃ (year : Int) (dayOfYear : Nat), days = firstOfMarch year + dayOfYear ∧
      days < firstOfMarch (year + 1) ∧ ofDays days = dateIn year dayOfYear := by
  let era := (days + epochDays) / eraDays
  let day := ((days + epochDays) % eraDays).toNat
  have hsplit : days = day + era * eraDays - epochDays ∧ day < 146097 := by
    unfold day era eraDays
    omega
  obtain ⟨hyear, hstart, hend⟩ := yearOfEra_spec hsplit.2
  refine ⟨yearOfEra day + era * 400, day - yearStart (yearOfEra day), ?_, ?_, ?_⟩
  · rw [firstOfMarch_add_era]
    omega
  · have hnext : (yearOfEra day : Int) + era * 400 + 1 = (yearOfEra day + 1 : Nat) + era * 400 := by
      omega
    rw [hnext, firstOfMarch_add_era]
    omega
  · -- Within an era the leap day of its end plays no part.
    have hwithin : yearStart (yearOfEra day) =
        365 * yearOfEra day + yearOfEra day / 4 - yearOfEra day / 100 := by
      unfold yearStart
      omega
    rw [hwithin]
    rfl

/-- A day of a year that starts in March is found again from its date. -/
theorem toDays_dateIn (year : Int) {dayOfYear : Nat} (h : dayOfYear ≤ 365) :
    toDays (dateIn year dayOfYear) = firstOfMarch year + dayOfYear := by
  unfold toDays dateIn firstOfMarch eraDays epochDays
  dsimp only
  repeat' split
  all_goals omega

theorem dayOfYear_le {year days : Int} {dayOfYear : Nat} (h : days = firstOfMarch year + dayOfYear)
    (hend : days < firstOfMarch (year + 1)) :
    dayOfYear ≤ 364 ∨ dayOfYear = 365 ∧ isLeap (year + 1) = true := by
  unfold firstOfMarch at h hend
  simp only [isLeap, Bool.and_eq_true, Bool.or_eq_true, beq_iff_eq, bne_iff_ne]
  omega

/-- The date of a day stands for that day. -/
theorem toDays_ofDays (days : Int) : toDays (ofDays days) = days := by
  obtain ⟨year, dayOfYear, hdays, hend, hdate⟩ := exists_ofDays_eq days
  have hle := dayOfYear_le hdays hend
  rw [hdate, toDays_dateIn year (by omega), hdays]

/-! ### Valid dates -/

theorem Date.isValid_iff {d : Date} :
    d.isValid = true ↔ (firstYear ≤ d.year ∧ d.year ≤ lastYear) ∧
      (1 ≤ d.month ∧ d.month ≤ 12) ∧ 1 ≤ d.day ∧ d.day ≤ monthDays d.year d.month := by
  simp only [isValid, Bool.and_eq_true, decide_eq_true_eq, and_assoc]

theorem monthDays_le (year : Int) (month : Nat) : monthDays year month ≤ 31 := by
  unfold monthDays
  repeat' split
  all_goals decide

/-- Every month has the days that fall into it. Only the last day of a long year is a leap day. -/
theorem isDay_dateIn {year : Int} {dayOfYear : Nat}
    (h : dayOfYear ≤ 364 ∨ dayOfYear = 365 ∧ isLeap (year + 1) = true) :
    let date := dateIn year dayOfYear
    (1 ≤ date.month ∧ date.month ≤ 12) ∧ 1 ≤ date.day ∧
      date.day ≤ monthDays date.year date.month := by
  rcases h with h | ⟨rfl, hleap⟩
  · unfold dateIn monthDays
    dsimp only
    repeat' split
    all_goals omega
  · have hdate : dateIn year 365 = ⟨year + 1, 2, 29⟩ := rfl
    simp [hdate, monthDays, hleap]

/-- The days of the calendar have years of the calendar. -/
theorem year_dateIn_mem {year : Int} {dayOfYear : Nat} (hend : dayOfYear ≤ 365)
    (hlo : firstDay ≤ firstOfMarch year + dayOfYear)
    (hhi : firstOfMarch year + dayOfYear ≤ lastDay) :
    firstYear ≤ (dateIn year dayOfYear).year ∧ (dateIn year dayOfYear).year ≤ lastYear := by
  have hfirst : firstDay = firstOfMarch (firstYear - 1) + 306 := rfl
  have hlast : lastDay = firstOfMarch lastYear + 305 := rfl
  have hleast : firstYear ≤ year ∨ year = firstYear - 1 ∧ 306 ≤ dayOfYear := by
    rw [hfirst] at hlo
    by_cases hyear : year = firstYear - 1
    · subst hyear
      omega
    · unfold firstOfMarch firstYear at *
      omega
  have hgreatest : year < lastYear ∨ year = lastYear ∧ dayOfYear ≤ 305 := by
    rw [hlast] at hhi
    by_cases hyear : year = lastYear
    · subst hyear
      omega
    · unfold firstOfMarch lastYear at *
      omega
  -- January and February belong to the year that started before them.
  unfold dateIn firstYear lastYear at *
  dsimp only
  repeat' split
  all_goals omega

/-- The days of the calendar have valid dates. -/
theorem isValid_ofDays {days : Int} (hlo : firstDay ≤ days) (hhi : days ≤ lastDay) :
    (ofDays days).isValid = true := by
  obtain ⟨year, dayOfYear, hdays, hend, hdate⟩ := exists_ofDays_eq days
  have hle := dayOfYear_le hdays hend
  obtain ⟨hmonth, hday⟩ := isDay_dateIn hle
  obtain ⟨hfirst, hlast⟩ := year_dateIn_mem (by omega) (hdays ▸ hlo) (hdays ▸ hhi)
  rw [hdate, Date.isValid_iff]
  exact ⟨⟨hfirst, hlast⟩, hmonth, hday⟩

end Tabletop.Calendar
