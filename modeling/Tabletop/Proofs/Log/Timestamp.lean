import Mathlib.Algebra.GroupWithZero.Nat
import Tabletop.Log.Timestamp.Reading
import Tabletop.Proofs.Log.Calendar
import Tabletop.Refusal

/-!
# Printed timestamps are read back

The lenient reader of timestamps reads the strict form in which they are printed, and finds the
moment that was printed. Each part of the printed form has as many digits as the reader takes at
most, or is followed by a sign, so that no part runs into the next; and the date that is printed
stands for the day of the moment.

The moments are those of whole seconds within the range of the calendar.
-/

namespace Tabletop

open Text

namespace Timestamp

/-- A whole second on a day of the calendar. -/
structure IsWholeSecond (t : Timestamp) : Prop where
  nanos_eq_zero : t.nanos = 0
  firstDay_le : Calendar.firstDay ≤ t.seconds / daySeconds
  le_lastDay : t.seconds / daySeconds ≤ Calendar.lastDay

variable {n width : Nat} {c : Char} {rest : List Char}

/-! ### Padded numbers -/

theorem isDigit_of_mem_padded (h : c ∈ padded width n) : c.isDigit = true := by
  rcases List.mem_append.mp h with h | h
  · rw [List.eq_of_mem_replicate h]
    rfl
  · exact isDigit_of_mem_writeNat h

/-- Leading zeros do not change a number. -/
theorem numeralValue_padded (width n : Nat) : numeralValue (padded width n) = n := by
  have hdigits : Nat.ofDigitChars 10 (writeNat n) 0 = n := numeralValue_writeNat n
  rw [numeralValue, padded, Nat.ofDigitChars_append, Nat.ofDigitChars_replicate_zero, Nat.mul_zero,
    hdigits]

theorem length_padded (hwidth : 0 < width) (h : n < 10 ^ width) :
    (padded width n).length = width := by
  have hle : (writeNat n).length ≤ width := (Nat.length_toDigits_le_iff (by decide) hwidth).mpr h
  rw [padded, List.length_append, List.length_replicate]
  omega

theorem padded_ne_nil (width n : Nat) : padded width n ≠ [] := fun h =>
  writeNat_ne_nil n (List.append_eq_nil_iff.mp h).2

/-! ### Reading the parts -/

theorem trimLeft_cons (h : isBlank c = false) (rest : List Char) :
    trimLeft (c :: rest) = c :: rest := by
  simp [trimLeft, h]

theorem trimLeft_of_isDigit {cs : List Char} (h : ∀ c ∈ cs.head?, c.isDigit = true) :
    trimLeft cs = cs := by
  cases cs with
  | nil => rfl
  | cons c cs => exact trimLeft_cons (isBlank_of_isDigit (h c rfl)) cs

theorem isDigit_of_mem_head?_padded (width n : Nat) (rest : List Char) :
    ∀ c ∈ (padded width n ++ rest).head?, c.isDigit = true := by
  obtain ⟨d, ds, hds⟩ := List.exists_cons_of_ne_nil (padded_ne_nil width n)
  rw [hds]
  rintro c ⟨⟩
  exact isDigit_of_mem_padded (hds ▸ List.mem_cons_self)

/-- A number of the full width is read whatever follows it, any other up to a sign. -/
theorem readNumber_padded {most : Nat} (hmost : (padded width n).length ≤ most)
    (hbound : (n : Int) ≤ int64Max)
    (hrest : (padded width n).length = most ∨ ∀ c ∈ rest.head?, c.isDigit = false) :
    readNumber most (padded width n ++ rest) = .ok (n, rest) := by
  have hvalue := numeralValue_padded width n
  have hread := readNumber_of_digits (padded_ne_nil width n) (fun c => isDigit_of_mem_padded)
    hmost (hvalue.symm ▸ hbound) hrest
  rw [hread, hvalue]

theorem readPart_padded {lo hi : Nat} (hlo : lo ≤ n) (hhi : n ≤ hi) (hhundred : n < 100)
    (rest : List Char) : readPart lo hi (padded 2 n ++ rest) = .ok (n, rest) := by
  have hlength : (padded 2 n).length = 2 := length_padded (by decide) hhundred
  have hread : readNumber 2 (padded 2 n ++ rest) = .ok (n, rest) :=
    readNumber_padded hlength.le (by unfold int64Max; omega) (.inl hlength)
  rw [readPart, trimLeft_of_isDigit (isDigit_of_mem_head?_padded 2 n rest), hread]
  exact if_pos ⟨hlo, hhi⟩

theorem readMark_cons {marks : List Char} (h : c ∈ marks) (rest : List Char) :
    readMark marks (c :: rest) = .ok rest := if_pos h

theorem readNext_padded {mark : Char} {lo hi : Nat} (hmark : isBlank mark = false) (hlo : lo ≤ n)
    (hhi : n ≤ hi) (hhundred : n < 100) (rest : List Char) :
    readNext mark lo hi (mark :: (padded 2 n ++ rest)) = .ok (n, rest) := by
  rw [readNext, trimLeft_cons hmark, readMark_cons (List.mem_singleton_self mark)]
  exact readPart_padded hlo hhi hhundred rest

section Year

variable {cs : List Char} {year : Nat}

/-- A year that starts with a digit has four digits at most. -/
theorem readYear_of_isDigit (hdigit : ∀ c ∈ cs.head?, c.isDigit = true)
    (hread : readNumber 4 cs = .ok (year, rest)) (hbound : (year : Int) ≤ int32Max) :
    readYear cs = .ok ((year : Int), rest) := by
  rw [readYear, trimLeft_of_isDigit hdigit]
  split
  · exact absurd (hdigit '-' rfl) (by decide)
  · exact absurd (hdigit '+' rfl) (by decide)
  · rw [hread]
    exact if_pos ⟨by unfold int32Min; omega, hbound⟩

theorem readYear_plus (hread : readNumber cs.length cs = .ok (year, rest))
    (hbound : (year : Int) ≤ int32Max) : readYear ('+' :: cs) = .ok ((year : Int), rest) := by
  rw [readYear, trimLeft_cons (by decide)]
  change ((readNumber cs.length cs).map _ >>= _) = _
  rw [hread]
  exact if_pos ⟨by unfold int32Min; omega, hbound⟩

theorem readYear_minus (hread : readNumber cs.length cs = .ok (year, rest))
    (hbound : int32Min ≤ -(year : Int)) : readYear ('-' :: cs) = .ok (-(year : Int), rest) := by
  rw [readYear, trimLeft_cons (by decide)]
  change ((readNumber cs.length cs).map _ >>= _) = _
  rw [hread]
  exact if_pos ⟨hbound, by unfold int32Max; omega⟩

end Year

/-- A year is read up to the hyphen that follows it. -/
theorem readYear_yearChars {year : Int} (hlo : int32Min ≤ year) (hhi : year ≤ int32Max)
    (rest : List Char) : readYear (yearChars year ++ '-' :: rest) = .ok (year, '-' :: rest) := by
  have hhyphen : ∀ c ∈ ('-' :: rest).head?, c.isDigit = false := by
    rintro c ⟨⟩
    rfl
  have hnumber {most : Nat} (hmost : (padded 4 year.natAbs).length ≤ most) :
      readNumber most (padded 4 year.natAbs ++ '-' :: rest) = .ok (year.natAbs, '-' :: rest) :=
    readNumber_padded hmost (by unfold int32Min int32Max int64Max at *; omega) (.inr hhyphen)
  have hmost : (padded 4 year.natAbs).length ≤ (padded 4 year.natAbs ++ '-' :: rest).length := by
    rw [List.length_append]
    exact Nat.le_add_right _ _
  unfold yearChars
  split
  · next hfour =>
    have habs : year.toNat = year.natAbs := by omega
    have hlength : (padded 4 year.natAbs).length = 4 := length_padded (by decide) (by omega)
    have hdigit := isDigit_of_mem_head?_padded 4 year.natAbs ('-' :: rest)
    rw [habs, readYear_of_isDigit hdigit (hnumber hlength.le) (by omega),
      Int.natAbs_of_nonneg hfour.1]
  · by_cases hneg : year < 0
    · rw [if_pos hneg, List.cons_append, readYear_minus (hnumber hmost) (by omega)]
      congr 2
      omega
    · rw [if_neg hneg, List.cons_append, readYear_plus (hnumber hmost) (by omega),
        Int.natAbs_of_nonneg (by omega)]

/-! ### The moment -/

/-- Date and time of a moment stand for that moment. -/
theorem resolve_ofDays {t : Timestamp} (ht : t.IsWholeSecond) :
    let second := (t.seconds % daySeconds).toNat
    resolve (Calendar.ofDays (t.seconds / daySeconds)) (second / 3600 * 60 + second / 60 % 60)
      (second % 60) 0 0 = .ok t := by
  intro second
  have hvalid := Calendar.isValid_ofDays ht.firstDay_le ht.le_lastDay
  have hcounted : min (second % 60) 59 = second % 60 := by omega
  have hseconds : Calendar.toDays (Calendar.ofDays (t.seconds / daySeconds)) * daySeconds +
      ((second / 3600 * 60 + second / 60 % 60) * 60 + second % 60 : Nat) - 0 = t.seconds := by
    rw [Calendar.toDays_ofDays]
    unfold second daySeconds
    omega
  unfold resolve
  dsimp only
  rw [hcounted, hseconds, hvalid, if_neg (by decide), if_neg (by decide),
    if_neg (not_or.mpr ⟨Int.not_lt.mpr ht.firstDay_le, Int.not_lt.mpr ht.le_lastDay⟩)]
  obtain ⟨seconds, nanos⟩ := t
  obtain rfl : nanos = 0 := ht.nanos_eq_zero
  simp

/-- A printed timestamp is read back. -/
theorem read_toChars {t : Timestamp} (ht : t.IsWholeSecond) : read t.toChars = .ok t := by
  have hvalid := Calendar.isValid_ofDays ht.firstDay_le ht.le_lastDay
  obtain ⟨hyear, hmonth, hday⟩ := Calendar.Date.isValid_iff.mp hvalid
  have hresolve := resolve_ofDays ht
  have hsecond : (t.seconds % daySeconds).toNat < 86400 := by unfold daySeconds; omega
  generalize hdate : Calendar.ofDays (t.seconds / daySeconds) = date at *
  generalize hclock : (t.seconds % daySeconds).toNat = second at *
  have hmost := Calendar.monthDays_le date.year date.month
  have htext : t.toChars = yearChars date.year ++ '-' :: (padded 2 date.month ++
      '-' :: (padded 2 date.day ++ 'T' :: (padded 2 (second / 3600) ++
      ':' :: (padded 2 (second / 60 % 60) ++ ':' :: (padded 2 (second % 60) ++ ['Z']))))) := by
    unfold toChars
    rw [hdate, hclock, ht.nanos_eq_zero]
    simp
  unfold Calendar.firstYear Calendar.lastYear at hyear
  rw [htext, read]
  refine bind_eq_ok_iff.mpr ⟨_, readYear_yearChars (by unfold int32Min; omega)
    (by unfold int32Max; omega) _, ?_⟩
  refine bind_eq_ok_iff.mpr ⟨_, readNext_padded (by decide) hmonth.1 hmonth.2 (by omega) _, ?_⟩
  refine bind_eq_ok_iff.mpr ⟨_, readNext_padded (by decide) hday.1 (by omega) (by omega) _, ?_⟩
  refine bind_eq_ok_iff.mpr ⟨_, readMark_cons (by decide) _, ?_⟩
  refine bind_eq_ok_iff.mpr ⟨_, readPart_padded (Nat.zero_le _) (by omega) (by omega) _, ?_⟩
  refine bind_eq_ok_iff.mpr
    ⟨_, readNext_padded (by decide) (Nat.zero_le _) (by omega) (by omega) _, ?_⟩
  refine bind_eq_ok_iff.mpr
    ⟨_, readNext_padded (by decide) (Nat.zero_le _) (by omega) (by omega) _, ?_⟩
  -- The rest of the text is the zone.
  exact hresolve

end Timestamp

end Tabletop
