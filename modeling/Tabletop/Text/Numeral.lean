/-!
# Decimal numerals

A numeral is one or more ASCII digits; leading zeros are allowed, and digits of other scripts are
not digits here. Numbers are written without leading zeros, and a negative number after a minus
sign.
-/

namespace Tabletop.Text

/-- One or more ASCII digits. -/
def isNumeral (cs : List Char) : Bool := !cs.isEmpty && cs.all Char.isDigit

/-- The number that a list of digits names in base ten. -/
def numeralValue (cs : List Char) : Nat := Nat.ofDigitChars 10 cs 0

/-- The number that a numeral names, when it is at most `bound`. -/
def numeral? (bound : Nat) (cs : List Char) : Option Nat :=
  if isNumeral cs ∧ numeralValue cs ≤ bound then some (numeralValue cs) else none

/-- A natural number in base ten, without leading zeros. -/
def writeNat (n : Nat) : List Char := Nat.toDigits 10 n

/-- An integer in base ten, a negative one after a minus sign. -/
def writeInt (i : Int) : List Char :=
  if i < 0 then '-' :: writeNat i.natAbs else writeNat i.natAbs

theorem ne_nil_of_isNumeral {cs : List Char} (h : isNumeral cs = true) : cs ≠ [] := by
  rintro rfl
  exact absurd h (by decide)

theorem isDigit_of_mem_numeral {cs : List Char} (h : isNumeral cs = true) {c : Char}
    (hc : c ∈ cs) : c.isDigit = true := by
  rw [isNumeral, Bool.and_eq_true, List.all_eq_true] at h
  exact h.2 c hc

theorem numeral?_eq_some_iff {bound n : Nat} {cs : List Char} :
    numeral? bound cs = some n ↔
      isNumeral cs = true ∧ numeralValue cs = n ∧ n ≤ bound := by
  unfold numeral?
  constructor
  · intro h
    split at h
    · obtain rfl := Option.some.inj h
      rename_i hc
      exact ⟨hc.1, rfl, hc.2⟩
    · cases h
  · rintro ⟨hn, rfl, hb⟩
    exact if_pos ⟨hn, hb⟩

theorem writeNat_ne_nil (n : Nat) : writeNat n ≠ [] := Nat.toDigits_ne_nil

theorem isDigit_of_mem_writeNat {n : Nat} {c : Char} (h : c ∈ writeNat n) : c.isDigit = true :=
  Nat.isDigit_of_mem_toDigits (by decide) (by decide) h

@[simp] theorem isNumeral_writeNat (n : Nat) : isNumeral (writeNat n) = true := by
  simp only [isNumeral, Bool.and_eq_true, List.all_eq_true]
  exact ⟨by simp [writeNat_ne_nil], fun c hc => isDigit_of_mem_writeNat hc⟩

@[simp] theorem numeralValue_writeNat (n : Nat) : numeralValue (writeNat n) = n :=
  Nat.ofDigitChars_toDigits (by decide) (by decide)

/-! ### Signed numerals -/

/-- Why a text is not a number within the bounds. -/
inductive NumeralError where
  /-- The text is empty. -/
  | empty
  /-- A character is not a digit, or a sign stands alone. -/
  | invalidDigit
  /-- The number exceeds the upper bound. -/
  | tooLarge
  /-- The number falls below the lower bound. -/
  | tooSmall
  deriving DecidableEq, Repr

/-- The wording of the reason. -/
def NumeralError.message : NumeralError → String
  | .empty => "cannot parse integer from empty string"
  | .invalidDigit => "invalid digit found in string"
  | .tooLarge => "number too large to fit in target type"
  | .tooSmall => "number too small to fit in target type"

/-- Appends the digits to a number that is already within the bounds; the digits of a negative
number count downwards. The first character at fault decides the error. -/
def readDigits (lo hi : Int) (negative : Bool) (sofar : Int) :
    List Char → Except NumeralError Int
  | [] => .ok sofar
  | c :: cs =>
    if !c.isDigit then .error .invalidDigit
    else
      let digit : Int := c.toNat - '0'.toNat
      let next := if negative then 10 * sofar - digit else 10 * sofar + digit
      if next < lo then .error .tooSmall
      else if hi < next then .error .tooLarge
      else readDigits lo hi negative next cs

/-- Reads an integer between `lo` and `hi`. One plus sign may lead, and one minus sign where
negative numbers are in range. -/
def readInteger (lo hi : Int) (cs : List Char) : Except NumeralError Int :=
  match cs with
  | [] => .error .empty
  | ['+'] | ['-'] => .error .invalidDigit
  | '+' :: rest => readDigits lo hi false 0 rest
  | '-' :: rest =>
    if lo < 0 then readDigits lo hi true 0 rest else .error .invalidDigit
  | _ => readDigits lo hi false 0 cs

/-- The text is a numeral for the number, perhaps after one plus sign. -/
def Denotes (cs : List Char) (n : Nat) : Prop :=
  ∃ digits, (cs = digits ∨ cs = '+' :: digits) ∧ isNumeral digits = true ∧
    numeralValue digits = n

theorem ne_plus_cons_of_isNumeral {digits rest : List Char} (h : isNumeral digits = true) :
    digits ≠ '+' :: rest := by
  rintro rfl
  exact absurd (isDigit_of_mem_numeral h List.mem_cons_self) (by decide)

theorem Denotes.unique {cs : List Char} {m n : Nat} (hm : Denotes cs m) (hn : Denotes cs n) :
    m = n := by
  obtain ⟨digits, rfl | rfl, hdigits, rfl⟩ := hm <;>
    obtain ⟨digits', h | h, hdigits', rfl⟩ := hn
  · rw [h]
  · exact absurd h (ne_plus_cons_of_isNumeral hdigits)
  · exact absurd h.symm (ne_plus_cons_of_isNumeral hdigits')
  · rw [(List.cons.inj h).2]

theorem denotes_plus_cons {rest : List Char} {n : Nat} :
    Denotes ('+' :: rest) n ↔ isNumeral rest = true ∧ numeralValue rest = n := by
  constructor
  · rintro ⟨digits, h | h, hdigits, hn⟩
    · exact absurd h.symm (ne_plus_cons_of_isNumeral hdigits)
    · rw [(List.cons.inj h).2]
      exact ⟨hdigits, hn⟩
  · exact fun h => ⟨rest, .inr rfl, h⟩

theorem denotes_of_ne_plus_cons {cs : List Char} (h : ∀ rest, cs ≠ '+' :: rest) {n : Nat} :
    Denotes cs n ↔ isNumeral cs = true ∧ numeralValue cs = n := by
  constructor
  · rintro ⟨digits, rfl | hplus, hdigits, hn⟩
    · exact ⟨hdigits, hn⟩
    · exact absurd hplus (h digits)
  · exact fun hn => ⟨cs, .inl rfl, hn⟩

/-- Further digits never lower a number. -/
theorem le_ofDigitChars (cs : List Char) (sofar : Nat) :
    sofar ≤ Nat.ofDigitChars 10 cs sofar := by
  induction cs generalizing sofar with
  | nil => simp
  | cons c cs ih =>
    rw [Nat.ofDigitChars_cons]
    exact Nat.le_trans (by omega) (ih _)

/-- Since digits never lower a number, it is within the bound at every digit when it is in the
end. -/
theorem readDigits_eq_ok_iff {bound sofar : Nat} (h : sofar ≤ bound) {cs : List Char} {i : Int} :
    readDigits 0 bound false sofar cs = .ok i ↔
      cs.all Char.isDigit = true ∧ Nat.ofDigitChars 10 cs sofar ≤ bound ∧
        (Nat.ofDigitChars 10 cs sofar : Int) = i := by
  induction cs generalizing sofar with
  | nil => simp [readDigits, h]
  | cons c cs ih =>
    rw [Nat.ofDigitChars_cons, List.all_cons]
    cases hdigit : c.isDigit with
    | false => simp [readDigits, hdigit]
    | true =>
      have hge : '0'.toNat ≤ c.toNat := (Char.isDigit_iff_toNat.mp hdigit).1
      have hnext : 10 * (sofar : Int) + ((c.toNat : Int) - ('0'.toNat : Int)) =
          ((10 * sofar + (c.toNat - '0'.toNat) : Nat) : Int) := by omega
      have hnonneg : ¬ ((10 * sofar + (c.toNat - '0'.toNat) : Nat) : Int) < 0 := by omega
      simp only [readDigits, hdigit, Bool.not_true, Bool.false_eq_true, if_false, hnext, hnonneg,
        Bool.true_and]
      have hmore := le_ofDigitChars cs (10 * sofar + (c.toNat - '0'.toNat))
      by_cases hbound : 10 * sofar + (c.toNat - '0'.toNat) ≤ bound
      · rw [if_neg (by omega), ih hbound]
      · rw [if_pos (by omega)]
        exact iff_of_false (by simp) fun h => hbound (Nat.le_trans hmore h.2.1)

theorem readDigits_zero_eq_ok_iff {bound : Nat} {digits : List Char} (hne : digits ≠ []) {i : Int} :
    readDigits 0 bound false 0 digits = .ok i ↔
      isNumeral digits = true ∧ numeralValue digits ≤ bound ∧ (numeralValue digits : Int) = i := by
  have hread : readDigits 0 bound false (0 : Nat) digits = .ok i ↔ _ :=
    readDigits_eq_ok_iff (Nat.zero_le bound)
  have hnumeral : isNumeral digits = digits.all Char.isDigit := by simp [isNumeral, hne]
  rw [hnumeral]
  exact hread

/-- Without negative numbers in range, what is read is a numeral, perhaps after a plus sign, whose
number is within the bound. -/
theorem readInteger_eq_ok_iff {bound : Nat} {cs : List Char} {i : Int} :
    readInteger 0 bound cs = .ok i ↔ ∃ n : Nat, Denotes cs n ∧ n ≤ bound ∧ (n : Int) = i := by
  unfold readInteger
  split
  · simp [denotes_of_ne_plus_cons, isNumeral]
  · simp [denotes_plus_cons, isNumeral]
  · simp [denotes_of_ne_plus_cons, isNumeral]
  · next rest hrest =>
    simp [denotes_plus_cons, readDigits_zero_eq_ok_iff hrest, and_assoc]
  · simp [denotes_of_ne_plus_cons, isNumeral]
  · next hempty _ _ hplus _ =>
    simp [denotes_of_ne_plus_cons hplus, readDigits_zero_eq_ok_iff hempty, and_assoc]

end Tabletop.Text
