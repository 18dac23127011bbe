import Mathlib.Algebra.GroupWithZero.Nat
import Tabletop.Log.Identifier

/-!
# Printed identifiers are read back

An identifier is read from the groups of digits in which it is printed. Cutting a text into groups
loses nothing, as the places of the hyphens are known, and the thirty-two hexadecimal digits name
the number that they were written for.
-/

namespace Tabletop.Identifier

/-! ### Groups -/

theorem length_hyphenate (n : Nat) (ns : List Nat) (cs : List Char) :
    (hyphenate (n :: ns) cs).length = cs.length + ns.length := by
  induction ns generalizing n cs with
  | nil => rfl
  | cons m ns ih =>
    rw [hyphenate, List.length_append, List.length_cons, ih, List.length_take, List.length_drop,
      List.length_cons]
    · omega
    · simp

/-- Groups of the right sizes are joined again. -/
theorem unhyphenate?_hyphenate (n : Nat) (ns : List Nat) {cs : List Char}
    (h : cs.length = (n :: ns).sum) :
    unhyphenate? (n :: ns) (hyphenate (n :: ns) cs) = some cs := by
  induction ns generalizing n cs with
  | nil =>
    have hlength : cs.length = n := by simpa using h
    exact if_pos hlength
  | cons m ns ih =>
    rw [List.sum_cons] at h
    have htake : (cs.take n).length = n := by
      rw [List.length_take]
      omega
    have hrest : (cs.drop n).length = (m :: ns).sum := by
      rw [List.length_drop]
      omega
    rw [hyphenate, unhyphenate?, List.drop_left' htake]
    · simp [ih m hrest, List.take_left' htake]
    · simp
    · simp

/-! ### Digits -/

theorem hexDigit?_digitChar : ∀ d < 16, hexDigit? d.digitChar = some d := by decide

/-- Digits that follow a number multiply it by sixteen each. -/
theorem hexValue?_concat (cs : List Char) {n d : Nat} (h : hexValue? cs = some n) (hd : d < 16) :
    hexValue? (cs ++ [d.digitChar]) = some (16 * n + d) := by
  unfold hexValue? at *
  rw [List.foldlM_append, h]
  simp [hexDigit?_digitChar d hd]

theorem hexValue?_toDigits (n : Nat) : hexValue? (Nat.toDigits 16 n) = some n := by
  induction n using Nat.strongRecOn with
  | ind n ih =>
    rcases Nat.lt_or_ge n 16 with hlt | hge
    · rw [Nat.toDigits_of_lt_base hlt]
      simpa using hexValue?_concat [] (n := 0) rfl hlt
    · rw [Nat.toDigits_of_base_le (by decide) hge,
        hexValue?_concat _ (ih (n / 16) (by omega)) (by omega), Nat.div_add_mod]

/-- Leading zeros do not change a number. -/
theorem hexValue?_hexDigits (width n : Nat) : hexValue? (hexDigits width n) = some n := by
  have hzeros (k : Nat) : hexValue? (List.replicate k '0') = some 0 := by
    induction k with
    | zero => rfl
    | succ k ih =>
      rw [List.replicate_succ']
      exact hexValue?_concat (d := 0) _ ih (by decide)
  have hdigits := hexValue?_toDigits n
  unfold hexValue? at *
  unfold hexDigits
  dsimp only
  rw [List.foldlM_append, hzeros]
  exact hdigits

theorem length_hexDigits {width n : Nat} (hwidth : 0 < width) (h : n < 16 ^ width) :
    (hexDigits width n).length = width := by
  have hle : (Nat.toDigits 16 n).length ≤ width :=
    (Nat.length_toDigits_le_iff (by decide) hwidth).mpr h
  rw [hexDigits, List.length_append, List.length_replicate]
  omega

/-- A printed identifier is read back. -/
theorem ofChars?_toChars (id : Identifier) : ofChars? id.toChars = some id := by
  have hlength : (hexDigits 32 id.value.toNat).length = 32 :=
    length_hexDigits (by decide) id.value.isLt
  have hprinted : id.toChars.length = 36 := by
    rw [toChars, groupSizes, length_hyphenate, hlength]
    rfl
  have hdigits : digits? id.toChars = some (hexDigits 32 id.value.toNat) := by
    unfold digits?
    rw [hprinted]
    exact unhyphenate?_hyphenate 8 [4, 4, 4, 12] hlength
  rw [ofChars?, hdigits, Option.bind_eq_bind, Option.bind_some, hexValue?_hexDigits]
  simp

end Tabletop.Identifier
