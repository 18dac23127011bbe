import Mathlib.Data.List.Forall2
import Tabletop.Dice.Notation

/-!
# Spellings of a notation

Notation is read without the blanks around it and in lower case, and in this order: the blanks go
first. What is read is therefore the same for every spelling, that is whatever the case of the ASCII
letters is and whatever blanks stand at either end, and so is the fault that is quoted from it.

Neither step hides anything from the other. No letter is blank, so that two spellings are trimmed at
the same places. Lower case is not formed character by character, since a capital sigma looks at the
characters around it and an ASCII letter may be among them; but it asks of them only whether they
have a case, not which.
-/

namespace Tabletop.Text

open List (Forall₂)

/-! ### Case of ASCII letters -/

/-- The characters differ at most in the case of an ASCII letter. -/
inductive SameLetter (c : Char) : Char → Prop
  | same : SameLetter c c
  /-- Only the capitals of ASCII are changed by this. -/
  | lower : SameLetter c c.toLower
  /-- Only the small letters of ASCII are changed by this. -/
  | upper : SameLetter c c.toUpper

section Letter

variable {c d : Char}

theorem toNat_toLower (c : Char) :
    c.toLower.toNat = if 65 ≤ c.toNat ∧ c.toNat ≤ 90 then c.toNat + 32 else c.toNat := by
  unfold Char.toLower
  split <;> grind [Char.toNat, UInt32.toNat_add, UInt32.le_iff_toNat_le]

theorem toNat_toUpper (c : Char) :
    c.toUpper.toNat = if 97 ≤ c.toNat ∧ c.toNat ≤ 122 then c.toNat - 32 else c.toNat := by
  unfold Char.toUpper
  split <;> grind [Char.toNat, UInt32.toNat_add, UInt32.le_iff_toNat_le]

theorem isAlpha_iff_toNat :
    c.isAlpha = true ↔ 65 ≤ c.toNat ∧ c.toNat ≤ 90 ∨ 97 ≤ c.toNat ∧ c.toNat ≤ 122 := by
  have hupper : c.isUpper = true ↔ 65 ≤ c.toNat ∧ c.toNat ≤ 90 := decide_eq_true_iff
  have hlower : c.isLower = true ↔ 97 ≤ c.toNat ∧ c.toNat ≤ 122 :=
    Bool.and_eq_true_iff.trans (and_congr decide_eq_true_iff decide_eq_true_iff)
  exact Bool.or_eq_true_iff.trans (or_congr hupper hlower)

theorem SameLetter.toLower_eq (h : SameLetter c d) : d.toLower = c.toLower := by
  apply Char.toNat_inj.mp
  cases h with
  | same => rfl
  | lower => grind [toNat_toLower]
  | upper => grind [toNat_toLower, toNat_toUpper]

/-- Only a letter can be changed, and it stays a letter. -/
theorem SameLetter.eq_or_isAlpha (h : SameLetter c d) :
    c = d ∨ c.isAlpha = true ∧ d.isAlpha = true := by
  rw [isAlpha_iff_toNat, isAlpha_iff_toNat, ← Char.toNat_inj]
  cases h with
  | same => exact .inl rfl
  | lower => grind [toNat_toLower]
  | upper => grind [toNat_toUpper]

/-- What has the same value for all letters does not tell spellings apart. -/
theorem SameLetter.congr_of_isAlpha {α : Type} {f : Char → α} {value : α}
    (hf : ∀ {x : Char}, x.isAlpha = true → f x = value) (h : SameLetter c d) : f c = f d := by
  rcases h.eq_or_isAlpha with rfl | ⟨hc, hd⟩
  · rfl
  · rw [hf hc, hf hd]

/-! ### What letters are to the other characters -/

theorem isAscii_of_isAlpha (h : c.isAlpha = true) : isAscii c = true := by
  have hrange := isAlpha_iff_toNat.mp h
  exact decide_eq_true (by omega)

theorem isBlank_of_isAlpha (h : c.isAlpha = true) : isBlank c = false := by
  have hrange := isAlpha_iff_toNat.mp h
  simp only [isBlank, Bool.or_eq_false_iff, Bool.and_eq_false_iff, decide_eq_false_iff_not,
    beq_eq_false_iff_ne]
  omega

theorem isCaseIgnorable_of_isAlpha (h : c.isAlpha = true) : isCaseIgnorable c = false := by
  have hne : ∀ x : Char, x.isAlpha = false → c ≠ x := fun x hx heq =>
    Bool.false_ne_true (hx.symm.trans (heq ▸ h))
  rw [isCaseIgnorable, if_pos (isAscii_of_isAlpha h)]
  simp only [Bool.or_eq_false_iff, beq_eq_false_iff_ne]
  exact ⟨⟨⟨⟨hne _ (by decide), hne _ (by decide)⟩, hne _ (by decide)⟩, hne _ (by decide)⟩,
    hne _ (by decide)⟩

theorem isCased_of_isAlpha (h : c.isAlpha = true) : isCased c = true := by
  rw [isCased, if_pos (isAscii_of_isAlpha h), h]

theorem SameLetter.lowerChar_eq (h : SameLetter c d) : lowerChar c = lowerChar d := by
  rcases h.eq_or_isAlpha with rfl | ⟨hc, hd⟩
  · rfl
  · rw [lowerChar_of_isAscii (isAscii_of_isAlpha hc), lowerChar_of_isAscii (isAscii_of_isAlpha hd),
      h.toLower_eq]

theorem SameLetter.eq_capitalSigma_iff (h : SameLetter c d) :
    c = capitalSigma ↔ d = capitalSigma := by
  rcases h.eq_or_isAlpha with rfl | ⟨hc, hd⟩
  · rfl
  · exact iff_of_false (ne_capitalSigma_of_isAscii (isAscii_of_isAlpha hc))
      (ne_capitalSigma_of_isAscii (isAscii_of_isAlpha hd))

end Letter

/-! ### Texts that differ in the case of ASCII letters -/

section Recase

variable {before before' cs ds : List Char}

/-- A property that does not tell spellings apart holds of as many characters at the beginning of
the one text as of the other. -/
theorem forall₂_dropWhile {p : Char → Bool} (hp : ∀ {c d}, SameLetter c d → p c = p d)
    (h : Forall₂ SameLetter cs ds) : Forall₂ SameLetter (cs.dropWhile p) (ds.dropWhile p) := by
  induction h with
  | nil => exact .nil
  | @cons c d cs ds hc hcs ih =>
    rw [List.dropWhile_cons, List.dropWhile_cons, hp hc]
    split
    · exact ih
    · exact .cons hc hcs

theorem trim_recase (h : Forall₂ SameLetter cs ds) : Forall₂ SameLetter (trim cs) (trim ds) := by
  have hblank : ∀ {c d}, SameLetter c d → isBlank c = isBlank d :=
    SameLetter.congr_of_isAlpha isBlank_of_isAlpha
  have hleft : Forall₂ SameLetter (trimLeft cs) (trimLeft ds) := forall₂_dropWhile hblank h
  exact List.forall₂_reverse_iff.mpr (forall₂_dropWhile hblank (List.forall₂_reverse_iff.mpr hleft))

theorem startsCased_recase (h : Forall₂ SameLetter cs ds) : startsCased cs = startsCased ds := by
  have hrest := forall₂_dropWhile (p := isCaseIgnorable)
    (SameLetter.congr_of_isAlpha isCaseIgnorable_of_isAlpha) h
  unfold startsCased
  generalize cs.dropWhile isCaseIgnorable = cs, ds.dropWhile isCaseIgnorable = ds at hrest
  cases hrest with
  | nil => rfl
  | cons hc _ => exact SameLetter.congr_of_isAlpha isCased_of_isAlpha hc

theorem endsWord_recase (hbefore : Forall₂ SameLetter before before')
    (h : Forall₂ SameLetter cs ds) : endsWord before cs = endsWord before' ds := by
  rw [endsWord, endsWord, startsCased_recase hbefore, startsCased_recase h]

theorem lowercaseAfter_recase (hbefore : Forall₂ SameLetter before before')
    (h : Forall₂ SameLetter cs ds) : lowercaseAfter before cs = lowercaseAfter before' ds := by
  -- A sigma looks back too, so that the texts before it change along with the induction.
  induction h generalizing before before' with
  | nil => rfl
  | @cons c d cs ds hc hcs ih =>
    rw [lowercaseAfter, lowercaseAfter, ih (.cons hc hbefore), endsWord_recase hbefore hcs,
      hc.lowerChar_eq]
    simp only [hc.eq_capitalSigma_iff]

/-- The case of ASCII letters does not show in lower case. -/
theorem lowercase_recase (h : Forall₂ SameLetter cs ds) : lowercase cs = lowercase ds :=
  lowercaseAfter_recase .nil h

end Recase

/-! ### Spellings -/

/-- One text is another one with the case of ASCII letters changed, and blanks added or removed at
either end, in any number of steps. -/
inductive Respelling : List Char → List Char → Prop
  | recase {cs ds : List Char} (h : Forall₂ SameLetter cs ds) : Respelling cs ds
  | blankBefore {c : Char} (h : isBlank c = true) (cs : List Char) : Respelling cs (c :: cs)
  | blankAfter {c : Char} (h : isBlank c = true) (cs : List Char) : Respelling cs (cs ++ [c])
  | symm {cs ds : List Char} (h : Respelling cs ds) : Respelling ds cs
  | trans {cs ds es : List Char} (h : Respelling cs ds) (h' : Respelling ds es) : Respelling cs es

/-- Spellings have the same normal form. -/
theorem Respelling.lowercase_trim_eq {cs ds : List Char} (h : Respelling cs ds) :
    lowercase (trim cs) = lowercase (trim ds) := by
  induction h with
  | recase h => exact lowercase_recase (trim_recase h)
  | blankBefore h cs => rw [trim_cons_of_blank h]
  | blankAfter h cs => rw [trim_append_of_blank h]
  | symm _ ih => exact ih.symm
  | trans _ _ ih ih' => exact ih.trans ih'

end Tabletop.Text

namespace Tabletop.Pool

open Text

/-- Every spelling of a notation is read alike, whatever characters stand in it: if one names a
pool, the others name the same one, and if one is refused, the others are refused for the same
reason, in the same words. -/
theorem parse_respelling (s t : String) (h : Respelling s.toList t.toList) :
    Pool.parse t = Pool.parse s :=
  congrArg Notation.read h.lowercase_trim_eq.symm

/-- Two spellings of a notation that is refused. The sigma ends a word, since a letter stands before
it, and is quoted as such. -/
theorem parse_respelling_of_sigma :
    Respelling "\u00A02D6+KΣ".toList "2d6+kΣ\t".toList ∧
      Pool.parse "2d6+kΣ\t" = Pool.parse "\u00A02D6+KΣ" ∧
      Pool.parse "2d6+kΣ\t" = .error (.invalidModifier "+kς") := by
  have hletters : List.Forall₂ SameLetter "2D6+KΣ".toList "2d6+kΣ".toList :=
    .cons .same <| .cons .lower <| .cons .same <| .cons .same <| .cons .lower <| .cons .same .nil
  have hbefore : Respelling "2D6+KΣ".toList "\u00A02D6+KΣ".toList := .blankBefore (by decide) _
  have hafter : Respelling "2d6+kΣ".toList "2d6+kΣ\t".toList := .blankAfter (by decide) _
  have h := hbefore.symm.trans ((Respelling.recase hletters).trans hafter)
  exact ⟨h, parse_respelling _ _ h, by decide +kernel⟩

end Tabletop.Pool
