import Tabletop.Proofs.Notation.Grammar

/-!
# Printed pools are read back

The printed form of a pool is notation, and it names that pool and no other. The printed form falls
into well-formed parts that stand for the pool, so that the grammar decides what is read from it; it
is in lower case and without blanks already, so that reading takes it as it stands.
-/

namespace Tabletop

open Text

namespace Notation

/-- The text of well-formed parts is in normal form. -/
theorem Parts.WellFormed.lowercase_trim_text {w : Parts} (hw : w.WellFormed) :
    lowercase (trim w.text) = w.text := by
  -- Nothing but digits, signs and the two marks stands in the text.
  have hblank : ∀ c ∈ w.text, isBlank c = false := by
    intro c hc
    rcases hw.of_mem_text hc with hdigit | rfl | rfl | rfl | rfl
    · exact isBlank_of_isDigit hdigit
    all_goals decide
  have hlower : ∀ c ∈ w.text, isAscii c = true ∧ c.isUpper = false := by
    intro c hc
    rcases hw.of_mem_text hc with hdigit | rfl | rfl | rfl | rfl
    · exact ⟨isAscii_of_isDigit hdigit, isUpper_of_isDigit hdigit⟩
    all_goals decide
  rw [trim_eq_self hblank, lowercase_eq_self hlower]

end Notation

namespace Pool

open Notation

/-- The parts of the printed form of a pool. -/
def parts (p : Pool) : Parts where
  count := writeNat p.count.toNat
  faces := writeNat p.faces
  modifier := modifierChars p.modifier.toInt
  mark := explosionChars p.explosions

/-- The printed form is the text of its parts. -/
theorem text_parts (p : Pool) : p.parts.text = p.toChars := by
  simp [Parts.text, Parts.body, parts, toChars, Die.text, writeNat, faces]

/-! ### The modifier -/

variable {i : Int}

@[simp] theorem modifierChars_zero : modifierChars 0 = [] := rfl

theorem modifierChars_of_pos (h : 0 < i) : modifierChars i = '+' :: writeNat i.natAbs := by
  rw [modifierChars, if_pos h, writeInt, if_neg (Int.not_lt.mpr (Int.le_of_lt h))]

theorem modifierChars_of_neg (h : i < 0) : modifierChars i = '-' :: writeNat i.natAbs := by
  rw [modifierChars, if_neg (Int.not_lt.mpr (Int.le_of_lt h)), if_pos h, writeInt, if_pos h]

/-- The number that a printed modifier names is the modifier. -/
theorem modifierValue_modifierChars (i : Int) : modifierValue (modifierChars i) = i := by
  rcases Int.lt_trichotomy i 0 with hneg | rfl | hpos
  · rw [modifierChars_of_neg hneg]
    change -((numeralValue (writeNat i.natAbs) : Nat) : Int) = i
    rw [numeralValue_writeNat]
    omega
  · rfl
  · rw [modifierChars_of_pos hpos]
    change ((numeralValue (writeNat i.natAbs) : Nat) : Int) = i
    rw [numeralValue_writeNat]
    omega

theorem isModifier_modifierChars (modifier : Int32) :
    IsModifier (modifierChars modifier.toInt) := by
  have hlo : int32Min ≤ modifierValue (modifierChars modifier.toInt) := by
    rw [modifierValue_modifierChars]
    exact modifier.le_toInt
  have hhi : modifierValue (modifierChars modifier.toInt) ≤ int32Max := by
    rw [modifierValue_modifierChars]
    exact Int.le_of_lt_add_one modifier.toInt_lt
  -- The sign that is printed says which case the text falls under; zero is not printed at all.
  rcases Int.lt_trichotomy modifier.toInt 0 with hneg | hzero | hpos
  · have hchars := modifierChars_of_neg hneg
    exact .inr ⟨_, _, hchars, .inr rfl, isNumeral_writeNat _, hlo, hhi⟩
  · rw [hzero]
    exact .inl rfl
  · have hchars := modifierChars_of_pos hpos
    exact .inr ⟨_, _, hchars, .inl rfl, isNumeral_writeNat _, hlo, hhi⟩

/-! ### The explosion mark -/

variable {explosions : Option UInt32}

theorem isMark_explosionChars (explosions : Option UInt32) :
    IsMark (explosionChars explosions) := by
  cases explosions with
  | none => exact .inl rfl
  | some cap =>
    refine .inr ⟨_, rfl, ?_⟩
    by_cases hdefault : cap = defaultCap
    · rw [if_pos hdefault]
      exact .inl rfl
    · rw [if_neg hdefault]
      refine .inr ⟨isNumeral_writeNat _, ?_⟩
      rw [numeralValue_writeNat]
      exact Nat.le_of_lt_succ cap.toNat_lt

/-- Leaving out the default cap is no loss. -/
theorem capValue_explosionChars (explosions : Option UInt32) :
    capValue (explosionChars explosions).tail = (explosions.getD defaultCap).toNat := by
  cases explosions with
  | none => rfl
  | some cap =>
    by_cases hdefault : cap = defaultCap
    · subst hdefault
      rfl
    · simp [explosionChars, hdefault, capValue, writeNat_ne_nil]

/-! ### The round trip -/

theorem wellFormed_parts (p : Pool) : p.parts.WellFormed where
  count := by
    refine .inr ⟨isNumeral_writeNat _, ?_, ?_⟩ <;> rw [parts, numeralValue_writeNat]
    · exact p.count_pos
    · exact Nat.le_of_lt_succ p.count.toNat_lt
  faces := by
    refine ⟨isNumeral_writeNat _, ?_⟩
    rw [parts, numeralValue_writeNat]
    exact p.die.faces_mem
  modifier := isModifier_modifierChars p.modifier
  mark := isMark_explosionChars p.explosions

theorem names_parts (p : Pool) : p.parts.Names p where
  count := by simp [parts, countValue, writeNat_ne_nil]
  faces := by simp [parts]
  modifier := (modifierValue_modifierChars p.modifier.toInt).symm
  isExploding := by
    rw [isExploding, parts]
    cases p.explosions with
    | none => simp [explosionChars]
    | some cap => simp [explosionChars]
  cap := (capValue_explosionChars p.explosions).symm

/-- A printed pool is read back. -/
theorem parse_toString (p : Pool) : parse (toString p) = .ok p := by
  have htext : (toString p).toList = p.parts.text := by
    rw [text_parts]
    exact String.toList_ofList
  refine read_eq_ok_iff.mpr ⟨p.parts, p.wellFormed_parts, ?_, p.names_parts⟩
  rw [htext, p.wellFormed_parts.lowercase_trim_text]

/-- Different pools are printed differently. -/
theorem toString_injective {p q : Pool} (h : toString p = toString q) : p = q := by
  have hparse : Except.ok p = (Except.ok q : Except NotationError Pool) := by
    rw [← parse_toString p, ← parse_toString q, h]
  exact Except.ok.inj hparse

/-- Notation is faithful. Every pool is read back from its printed form; a pool that was read from
any text is read from its printed form too; and no two pools share a printed form. -/
theorem notation_faithful :
    (∀ p : Pool, parse (toString p) = .ok p) ∧
    (∀ (s : String) (p : Pool), parse s = .ok p → parse (toString p) = parse s) ∧
    (∀ p q : Pool, toString p = toString q → p = q) := by
  refine ⟨parse_toString, ?_, fun p q => toString_injective⟩
  intro s p h
  rw [h, parse_toString]

/-- At the ends of the ranges, with a cap that is not the default. -/
example : toString (⟨4294967295, .d4, Int32.minValue, some 0, by decide⟩ : Pool) =
    "4294967295d4-2147483648!0" := by decide

end Pool

end Tabletop
