import Tabletop.Dice.Notation
import Tabletop.Refusal

/-!
# The grammar of dice notation

A text in lower case and without blanks around it names a pool exactly when it falls into four
parts: digits for the count, after a `d` digits for the faces, a signed modifier, and an exclamation
mark with the digits of a cap. All but the faces may be missing. The parts are said here without the
reader, and the reader is shown to accept the texts that have them and no other.

The reader cuts a text in another order than it is written in, and takes each part to reach as far
as it can. That this is no loss rests on which characters the parts hold: a count holds no `d`, the
digits of the faces are followed by none, and no exclamation mark stands before the cap.

## Main definitions

* `Notation.Parts`, `Notation.Parts.text` — the parts of a notation and the text that they make up
* `Notation.Parts.WellFormed` — which parts are allowed
* `Notation.Parts.Names` — the pool that parts stand for

## Main results

* `Notation.read_eq_ok_iff` — the reader accepts the texts with well-formed parts
* `Notation.Parts.WellFormed.eq_of_text_eq` — a text has its parts in one way only
* `Pool.parse_ok_iff_exists_parts` — the same for texts as they are given
-/

namespace Tabletop

open Text

namespace Notation

/-! ### The parts -/

/-- What may stand before the `d`: nothing, or a positive numeral. -/
def IsCount (text : List Char) : Prop :=
  text = [] ∨ isNumeral text = true ∧ 1 ≤ numeralValue text ∧ numeralValue text ≤ uint32Max

/-- The number of dice; one when none is written. -/
def countValue (text : List Char) : Nat := if text = [] then 1 else numeralValue text

/-- What may stand behind the `d`: the number of faces of a die. -/
def IsFaces (text : List Char) : Prop :=
  isNumeral text = true ∧ numeralValue text ∈ [4, 6, 8, 10]

/-- The modifier; zero when none is written. -/
def modifierValue : List Char → Int
  | [] => 0
  | sign :: digits => if sign = '-' then -numeralValue digits else numeralValue digits

/-- What may stand behind the faces: nothing, or one sign and a numeral. -/
def IsModifier (text : List Char) : Prop :=
  text = [] ∨ ∃ sign digits, text = sign :: digits ∧ (sign = '+' ∨ sign = '-') ∧
    isNumeral digits = true ∧ int32Min ≤ modifierValue text ∧ modifierValue text ≤ int32Max

/-- What may stand behind the exclamation mark: nothing, or a numeral. -/
def IsCap (text : List Char) : Prop :=
  text = [] ∨ isNumeral text = true ∧ numeralValue text ≤ uint32Max

/-- The explosion cap; ten when none is written. -/
def capValue (text : List Char) : Nat := if text = [] then 10 else numeralValue text

/-- What may stand at the end: nothing, or an exclamation mark with its cap. -/
def IsMark (text : List Char) : Prop := text = [] ∨ ∃ capText, text = '!' :: capText ∧ IsCap capText

/-- The parts of a notation. The `d` between the count and the faces belongs to neither. -/
@[ext]
structure Parts where
  count : List Char
  faces : List Char
  modifier : List Char
  mark : List Char

namespace Parts

/-- The text before the exclamation mark. -/
def body (w : Parts) : List Char := w.count ++ 'd' :: (w.faces ++ w.modifier)

/-- The text that the parts make up. -/
def text (w : Parts) : List Char := w.body ++ w.mark

/-- Every part is allowed where it stands. -/
structure WellFormed (w : Parts) : Prop where
  count : IsCount w.count
  faces : IsFaces w.faces
  modifier : IsModifier w.modifier
  mark : IsMark w.mark

/-- The parts stand for the pool that has their values. -/
structure Names (w : Parts) (p : Pool) : Prop where
  count : p.count.toNat = countValue w.count
  faces : p.faces = numeralValue w.faces
  modifier : p.modifier.toInt = modifierValue w.modifier
  isExploding : p.isExploding = true ↔ w.mark ≠ []
  cap : p.cap.toNat = capValue w.mark.tail

end Parts

/-! ### Reading one part -/

variable {text : List Char}

theorem readCount_eq_ok_iff {count : UInt32} :
    readCount text = .ok count ↔ IsCount text ∧ count.toNat = countValue text := by
  constructor
  · intro h
    unfold readCount at h
    split at h
    · next hnil =>
      cases h
      exact ⟨.inl hnil, by rw [countValue, if_pos hnil]; rfl⟩
    · next hnil =>
      -- Zero, a number in range, no number in range.
      split at h
      · cases h
      · next n hzero hn =>
        obtain ⟨hnum, hvalue, hle⟩ := numeral?_eq_some_iff.mp hn
        have hcount : count.toNat = n := (ofNat_eq_iff hle).mp (Except.ok.inj h)
        have hpos : 1 ≤ n := Nat.one_le_iff_ne_zero.mpr hzero
        subst hvalue
        exact ⟨.inr ⟨hnum, hpos, hle⟩, by rw [countValue, if_neg hnil, hcount]⟩
      · cases h
  · rintro ⟨rfl | ⟨hnum, hpos, hle⟩, hvalue⟩
    · exact congrArg Except.ok (UInt32.toNat_inj.mp hvalue.symm)
    · have hnil := ne_nil_of_isNumeral hnum
      rw [countValue, if_neg hnil] at hvalue
      have hn := numeral?_eq_some_iff.mpr ⟨hnum, rfl, hle⟩
      rw [readCount, if_neg hnil, hn]
      split
      · next hzero => exact absurd (Option.some.inj hzero) (by omega)
      · next n _ hsome =>
        obtain rfl := Option.some.inj hsome
        exact congrArg Except.ok ((ofNat_eq_iff hle).mpr hvalue)
      · next hnone => cases hnone

theorem readCap_eq_ok_iff {cap : UInt32} :
    readCap text = .ok cap ↔ IsCap text ∧ cap.toNat = capValue text := by
  constructor
  · intro h
    unfold readCap at h
    split at h
    · next hnil =>
      cases h
      exact ⟨.inl hnil, by rw [capValue, if_pos hnil]; rfl⟩
    · next hnil =>
      split at h
      · next n hn =>
        obtain ⟨hnum, hvalue, hle⟩ := numeral?_eq_some_iff.mp hn
        have hcap : cap.toNat = n := (ofNat_eq_iff hle).mp (Except.ok.inj h)
        subst hvalue
        exact ⟨.inr ⟨hnum, hle⟩, by rw [capValue, if_neg hnil, hcap]⟩
      · cases h
  · rintro ⟨rfl | ⟨hnum, hle⟩, hvalue⟩
    · exact congrArg Except.ok (UInt32.toNat_inj.mp hvalue.symm)
    · have hnil := ne_nil_of_isNumeral hnum
      rw [capValue, if_neg hnil] at hvalue
      rw [readCap, if_neg hnil, numeral?_eq_some_iff.mpr ⟨hnum, rfl, hle⟩]
      exact congrArg Except.ok ((ofNat_eq_iff hle).mpr hvalue)

/-- The text does not go on with a digit. -/
def EndsDigits (rest : List Char) : Prop := ∀ c ∈ rest.head?, c.isDigit = false

theorem takeWhile_isDigit_append {digits rest : List Char} (h : ∀ c ∈ digits, c.isDigit = true)
    (hrest : EndsDigits rest) : (digits ++ rest).takeWhile Char.isDigit = digits := by
  rw [List.takeWhile_append_of_pos h]
  cases rest with
  | nil => simp
  | cons c cs => simp [hrest c rfl]

theorem dropWhile_isDigit_append {digits rest : List Char} (h : ∀ c ∈ digits, c.isDigit = true)
    (hrest : EndsDigits rest) : (digits ++ rest).dropWhile Char.isDigit = rest := by
  have hsplit : (digits ++ rest).takeWhile Char.isDigit ++ (digits ++ rest).dropWhile Char.isDigit =
      digits ++ rest := List.takeWhile_append_dropWhile
  rw [takeWhile_isDigit_append h hrest] at hsplit
  exact List.append_cancel_left hsplit

theorem endsDigits_dropWhile (text : List Char) : EndsDigits (text.dropWhile Char.isDigit) := by
  intro c hc
  have := List.head?_dropWhile_not Char.isDigit text
  rw [Option.mem_def.mp hc] at this
  simpa using this

theorem readFaces_eq_ok_iff {faces : Nat} {rest : List Char} :
    readFaces text = .ok (faces, rest) ↔
      ∃ digits, text = digits ++ rest ∧ isNumeral digits = true ∧ numeralValue digits = faces ∧
        faces ≤ uint32Max ∧ EndsDigits rest := by
  constructor
  · intro h
    unfold readFaces at h
    dsimp only at h
    split at h
    · cases h
    · split at h
      · next n hn =>
        obtain ⟨hnum, hvalue, hle⟩ := numeral?_eq_some_iff.mp hn
        cases h
        exact ⟨text.takeWhile Char.isDigit, (List.takeWhile_append_dropWhile).symm, hnum, hvalue,
          hle, endsDigits_dropWhile text⟩
      · cases h
  · rintro ⟨digits, rfl, hnum, hvalue, hle, hends⟩
    have hdigits : ∀ c ∈ digits, c.isDigit = true := fun c hc => isDigit_of_mem_numeral hnum hc
    unfold readFaces
    dsimp only
    rw [takeWhile_isDigit_append hdigits hends, dropWhile_isDigit_append hdigits hends,
      if_neg (ne_nil_of_isNumeral hnum), numeral?_eq_some_iff.mpr ⟨hnum, hvalue, hle⟩]

/-- The digits of a modifier of 32 bits are within the bound of the reader, which is the wider one
of unsigned numbers. -/
theorem numeral?_of_modifier_mem {sign : Char} {digits : List Char} (hnum : isNumeral digits = true)
    (hlo : int32Min ≤ modifierValue (sign :: digits))
    (hhi : modifierValue (sign :: digits) ≤ int32Max) :
    numeral? uint32Max digits = some (numeralValue digits) := by
  refine numeral?_eq_some_iff.mpr ⟨hnum, rfl, ?_⟩
  simp only [modifierValue, int32Min, int32Max] at hlo hhi
  unfold uint32Max
  by_cases hsign : sign = '-'
  · rw [if_pos hsign] at hlo
    omega
  · rw [if_neg hsign] at hhi
    omega

theorem readModifier_eq_ok_iff {modifier : Int32} :
    readModifier text = .ok modifier ↔
      IsModifier text ∧ modifier.toInt = modifierValue text := by
  constructor
  · intro h
    unfold readModifier at h
    split at h
    · cases h
      exact ⟨.inl rfl, rfl⟩
    · next sign digits =>
      -- A plus sign meets the upper bound only, a minus sign the lower one only.
      split at h
      · next n hn =>
        obtain ⟨hnum, rfl, -⟩ := numeral?_eq_some_iff.mp hn
        split at h
        · next hhi =>
          have hlo : int32Min ≤ (numeralValue digits : Int) :=
            Int.le_trans (by decide) (Int.natCast_nonneg _)
          exact ⟨.inr ⟨_, _, rfl, .inl rfl, hnum, hlo, hhi⟩,
            (ofInt_eq_iff hlo hhi).mp (Except.ok.inj h)⟩
        · cases h
      · next n hn =>
        obtain ⟨hnum, rfl, -⟩ := numeral?_eq_some_iff.mp hn
        split at h
        · next hlo =>
          have hhi : -(numeralValue digits : Int) ≤ int32Max :=
            Int.le_trans (Int.neg_nonpos_of_nonneg (Int.natCast_nonneg _)) (by decide)
          exact ⟨.inr ⟨_, _, rfl, .inr rfl, hnum, hlo, hhi⟩,
            (ofInt_eq_iff hlo hhi).mp (Except.ok.inj h)⟩
        · cases h
      · cases h
  · rintro ⟨rfl | ⟨sign, digits, rfl, hsign, hnum, hlo, hhi⟩, hvalue⟩
    · exact congrArg Except.ok (Int32.toInt_inj.mp hvalue.symm)
    · have hn := numeral?_of_modifier_mem hnum hlo hhi
      have hword : Except.ok (Int32.ofInt (modifierValue (sign :: digits))) =
          (Except.ok modifier : Except NotationError Int32) :=
        congrArg Except.ok ((ofInt_eq_iff hlo hhi).mpr hvalue)
      rcases hsign with rfl | rfl
      · simp only [readModifier, hn]
        exact (if_pos hhi).trans hword
      · simp only [readModifier, hn]
        exact (if_pos hlo).trans hword

theorem readDie_eq_ok_iff {faces : Nat} {die : Die} :
    readDie faces = .ok die ↔ faces = die.faces := by
  rw [← Die.ofFaces?_eq_some_iff, readDie]
  cases Die.ofFaces? faces with
  | none => simp
  | some found => simp

/-! ### The characters of the parts -/

theorem IsCap.isDigit_of_mem (h : IsCap text) {c : Char} (hc : c ∈ text) : c.isDigit = true := by
  rcases h with rfl | ⟨hnum, -⟩
  · cases hc
  · exact isDigit_of_mem_numeral hnum hc

theorem IsCount.isCap (h : IsCount text) : IsCap text :=
  h.imp_right fun ⟨hnum, _, hle⟩ => ⟨hnum, hle⟩

theorem IsFaces.isDigit_of_mem (h : IsFaces text) {c : Char} (hc : c ∈ text) :
    c.isDigit = true :=
  isDigit_of_mem_numeral h.1 hc

theorem IsModifier.of_mem (h : IsModifier text) {c : Char} (hc : c ∈ text) :
    c.isDigit = true ∨ c = '+' ∨ c = '-' := by
  rcases h with rfl | ⟨sign, digits, rfl, hsign, hnum, -⟩
  · cases hc
  · rcases List.mem_cons.mp hc with rfl | hc
    · exact .inr hsign
    · exact .inl (isDigit_of_mem_numeral hnum hc)

theorem IsModifier.endsDigits (h : IsModifier text) : EndsDigits text := by
  rcases h with rfl | ⟨sign, digits, rfl, hsign, -⟩
  · intro c hc
    cases hc
  · intro c hc
    obtain rfl : sign = c := Option.some.inj hc
    rcases hsign with rfl | rfl <;> decide

namespace Parts

variable {w w' : Parts}

theorem WellFormed.of_mem_body (hw : w.WellFormed) {c : Char} (hc : c ∈ w.body) :
    c.isDigit = true ∨ c = 'd' ∨ c = '+' ∨ c = '-' := by
  rw [body, List.mem_append, List.mem_cons, List.mem_append] at hc
  rcases hc with hc | rfl | hc | hc
  · exact .inl (hw.count.isCap.isDigit_of_mem hc)
  · exact .inr (.inl rfl)
  · exact .inl (hw.faces.isDigit_of_mem hc)
  · exact (hw.modifier.of_mem hc).imp_right .inr

theorem WellFormed.of_mem_text (hw : w.WellFormed) {c : Char} (hc : c ∈ w.text) :
    c.isDigit = true ∨ c = 'd' ∨ c = '+' ∨ c = '-' ∨ c = '!' := by
  rw [text, List.mem_append] at hc
  rcases hc with hc | hc
  · rcases hw.of_mem_body hc with h | h | h | h <;> simp [h]
  · rcases hw.mark with hnil | ⟨capText, hcons, hcap⟩
    · rw [hnil] at hc
      cases hc
    · rw [hcons, List.mem_cons] at hc
      rcases hc with rfl | hc
      · simp
      · exact .inl (hcap.isDigit_of_mem hc)

theorem WellFormed.bang_not_mem_body (hw : w.WellFormed) : '!' ∉ w.body := by
  intro hc
  rcases hw.of_mem_body hc with h | h | h | h <;> exact absurd h (by decide)

/-- The first `d` is the one behind the count. -/
theorem WellFormed.cutAt_body (hw : w.WellFormed) :
    cutAt 'd' w.body = some (w.count, w.faces ++ w.modifier) := by
  refine cutAt_eq_some_iff.mpr ⟨rfl, fun hc => ?_⟩
  exact absurd (hw.count.isCap.isDigit_of_mem hc) (by decide)

theorem WellFormed.cutAt_text_of_mark_eq_nil (hw : w.WellFormed) (hmark : w.mark = []) :
    cutAt '!' w.text = none := by
  rw [cutAt_eq_none_iff, text, hmark, List.append_nil]
  exact hw.bang_not_mem_body

theorem WellFormed.cutAt_text_of_mark_eq_cons (hw : w.WellFormed) {capText : List Char}
    (hmark : w.mark = '!' :: capText) : cutAt '!' w.text = some (w.body, capText) := by
  refine cutAt_eq_some_iff.mpr ⟨?_, hw.bang_not_mem_body⟩
  rw [text, hmark]

theorem WellFormed.body_eq_and_mark_eq (hw : w.WellFormed) (hw' : w'.WellFormed)
    (h : w.text = w'.text) : w.body = w'.body ∧ w.mark = w'.mark := by
  -- The first exclamation mark of the text is that of the mark, if there is one.
  have hcut : cutAt '!' w.text = cutAt '!' w'.text := congrArg (cutAt '!') h
  rcases hw.mark with hnil | ⟨capText, hcons, -⟩ <;>
    rcases hw'.mark with hnil' | ⟨capText', hcons', -⟩
  · rw [text, text, hnil, hnil', List.append_nil, List.append_nil] at h
    exact ⟨h, hnil.trans hnil'.symm⟩
  · rw [hw.cutAt_text_of_mark_eq_nil hnil, hw'.cutAt_text_of_mark_eq_cons hcons'] at hcut
    cases hcut
  · rw [hw.cutAt_text_of_mark_eq_cons hcons, hw'.cutAt_text_of_mark_eq_nil hnil'] at hcut
    cases hcut
  · rw [hw.cutAt_text_of_mark_eq_cons hcons, hw'.cutAt_text_of_mark_eq_cons hcons'] at hcut
    obtain ⟨hbody, hcap⟩ := Prod.mk.inj (Option.some.inj hcut)
    exact ⟨hbody, by rw [hcons, hcons', hcap]⟩

/-- A text has its parts in one way only. -/
theorem WellFormed.eq_of_text_eq (hw : w.WellFormed) (hw' : w'.WellFormed)
    (h : w.text = w'.text) : w = w' := by
  obtain ⟨hbody, hmark⟩ := hw.body_eq_and_mark_eq hw' h
  have hcut : cutAt 'd' w.body = cutAt 'd' w'.body := congrArg (cutAt 'd') hbody
  rw [hw.cutAt_body, hw'.cutAt_body] at hcut
  obtain ⟨hcount, hrest⟩ := Prod.mk.inj (Option.some.inj hcut)
  -- What is left is cut where its digits end, since no modifier begins with one.
  have hfaces := congrArg (List.takeWhile Char.isDigit) hrest
  have hmodifier := congrArg (List.dropWhile Char.isDigit) hrest
  have hdigits : ∀ c ∈ w.faces, c.isDigit = true := fun _ => hw.faces.isDigit_of_mem
  have hdigits' : ∀ c ∈ w'.faces, c.isDigit = true := fun _ => hw'.faces.isDigit_of_mem
  rw [takeWhile_isDigit_append hdigits hw.modifier.endsDigits,
    takeWhile_isDigit_append hdigits' hw'.modifier.endsDigits] at hfaces
  rw [dropWhile_isDigit_append hdigits hw.modifier.endsDigits,
    dropWhile_isDigit_append hdigits' hw'.modifier.endsDigits] at hmodifier
  exact Parts.ext hcount hfaces hmodifier hmark

end Parts

/-! ### Reading a whole text -/

/-- The parts before the exclamation mark are read one after the other, and all of them must be
readable. -/
theorem readBody_eq_ok_iff {whole body : List Char} {explosions : Option UInt32} {p : Pool} :
    readBody whole body explosions = .ok p ↔
      ∃ countText rest modifierText, cutAt 'd' body = some (countText, rest) ∧
        readCount countText = .ok p.count ∧ readFaces rest = .ok (p.faces, modifierText) ∧
        readModifier modifierText = .ok p.modifier ∧ p.explosions = explosions := by
  unfold readBody
  constructor
  · intro h
    cases hcut : cutAt 'd' body with
    | none =>
      rw [hcut] at h
      cases h
    | some cut =>
      obtain ⟨countText, rest⟩ := cut
      rw [hcut] at h
      obtain ⟨count, hcount, h⟩ := bind_eq_ok_iff.mp h
      obtain ⟨⟨faces, modifierText⟩, hfaces, h⟩ := bind_eq_ok_iff.mp h
      obtain ⟨modifier, hmodifier, h⟩ := bind_eq_ok_iff.mp h
      obtain ⟨die, hdie, h⟩ := bind_eq_ok_iff.mp h
      have hdie' : faces = die.faces := readDie_eq_ok_iff.mp hdie
      -- The count has been read as positive, so that building the pool is no further check.
      have hp : p.count = count ∧ p.die = die ∧ p.modifier = modifier ∧
          p.explosions = explosions := by
        cases explosions with
        | none => exact Pool.plain_eq_ok_iff.mp h
        | some cap => exact Pool.exploding_eq_ok_iff.mp h
      obtain ⟨rfl, rfl, rfl, rfl⟩ := hp
      subst hdie'
      exact ⟨countText, rest, modifierText, rfl, hcount, hfaces, hmodifier, rfl⟩
  · rintro ⟨countText, rest, modifierText, hcut, hcount, hfaces, hmodifier, rfl⟩
    rw [hcut]
    refine bind_eq_ok_iff.mpr ⟨_, hcount, ?_⟩
    refine bind_eq_ok_iff.mpr ⟨_, hfaces, ?_⟩
    refine bind_eq_ok_iff.mpr ⟨_, hmodifier, ?_⟩
    refine bind_eq_ok_iff.mpr ⟨_, readDie_eq_ok_iff.mpr rfl, ?_⟩
    cases hexplosions : p.explosions with
    | none => exact Pool.plain_eq_ok_iff.mpr ⟨rfl, rfl, rfl, hexplosions⟩
    | some cap => exact Pool.exploding_eq_ok_iff.mpr ⟨rfl, rfl, rfl, hexplosions⟩

theorem explosions_of_readBody {whole body : List Char} {explosions : Option UInt32} {p : Pool}
    (h : readBody whole body explosions = .ok p) : p.explosions = explosions := by
  obtain ⟨-, -, -, -, -, -, -, hexplosions⟩ := readBody_eq_ok_iff.mp h
  exact hexplosions

/-- What has been read before the exclamation mark and behind it makes up well-formed parts. -/
theorem exists_parts_of_readBody {whole body mark : List Char} {explosions : Option UInt32}
    {p : Pool} (h : readBody whole body explosions = .ok p) (hmark : IsMark mark)
    (hexploding : p.isExploding = true ↔ mark ≠ []) (hcap : p.cap.toNat = capValue mark.tail) :
    ∃ w : Parts, w.WellFormed ∧ w.text = body ++ mark ∧ w.Names p := by
  obtain ⟨countText, rest, modifierText, hcut, hcount, hfaces, hmodifier, -⟩ :=
    readBody_eq_ok_iff.mp h
  obtain ⟨rfl, -⟩ := cutAt_eq_some_iff.mp hcut
  obtain ⟨digits, rfl, hnum, hvalue, -, -⟩ := readFaces_eq_ok_iff.mp hfaces
  obtain ⟨hcount, hcountValue⟩ := readCount_eq_ok_iff.mp hcount
  obtain ⟨hmodifier, hmodifierValue⟩ := readModifier_eq_ok_iff.mp hmodifier
  have hdie : IsFaces digits := ⟨hnum, hvalue ▸ p.die.faces_mem⟩
  exact ⟨⟨countText, digits, modifierText, mark⟩, ⟨hcount, hdie, hmodifier, hmark⟩, rfl,
    ⟨hcountValue, hvalue.symm, hmodifierValue, hexploding, hcap⟩⟩

theorem Parts.text_ne_nil (w : Parts) : w.text ≠ [] := by
  simp [text, body]

theorem Parts.Names.explosions_of_mark_eq_nil {w : Parts} {p : Pool} (hp : w.Names p)
    (hmark : w.mark = []) : p.explosions = none := by
  cases hexplosions : p.explosions with
  | none => rfl
  | some cap => exact absurd hmark (hp.isExploding.mp (by simp [Pool.isExploding, hexplosions]))

theorem Parts.Names.explosions_of_mark_eq_cons {w : Parts} {p : Pool} (hp : w.Names p)
    {capText : List Char} (hmark : w.mark = '!' :: capText) :
    ∃ cap, p.explosions = some cap ∧ cap.toNat = capValue capText := by
  have hexploding : p.isExploding = true := hp.isExploding.mpr (by simp [hmark])
  obtain ⟨cap, hcap⟩ := Option.isSome_iff_exists.mp hexploding
  have hvalue := hp.cap
  rw [Pool.cap, hcap, hmark] at hvalue
  exact ⟨cap, hcap, hvalue⟩

/-- Well-formed parts are read back, whatever text is quoted. -/
theorem Parts.WellFormed.readBody_body {w : Parts} {p : Pool} (hw : w.WellFormed)
    (hp : w.Names p) (whole : List Char) : readBody whole w.body p.explosions = .ok p := by
  have hle : p.faces ≤ uint32Max := Nat.le_trans p.die.faces_le_ten (by decide)
  refine readBody_eq_ok_iff.mpr ⟨w.count, w.faces ++ w.modifier, w.modifier, hw.cutAt_body,
    ?_, ?_, ?_, rfl⟩
  · exact readCount_eq_ok_iff.mpr ⟨hw.count, hp.count⟩
  · exact readFaces_eq_ok_iff.mpr
      ⟨w.faces, rfl, hw.faces.1, hp.faces.symm, hle, hw.modifier.endsDigits⟩
  · exact readModifier_eq_ok_iff.mpr ⟨hw.modifier, hp.modifier⟩

/-- The reader accepts exactly the texts with well-formed parts, and reads the pool that the parts
stand for. -/
theorem read_eq_ok_iff {p : Pool} :
    read text = .ok p ↔ ∃ w : Parts, w.WellFormed ∧ w.text = text ∧ w.Names p := by
  constructor
  · intro h
    unfold read at h
    split at h
    · cases h
    · -- With an exclamation mark the cap has been read first, from all that follows the mark.
      split at h
      · next body capText hcut =>
        obtain ⟨rfl, -⟩ := cutAt_eq_some_iff.mp hcut
        obtain ⟨cap, hcap, hbody⟩ := bind_eq_ok_iff.mp h
        obtain ⟨hcap, hcapValue⟩ := readCap_eq_ok_iff.mp hcap
        have hexplosions := explosions_of_readBody hbody
        exact exists_parts_of_readBody hbody (.inr ⟨capText, rfl, hcap⟩)
          (by simp [Pool.isExploding, hexplosions])
          (by rw [Pool.cap, hexplosions]; exact hcapValue)
      · next hcut =>
        have hexplosions := explosions_of_readBody h
        obtain ⟨w, hw, htext, hp⟩ := exists_parts_of_readBody h (.inl rfl)
          (by simp [Pool.isExploding, hexplosions])
          (by rw [Pool.cap, hexplosions]; rfl)
        exact ⟨w, hw, htext.trans (List.append_nil text), hp⟩
  · rintro ⟨w, hw, rfl, hp⟩
    have hbody := hw.readBody_body hp w.text
    rw [read, if_neg w.text_ne_nil]
    rcases hw.mark with hnil | ⟨capText, hcons, hcap⟩
    · have htext : w.text = w.body := by rw [Parts.text, hnil, List.append_nil]
      rw [hp.explosions_of_mark_eq_nil hnil, htext] at hbody
      rw [hw.cutAt_text_of_mark_eq_nil hnil, htext]
      exact hbody
    · obtain ⟨cap, hexplosions, hcapValue⟩ := hp.explosions_of_mark_eq_cons hcons
      rw [hexplosions] at hbody
      rw [hw.cutAt_text_of_mark_eq_cons hcons]
      exact bind_eq_ok_iff.mpr ⟨cap, readCap_eq_ok_iff.mpr ⟨hcap, hcapValue⟩, hbody⟩

/-! ### The pool that parts stand for -/

theorem IsCount.exists_value (h : IsCount text) :
    ∃ count : UInt32, 0 < count.toNat ∧ count.toNat = countValue text := by
  rcases h with rfl | ⟨hnum, hpos, hle⟩
  · exact ⟨1, by decide, rfl⟩
  · have hvalue : (UInt32.ofNat (numeralValue text)).toNat = numeralValue text :=
      (ofNat_eq_iff hle).mp rfl
    rw [countValue, if_neg (ne_nil_of_isNumeral hnum)]
    exact ⟨_, hvalue.symm ▸ hpos, hvalue⟩

theorem IsFaces.exists_die (h : IsFaces text) : ∃ die : Die, die.faces = numeralValue text := by
  have hmem := h.2
  simp only [List.mem_cons, List.not_mem_nil, or_false] at hmem
  rcases hmem with h4 | h6 | h8 | h10
  · exact ⟨.d4, h4.symm⟩
  · exact ⟨.d6, h6.symm⟩
  · exact ⟨.d8, h8.symm⟩
  · exact ⟨.d10, h10.symm⟩

theorem IsModifier.exists_value (h : IsModifier text) :
    ∃ modifier : Int32, modifier.toInt = modifierValue text := by
  rcases h with rfl | ⟨sign, digits, rfl, -, -, hlo, hhi⟩
  · exact ⟨0, rfl⟩
  · exact ⟨_, (ofInt_eq_iff hlo hhi).mp rfl⟩

theorem IsCap.exists_value (h : IsCap text) : ∃ cap : UInt32, cap.toNat = capValue text := by
  rcases h with rfl | ⟨hnum, hle⟩
  · exact ⟨defaultCap, rfl⟩
  · rw [capValue, if_neg (ne_nil_of_isNumeral hnum)]
    exact ⟨_, (ofNat_eq_iff hle).mp rfl⟩

/-- Well-formed parts stand for a pool. -/
theorem Parts.WellFormed.exists_names {w : Parts} (hw : w.WellFormed) : ∃ p, w.Names p := by
  obtain ⟨count, hpos, hcount⟩ := hw.count.exists_value
  obtain ⟨die, hdie⟩ := hw.faces.exists_die
  obtain ⟨modifier, hmodifier⟩ := hw.modifier.exists_value
  rcases hw.mark with hnil | ⟨capText, hcons, hcap⟩
  · exact ⟨⟨count, die, modifier, none, hpos⟩, hcount, hdie, hmodifier,
      by simp [Pool.isExploding, hnil], by rw [hnil]; rfl⟩
  · obtain ⟨cap, hvalue⟩ := hcap.exists_value
    exact ⟨⟨count, die, modifier, some cap, hpos⟩, hcount, hdie, hmodifier,
      by simp [Pool.isExploding, hcons], by rw [hcons]; exact hvalue⟩

end Notation

namespace Pool

open Notation

/-- Notation is read from a text exactly when the text, without the blanks around it and in lower
case, falls into well-formed parts. It does so in one way only, and the pool that is read has the
values of the parts. -/
theorem parse_ok_iff_exists_parts (s : String) :
    ((∃ p, parse s = .ok p) ↔ ∃ w : Parts, w.WellFormed ∧ w.text = lowercase (trim s.toList)) ∧
    (∀ w w' : Parts, w.WellFormed → w'.WellFormed → w.text = lowercase (trim s.toList) →
      w'.text = lowercase (trim s.toList) → w = w') ∧
    (∀ w : Parts, w.WellFormed → w.text = lowercase (trim s.toList) →
      ∃ p, parse s = .ok p ∧ w.Names p) := by
  have hreads : ∀ w : Parts, w.WellFormed → w.text = lowercase (trim s.toList) →
      ∃ p, parse s = .ok p ∧ w.Names p := by
    intro w hw htext
    obtain ⟨p, hp⟩ := hw.exists_names
    exact ⟨p, read_eq_ok_iff.mpr ⟨w, hw, htext, hp⟩, hp⟩
  refine ⟨⟨?_, ?_⟩, ?_, hreads⟩
  · rintro ⟨p, h⟩
    obtain ⟨w, hw, htext, -⟩ := read_eq_ok_iff.mp h
    exact ⟨w, hw, htext⟩
  · rintro ⟨w, hw, htext⟩
    obtain ⟨p, h, -⟩ := hreads w hw htext
    exact ⟨p, h⟩
  · intro w w' hw hw' htext htext'
    exact hw.eq_of_text_eq hw' (htext.trans htext'.symm)

/-- Leading zeros are no obstacle, and the least modifier is within the range. -/
theorem parse_least_modifier :
    ∃ p, parse "\u00A0007D10-02147483648!00\t" = .ok p ∧
      Parts.Names ⟨['0', '0', '7'], ['1', '0'], '-' :: "02147483648".toList, ['!', '0', '0']⟩ p :=
  (parse_ok_iff_exists_parts "\u00A0007D10-02147483648!00\t").2.2
    ⟨['0', '0', '7'], ['1', '0'], '-' :: "02147483648".toList, ['!', '0', '0']⟩
    { count := .inr (by decide)
      faces := ⟨by decide, by decide⟩
      modifier := .inr ⟨_, _, rfl, .inr rfl, by decide, by decide, by decide⟩
      mark := .inr ⟨_, rfl, .inr (by decide)⟩ }
    (by decide)

end Pool

end Tabletop
