import Tabletop.Dice.Pool
import Tabletop.Text.Blank
import Tabletop.Text.LetterCase

/-!
# Reading dice notation

Notation is read in lower case and without the blanks around it. It names a pool as
`count d faces modifier ! cap`, where everything but the `d` and the faces may be left out: the
count is then one, the modifier zero, and without the exclamation mark the dice do not explode.

The parts are cut off in a fixed order, which decides the fault that is reported when there are
several: the cap behind the first exclamation mark, the count before the first `d`, the digits of
the faces, the modifier, and last whether there is such a die.
-/

namespace Tabletop

open Text

namespace Notation

/-- The text before and after the first occurrence of a character. -/
def cutAt (c : Char) : List Char → Option (List Char × List Char)
  | [] => none
  | d :: ds =>
    if d = c then some ([], ds)
    else (cutAt c ds).map fun (before, after) => (d :: before, after)

/-- A text is cut at an occurrence of the character that no other precedes. -/
theorem cutAt_eq_some_iff {c : Char} {text before after : List Char} :
    cutAt c text = some (before, after) ↔ text = before ++ c :: after ∧ c ∉ before := by
  induction text generalizing before with
  | nil => simp [cutAt]
  | cons d ds ih =>
    by_cases hd : d = c
    · subst hd
      cases before with
      | nil => simp [cutAt, eq_comm]
      | cons b bs => simp +contextual [cutAt]
    · cases before with
      | nil => simp [cutAt, hd]
      | cons b bs =>
        simp only [cutAt, hd, if_false, Option.map_eq_some_iff, Prod.mk.injEq, Prod.exists,
          List.cons.injEq, List.cons_append, List.mem_cons, not_or]
        constructor
        · rintro ⟨before', after', h, ⟨rfl, rfl⟩, rfl⟩
          obtain ⟨rfl, hmem⟩ := ih.mp h
          exact ⟨⟨rfl, rfl⟩, fun h => hd h.symm, hmem⟩
        · rintro ⟨⟨rfl, rfl⟩, -, hmem⟩
          exact ⟨bs, after, ih.mpr ⟨rfl, hmem⟩, ⟨rfl, rfl⟩, rfl⟩

theorem cutAt_eq_none_iff {c : Char} {text : List Char} : cutAt c text = none ↔ c ∉ text := by
  induction text with
  | nil => simp [cutAt]
  | cons d ds ih =>
    by_cases hd : d = c
    · simp [cutAt, hd]
    · simp [cutAt, hd, ih, Ne.symm hd]

/-- Reads what follows the exclamation mark: nothing, which stands for the default cap, or a
numeral. -/
def readCap (text : List Char) : Except NotationError UInt32 :=
  if text = [] then .ok defaultCap
  else match numeral? uint32Max text with
    | some cap => .ok (UInt32.ofNat cap)
    | none => .error (.invalidCap (String.ofList text))

/-- Reads what precedes the `d`: nothing, which stands for one, or a positive numeral. -/
def readCount (text : List Char) : Except NotationError UInt32 :=
  if text = [] then .ok 1
  else match numeral? uint32Max text with
    | some 0 => .error .zeroCount
    | some count => .ok (UInt32.ofNat count)
    | none => .error (.invalidCount (String.ofList text))

/-- Reads the digits behind the `d`, and returns the number of faces and the rest. -/
def readFaces (text : List Char) : Except NotationError (Nat × List Char) :=
  let digits := text.takeWhile Char.isDigit
  if digits = [] then .error (.invalidFaces (String.ofList text))
  else match numeral? uint32Max digits with
    | some faces => .ok (faces, text.dropWhile Char.isDigit)
    | none => .error (.invalidFaces (String.ofList digits))

/-- Reads what follows the faces: nothing, which stands for zero, or one sign and a numeral. -/
def readModifier (text : List Char) : Except NotationError Int32 :=
  match text with
  | [] => .ok 0
  | sign :: digits =>
    match sign, numeral? uint32Max digits with
    | '+', some n =>
      if n ≤ int32Max then .ok (Int32.ofInt n) else .error (.invalidModifier (String.ofList text))
    | '-', some n =>
      if int32Min ≤ -n then .ok (Int32.ofInt (-n))
      else .error (.invalidModifier (String.ofList text))
    | _, _ => .error (.invalidModifier (String.ofList text))

/-- The die with the given number of faces. -/
def readDie (faces : Nat) : Except NotationError Die :=
  match Die.ofFaces? faces with
  | some die => .ok die
  | none => .error (.unsupportedFaces faces)

/-- Reads the pool before the exclamation mark. The whole text is quoted when the `d` is missing. -/
def readBody (whole body : List Char) (explosions : Option UInt32) :
    Except NotationError Pool := do
  let some (countText, rest) := cutAt 'd' body
    | .error (.missingSeparator (String.ofList whole))
  let count ← readCount countText
  let (faces, modifierText) ← readFaces rest
  let modifier ← readModifier modifierText
  -- The die comes last: a faulty modifier is reported before an unsupported die.
  let die ← readDie faces
  match explosions with
  | some cap => Pool.exploding count die modifier cap
  | none => Pool.plain count die modifier

/-- Reads a notation that is already in lower case and without blanks around it. -/
def read (text : List Char) : Except NotationError Pool :=
  if text = [] then .error .empty
  else match cutAt '!' text with
    | some (body, capText) => do
      -- The cap is read before the pool, so that its fault is the first to be reported.
      let cap ← readCap capText
      readBody text body (some cap)
    | none => readBody text text none

end Notation

/-- Reads dice notation. -/
def Pool.parse (text : String) : Except NotationError Pool :=
  Notation.read (lowercase (trim text.toList))

end Tabletop
