/-!
# Dice

The dice that a pool can hold: four, six, eight or ten faces, numbered from one.
-/

namespace Tabletop

/-- A supported die. -/
inductive Die where
  | d4
  | d6
  | d8
  | d10
  deriving DecidableEq, Repr

namespace Die

/-- Every supported die, smallest first. -/
def all : List Die := [d4, d6, d8, d10]

/-- The number of faces, which is also the highest face. -/
def faces : Die → Nat
  | d4 => 4
  | d6 => 6
  | d8 => 8
  | d10 => 10

/-- The die with the given number of faces. -/
def ofFaces? : Nat → Option Die
  | 4 => some d4
  | 6 => some d6
  | 8 => some d8
  | 10 => some d10
  | _ => none

/-- The die as notation writes it. -/
def text (d : Die) : List Char := 'd' :: Nat.toDigits 10 d.faces

@[simp] theorem ofFaces?_faces (d : Die) : ofFaces? d.faces = some d := by cases d <;> rfl

theorem ofFaces?_eq_some_iff {n : Nat} {d : Die} : ofFaces? n = some d ↔ n = d.faces := by
  constructor
  · intro h
    unfold ofFaces? at h
    split at h <;> first | (obtain rfl := Option.some.inj h; rfl) | cases h
  · rintro rfl
    exact ofFaces?_faces d

/-- No two dice have the same number of faces. -/
theorem faces_injective {d e : Die} (h : d.faces = e.faces) : d = e := by
  have hdie : some d = some e := by rw [← ofFaces?_faces d, h, ofFaces?_faces e]
  exact Option.some.inj hdie

theorem faces_mem (d : Die) : d.faces ∈ [4, 6, 8, 10] := by cases d <;> decide

theorem faces_pos (d : Die) : 0 < d.faces := by cases d <;> decide

theorem faces_le_ten (d : Die) : d.faces ≤ 10 := by cases d <;> decide

end Die

end Tabletop
