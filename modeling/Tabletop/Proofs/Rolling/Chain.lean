import Tabletop.Dice.Rolling

/-!
# What one die shows

The faces of one die form a chain: every face but the last is the highest of the die, and each of
them used up one of the further rolls that the pool allows. The last face is below the highest,
unless no further roll was left. That is so whatever the source answers; a source that keeps to the
range it is asked for also keeps every face between one and the highest.
-/

namespace Tabletop

variable {σ : Type} [Source σ] {faces limit : Nat}

/-- The faces that a die can show in turn when it may be rolled again a number of times. -/
inductive FaceChain (faces : Nat) : Nat → List Nat → Prop
  /-- The die is not rolled again: it shows less than the highest face, or no roll is left. -/
  | last {limit face : Nat} (h : face = faces → limit = 0) : FaceChain faces limit [face]
  /-- The die shows its highest face and uses up one of the further rolls. -/
  | again {limit : Nat} {shown : List Nat} (h : FaceChain faces limit shown) :
      FaceChain faces (limit + 1) (faces :: shown)

/-! ### One die -/

theorem rollChain_of_last {face : Nat} {s s' : σ} (h : rollFace faces s = (face, s'))
    (hlast : face = faces → limit = 0) : rollChain faces limit s = ([face], s') := by
  cases limit with
  | zero => simp only [rollChain, h]
  | succ limit =>
    have hne : face ≠ faces := fun heq => Nat.succ_ne_zero limit (hlast heq)
    simp only [rollChain, h, if_neg hne]

theorem rollChain_of_again {s s' : σ} (h : rollFace faces s = (faces, s')) :
    rollChain faces (limit + 1) s =
      (faces :: (rollChain faces limit s').1, (rollChain faces limit s').2) := by
  simp only [rollChain, h, if_true]

/-- A die shows a chain of faces, whatever the source. -/
theorem faceChain_rollChain (faces limit : Nat) (s : σ) :
    FaceChain faces limit (rollChain faces limit s).1 := by
  induction limit generalizing s with
  | zero => exact .last fun _ => rfl
  | succ limit ih =>
    cases hroll : rollFace faces s with
    | mk face s' =>
      by_cases hface : face = faces
      · subst hface
        rw [rollChain_of_again hroll]
        exact .again (ih s')
      · rw [rollChain_of_last hroll fun h => absurd h hface]
        exact .last fun h => absurd h hface

/-! ### Sources that keep to the range -/

theorem rollFace_mem (hσ : Source.KeepsRange σ) (die : Die) (s : σ) :
    1 ≤ (rollFace die.faces s).1 ∧ (rollFace die.faces s).1 ≤ die.faces := by
  have hpos := die.faces_pos
  have hten := die.faces_le_ten
  obtain ⟨hlo, hhi⟩ := hσ 1 die.faces s (by decide) (by omega) (by unfold int32Max; omega)
  unfold rollFace
  dsimp only
  split <;> omega

theorem mem_rollChain (hσ : Source.KeepsRange σ) (die : Die) (limit : Nat) (s : σ) :
    ∀ face ∈ (rollChain die.faces limit s).1, 1 ≤ face ∧ face ≤ die.faces := by
  have hrange := rollFace_mem hσ die
  induction limit generalizing s with
  | zero =>
    intro shown hshown
    obtain rfl := List.mem_singleton.mp hshown
    exact hrange s
  | succ limit ih =>
    intro shown hshown
    -- The first face is rolled from `s`, every further one from the state that this leaves.
    have hfirst := hrange s
    cases hroll : rollFace die.faces s with
    | mk face s' =>
      rw [hroll] at hfirst
      by_cases hface : face = die.faces
      · subst hface
        rw [rollChain_of_again hroll] at hshown
        rcases List.mem_cons.mp hshown with rfl | hshown
        · exact hfirst
        · exact ih s' shown hshown
      · rw [rollChain_of_last hroll fun h => absurd h hface] at hshown
        obtain rfl := List.mem_singleton.mp hshown
        exact hfirst

/-! ### The dice of a pool -/

/-- The faces of a die form a chain of the pool's own length, and all of them are faces of its
dice. -/
structure Pool.CanShow (p : Pool) (d : DieRoll) : Prop where
  chain : FaceChain p.faces p.explosionLimit d.faces
  range (face : Nat) (h : face ∈ d.faces) : 1 ≤ face ∧ face ≤ p.faces

theorem canShow_rollDie (hσ : Source.KeepsRange σ) (p : Pool) (s : σ) :
    p.CanShow (rollDie p s).1 where
  chain := faceChain_rollChain p.faces p.explosionLimit s
  range := mem_rollChain hσ p.die p.explosionLimit s

/-- Every die of a roll is rolled like any single one. -/
theorem forall_mem_rollDice {p : Pool} {P : DieRoll → Prop} (h : ∀ s : σ, P (rollDie p s).1)
    (n : Nat) (s : σ) : ∀ d ∈ (rollDice p n s).1, P d := by
  induction n generalizing s with
  | zero =>
    intro d hd
    cases hd
  | succ n ih =>
    intro d hd
    rcases List.mem_cons.mp hd with rfl | hd
    · exact h s
    · exact ih _ d hd

theorem canShow_of_mem_rollDice (hσ : Source.KeepsRange σ) (p : Pool) (n : Nat) (s : σ) :
    ∀ d ∈ (rollDice p n s).1, p.CanShow d :=
  forall_mem_rollDice (canShow_rollDie hσ p) n s

end Tabletop
