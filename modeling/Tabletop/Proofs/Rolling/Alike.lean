import Mathlib.Data.List.Basic
import Tabletop.Proofs.Notation.RoundTrip
import Tabletop.Proofs.Rolling.Draws

/-!
# Pools that roll alike

Two pools roll alike if nobody who watches them can tell them apart: whatever the source and the
convention, they draw the same, show the same dice and come to the same total. One source is enough
to find out nearly everything. If every draw gives the highest face, each die is rolled as often as
it may be, so that the dice tell how many there are, what kind they are and how often each may be
rolled again; the total tells the modifier. What it does not tell is why a die is not rolled again:
dice that explode with a cap of zero are never rolled twice, just like dice that do not explode.

So a pool with a cap of zero and the same pool without explosions are different pools that roll
alike, and there are no others.
-/

namespace Tabletop

/-! ### The highest draws -/

theorem rollChain_highest (faces limit : Nat) (s : Highest) :
    rollChain faces limit s = (List.replicate (limit + 1) faces, s) := by
  have hface : rollFace faces s = (faces, s) := rollFace_eq faces s
  induction limit with
  | zero => exact rollChain_of_last hface fun _ => rfl
  | succ limit ih =>
    rw [rollChain_of_again hface, ih]
    rfl

/-- From the highest draws every die shows its highest face as often as it may. -/
theorem rollDice_highest (p : Pool) (n : Nat) (s : Highest) :
    rollDice p n s = (List.replicate n ⟨List.replicate (p.explosionLimit + 1) p.faces⟩, s) := by
  induction n with
  | zero => rfl
  | succ n ih =>
    have hdie : rollDie p s = (⟨List.replicate (p.explosionLimit + 1) p.faces⟩, s) := by
      rw [rollDie, rollChain_highest]
    rw [rollDice, hdie]
    dsimp only
    rw [ih]
    rfl

/-! ### What a roll depends on -/

section Congruence

variable {σ : Type} [Source σ] {p q : Pool}

/-- Dice are rolled by the number of their faces and by how often each may be rolled again. -/
theorem rollDice_congr (hfaces : p.faces = q.faces) (hlimit : p.explosionLimit = q.explosionLimit)
    (n : Nat) (s : σ) : rollDice p n s = rollDice q n s := by
  have hdie : ∀ s : σ, rollDie p s = rollDie q s := by
    intro s
    rw [rollDie, rollDie, hfaces, hlimit]
  induction n generalizing s with
  | zero => rfl
  | succ n ih => simp only [rollDice, hdie, ih]

/-- Taking down what is drawn does not change the roll. -/
theorem Pool.roll_begin (p : Pool) (c : Convention) (s : σ) :
    (p.roll c (Transcript.begin s)).1 = (p.roll c s).1 := by
  obtain ⟨answers, -, -, htranscript⟩ := p.roll_transcript c s []
  exact congrArg Prod.fst htranscript

end Congruence

namespace Pool

variable {p q : Pool}

/-- Whatever the source and the convention, both pools draw the same, show the same dice and come to
the same total. -/
def RollsAlike (p q : Pool) : Prop :=
  ∀ (σ : Type) [Source σ] (s : σ) (c : Convention),
    let a := p.roll c (Transcript.begin s)
    let b := q.roll c (Transcript.begin s)
    a.2.exchanges = b.2.exchanges ∧ a.1.dice = b.1.dice ∧ a.1.total = b.1.total

/-- The dice of the highest draws tell how many dice a pool has and how they are rolled. -/
theorem eq_of_dice_highest {c : Convention} {s : Highest}
    (h : (p.roll c s).1.dice = (q.roll c s).1.dice) :
    p.count = q.count ∧ p.die = q.die ∧ p.explosionLimit = q.explosionLimit := by
  rw [dice_roll, dice_roll, rollDice_highest, rollDice_highest, List.replicate_inj] at h
  obtain ⟨hcount, hdie⟩ := h
  -- A pool has at least one die, and its faces are there to be compared.
  have hfaces := congrArg DieRoll.faces (hdie.resolve_left (Nat.ne_of_gt p.count_pos))
  obtain ⟨hlimit, hface⟩ := List.replicate_inj.1 hfaces
  exact ⟨UInt32.toNat_inj.1 hcount, Die.faces_injective (hface.resolve_left (Nat.succ_ne_zero _)),
    Nat.succ.inj hlimit⟩

/-- Pools roll alike just when they have the same dice, the same modifier, and dice that may be
rolled again equally often. -/
theorem rollsAlike_iff :
    p.RollsAlike q ↔ p.count = q.count ∧ p.die = q.die ∧ p.modifier = q.modifier ∧
      p.explosionLimit = q.explosionLimit := by
  constructor
  · intro h
    obtain ⟨-, hdice, htotal⟩ := h Highest ⟨⟩ {}
    -- The same dice show the same faces, so that the totals differ by the modifiers alone.
    have hmodifier : p.modifier.toInt = q.modifier.toInt := by
      rw [total_roll, total_roll, Roll.rawTotal, Roll.rawTotal, hdice] at htotal
      exact Int.add_left_cancel htotal
    rw [roll_begin, roll_begin] at hdice
    obtain ⟨hcount, hdie, hlimit⟩ := eq_of_dice_highest hdice
    exact ⟨hcount, hdie, Int32.toInt_inj.1 hmodifier, hlimit⟩
  · rintro ⟨hcount, hdie, hmodifier, hlimit⟩ σ _ s c
    have hfaces : p.faces = q.faces := congrArg Die.faces hdie
    have hroll := rollDice_congr hfaces hlimit q.count.toNat (Transcript.begin s)
    dsimp only
    rw [total_roll, total_roll, Roll.rawTotal, Roll.rawTotal, dice_roll, dice_roll, hcount,
      hmodifier, hroll]
    refine ⟨?_, rfl, rfl⟩
    rw [roll, roll, hcount, hroll]

/-- Dice may be rolled again equally often without exploding alike only if they never are. -/
theorem explosionLimit_eq_iff :
    p.explosionLimit = q.explosionLimit ↔ p.explosions = q.explosions ∨
      p.explosions = none ∧ q.explosions = some 0 ∨
      p.explosions = some 0 ∧ q.explosions = none := by
  unfold explosionLimit
  cases p.explosions with
  | none =>
    cases q.explosions with
    | none => simp
    | some cap => simp [← UInt32.toNat_inj, eq_comm]
  | some cap =>
    cases q.explosions with
    | none => simp [← UInt32.toNat_inj]
    | some cap' => simp [UInt32.toNat_inj]

/-- Pools that roll alike are equal, unless the dice of one explode with a cap of zero and those of
the other do not explode. These do roll alike, and they differ in nothing else. -/
theorem rollsAlike_iff_eq_or_zero_cap (p q : Pool) :
    p.RollsAlike q ↔ p = q ∨
      (p.count = q.count ∧ p.die = q.die ∧ p.modifier = q.modifier) ∧
        (p.explosions = none ∧ q.explosions = some 0 ∨
          p.explosions = some 0 ∧ q.explosions = none) := by
  have heq : p = q ↔ p.count = q.count ∧ p.die = q.die ∧ p.modifier = q.modifier ∧
      p.explosions = q.explosions := by
    cases p
    cases q
    simp
  rw [rollsAlike_iff, explosionLimit_eq_iff, heq]
  tauto

/-- Three dice that do not explode and three that explode with a cap of zero are different pools,
with different notations, and they roll alike. -/
theorem rollsAlike_not_eq :
    let p : Pool := ⟨3, .d6, 0, none, by decide⟩
    let q : Pool := ⟨3, .d6, 0, some 0, by decide⟩
    parse "3d6" = .ok p ∧ parse "3d6!0" = .ok q ∧ p.RollsAlike q ∧ p ≠ q := by
  intro p q
  have hp : toString p = "3d6" := by decide
  have hq : toString q = "3d6!0" := by decide
  rw [← hp, ← hq]
  exact ⟨parse_toString p, parse_toString q, rollsAlike_iff.2 ⟨rfl, rfl, rfl, rfl⟩, by decide⟩

end Pool

end Tabletop
