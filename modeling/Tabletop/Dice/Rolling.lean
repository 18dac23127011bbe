import Tabletop.Dice.Scoring
import Tabletop.Random.Source

/-!
# Rolling dice

A pool is rolled die by die. A die of an exploding pool that shows its highest face is rolled
again, as long as its own cap allows. With advantage or disadvantage the pool is rolled twice, and
the roll with the better or the worse net successes is kept; on equal nets the first one.
-/

namespace Tabletop

variable {σ : Type} [Source σ]

/-- Rolls one face. An answer below zero, which is out of range, counts as a one. -/
def rollFace (faces : Nat) (s : σ) : Nat × σ :=
  let (i, s) := Source.integer 1 faces s
  (if i < 0 then 1 else i.toNat, s)

/-- Rolls one die that may be rolled again `limit` times, as long as it shows its highest face. -/
def rollChain (faces : Nat) : Nat → σ → List Nat × σ
  | 0, s =>
    let (face, s) := rollFace faces s
    ([face], s)
  | limit + 1, s =>
    let (face, s) := rollFace faces s
    -- Only the highest face is rolled again, and every further roll uses up one of the limit.
    if face = faces then
      let (more, s) := rollChain faces limit s
      (face :: more, s)
    else ([face], s)

/-- Rolls one die of a pool. -/
def rollDie (p : Pool) (s : σ) : DieRoll × σ :=
  let (faces, s) := rollChain p.faces p.explosionLimit s
  (⟨faces⟩, s)

/-- Rolls a number of dice of a pool, one after the other. -/
def rollDice (p : Pool) : Nat → σ → List DieRoll × σ
  | 0, s => ([], s)
  | n + 1, s =>
    let (die, s) := rollDie p s
    let (dice, s) := rollDice p n s
    (die :: dice, s)

/-- Rolls the dice of a pool and scores them under a convention. -/
def Pool.roll (p : Pool) (c : Convention) (s : σ) : Roll × σ :=
  let (dice, s) := rollDice p p.count.toNat s
  (Roll.ofDice p dice c, s)

@[simp] theorem length_rollDice (p : Pool) (n : Nat) (s : σ) :
    (rollDice p n s).1.length = n := by
  induction n generalizing s with
  | zero => rfl
  | succ n ih => simp [rollDice, ih]

theorem Pool.dice_roll (p : Pool) (c : Convention) (s : σ) :
    (p.roll c s).1.dice = (rollDice p p.count.toNat s).1 := rfl

theorem Pool.total_roll (p : Pool) (c : Convention) (s : σ) :
    (p.roll c s).1.total = (p.roll c s).1.rawTotal + p.modifier.toInt := rfl

/-! ### Rolling twice -/

/-- Whether a roll is made once, or twice with the better or the worse one kept. -/
inductive RollMode where
  | normal
  | advantage
  | disadvantage
  deriving DecidableEq, Repr, Inhabited

/-- A roll that was kept, and the one that was discarded when there were two. -/
structure AdvantageRoll where
  mode : RollMode
  kept : Roll
  discarded : Option Roll
  deriving DecidableEq, Repr

/-- Whether the first of two rolls is kept. -/
def RollMode.keepsFirst (mode : RollMode) (first second : Roll) : Bool :=
  match mode with
  | .normal => true
  | .advantage => second.netSuccesses ≤ first.netSuccesses
  | .disadvantage => first.netSuccesses ≤ second.netSuccesses

/-- Chooses between two rolls. -/
def RollMode.choose (mode : RollMode) (first second : Roll) : AdvantageRoll :=
  if mode.keepsFirst first second then ⟨mode, first, some second⟩
  else ⟨mode, second, some first⟩

/-- Rolls a pool once or twice, as the mode says. -/
def Pool.rollWith (p : Pool) (mode : RollMode) (c : Convention) (s : σ) : AdvantageRoll × σ :=
  let (first, s) := p.roll c s
  if mode = .normal then (⟨mode, first, none⟩, s)
  else
    let (second, s) := p.roll c s
    (mode.choose first second, s)

theorem Pool.rollWith_normal (p : Pool) (c : Convention) (s : σ) :
    p.rollWith .normal c s = (⟨.normal, (p.roll c s).1, none⟩, (p.roll c s).2) := rfl

theorem Pool.rollWith_of_ne_normal (p : Pool) {mode : RollMode} (h : mode ≠ .normal)
    (c : Convention) (s : σ) :
    p.rollWith mode c s =
      (mode.choose (p.roll c s).1 (p.roll c (p.roll c s).2).1,
        (p.roll c (p.roll c s).2).2) := by
  simp [rollWith, h]

end Tabletop
