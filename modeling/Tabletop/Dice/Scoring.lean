import Tabletop.Dice.Pool

/-!
# Scoring dice

A convention says which faces count: a face at or above the success threshold is a success, and
any other face that equals the botch face is a botch. Botches cancel successes, never below zero. A
roll without net successes but with a botch is a fumble, and otherwise a roll with enough net
successes is critical.

Successes and botches are counted in words of 32 bits, which no dice fill that fit into memory
today. The counts of so many faces start over.
-/

namespace Tabletop

/-- What faces count for. -/
structure Convention where
  /-- Faces at or above this one are successes. -/
  successThreshold : Nat := 8
  /-- Other faces equal to this one are botches. -/
  botchFace : Nat := 1
  /-- Net successes from which a roll is critical. -/
  criticalThreshold : Nat := 5
  deriving DecidableEq, Repr

namespace Convention

/-- The score of a face: one for a success, minus one for a botch, zero otherwise. -/
def score (c : Convention) (face : Nat) : Int :=
  if c.successThreshold ≤ face then 1
  else if face = c.botchFace then -1
  else 0

variable {c : Convention} {face : Nat}

theorem score_eq_one_iff : c.score face = 1 ↔ c.successThreshold ≤ face := by
  by_cases h : c.successThreshold ≤ face
  · simp [score, h]
  · by_cases hb : face = c.botchFace <;> simp_all [score]

theorem score_eq_neg_one_iff :
    c.score face = -1 ↔ face = c.botchFace ∧ face < c.successThreshold := by
  by_cases h : c.successThreshold ≤ face
  · simp [score, h, Nat.not_lt.mpr h]
  · by_cases hb : face = c.botchFace
    · simp [score, hb, hb ▸ Nat.lt_of_not_le h]
    · simp [score, h, hb]

end Convention

/-- The faces that one die has shown: its first roll, then the rolls that explosions added. -/
structure DieRoll where
  faces : List Nat
  deriving DecidableEq, Repr

namespace DieRoll

def total (d : DieRoll) : Nat := d.faces.foldr (· + ·) 0

def explosions (d : DieRoll) : Nat := d.faces.length - 1

end DieRoll

/-- Every face that a list of dice has shown, in the order of the rolls. -/
def allFaces (dice : List DieRoll) : List Nat := dice.flatMap DieRoll.faces

/-- How many faces have a property, counted in a word. -/
def tally (p : Nat → Bool) (faces : List Nat) : Nat :=
  faces.foldl (fun n face => if p face then nextCount n else n) 0

/-- A full count starts over. -/
theorem tally_eq (p : Nat → Bool) (faces : List Nat) :
    tally p faces = faces.countP p % 4294967296 := by
  -- The counting goes on from any count, of which the word holds the remainder.
  have hfrom (n : Nat) : faces.foldl (fun n face => if p face then nextCount n else n)
      (n % 4294967296) = (n + faces.countP p) % 4294967296 := by
    induction faces generalizing n with
    | nil => rfl
    | cons face faces ih =>
      rw [List.foldl_cons, List.countP_cons]
      cases p face with
      | false => exact ih n
      | true =>
        have hnext : nextCount (n % 4294967296) = (n + 1) % 4294967296 := Nat.mod_add_mod n _ 1
        rw [if_pos rfl, if_pos rfl, hnext, ih, Nat.add_assoc, Nat.add_comm 1]
  have hstart := hfrom 0
  rwa [Nat.zero_add] at hstart

/-- Fewer faces than a word can count are counted exactly. -/
theorem tally_of_length_le {faces : List Nat} (h : faces.length ≤ uint32Max) (p : Nat → Bool) :
    tally p faces = faces.countP p := by
  rw [tally_eq]
  exact Nat.mod_eq_of_lt (Nat.lt_succ_of_le (Nat.le_trans List.countP_le_length h))

structure Roll where
  pool : Pool
  /-- The dice in the order in which they were rolled. -/
  dice : List DieRoll
  successes : Nat
  botches : Nat
  netSuccesses : Nat
  isFumble : Bool
  isCritical : Bool
  deriving DecidableEq, Repr

namespace Roll

/-- Scores dice that have been rolled. -/
def ofDice (pool : Pool) (dice : List DieRoll) (c : Convention) : Roll :=
  let faces := allFaces dice
  let successes := tally (c.score · == 1) faces
  let botches := tally (c.score · == -1) faces
  let net := successes - botches
  let fumble := net == 0 && decide (0 < botches)
  { pool, dice, successes, botches
    netSuccesses := net
    isFumble := fumble
    isCritical := !fumble && decide (c.criticalThreshold ≤ net) }

/-- Every face, explosions included, in the order of the rolls. -/
def rawRolls (r : Roll) : List Nat := allFaces r.dice

def explosionCount (r : Roll) : Nat := r.dice.foldr (fun d sum => d.explosions + sum) 0

def rawTotal (r : Roll) : Nat := r.dice.foldr (fun d sum => d.total + sum) 0

/-- The sum of every face and the modifier of the pool. -/
def total (r : Roll) : Int := r.rawTotal + r.pool.modifier.toInt

variable (pool : Pool) (dice : List DieRoll) (c : Convention)

@[simp] theorem ofDice_pool : (ofDice pool dice c).pool = pool := rfl

@[simp] theorem ofDice_dice : (ofDice pool dice c).dice = dice := rfl

theorem ofDice_successes :
    (ofDice pool dice c).successes = tally (c.score · == 1) (allFaces dice) := rfl

theorem ofDice_botches :
    (ofDice pool dice c).botches = tally (c.score · == -1) (allFaces dice) := rfl

theorem ofDice_netSuccesses :
    (ofDice pool dice c).netSuccesses =
      (ofDice pool dice c).successes - (ofDice pool dice c).botches := rfl

theorem isFumble_ofDice_iff :
    (ofDice pool dice c).isFumble = true ↔
      (ofDice pool dice c).netSuccesses = 0 ∧ 0 < (ofDice pool dice c).botches := by
  rw [ofDice, Bool.and_eq_true, beq_iff_eq, decide_eq_true_iff]

theorem isCritical_ofDice_iff :
    (ofDice pool dice c).isCritical = true ↔
      (ofDice pool dice c).isFumble = false ∧
        c.criticalThreshold ≤ (ofDice pool dice c).netSuccesses := by
  rw [ofDice, Bool.and_eq_true, Bool.not_eq_true', decide_eq_true_iff]

/-- No scored roll is both a fumble and critical. -/
theorem ofDice_not_fumble_and_critical :
    ¬ ((ofDice pool dice c).isFumble = true ∧ (ofDice pool dice c).isCritical = true) := by
  rintro ⟨hfumble, hcritical⟩
  have hnone := ((isCritical_ofDice_iff pool dice c).mp hcritical).1
  exact Bool.false_ne_true (hnone.symm.trans hfumble)

theorem netSuccesses_eq_zero_of_isFumble (h : (ofDice pool dice c).isFumble = true) :
    (ofDice pool dice c).netSuccesses = 0 :=
  ((isFumble_ofDice_iff pool dice c).mp h).1

/-- A critical roll has the net successes that the convention asks for. -/
theorem criticalThreshold_le_of_isCritical (h : (ofDice pool dice c).isCritical = true) :
    c.criticalThreshold ≤ (ofDice pool dice c).netSuccesses :=
  ((isCritical_ofDice_iff pool dice c).mp h).2

end Roll

end Tabletop
