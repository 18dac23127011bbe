import Mathlib.Algebra.Ring.Int.Defs
import Mathlib.Tactic.SplitIfs
import Tabletop.Dice.Scoring

/-!
# What a score depends on

Successes and botches are counted apart, and what is left of the successes is cut off at zero. The
same numbers come from one signed sum over the faces, the balance: a success adds one and a botch
takes one away. Net successes are the balance where it is positive, and a fumble is a balance that
is not, with a botch in it.

Counts and sums do not look at the order of the faces, nor at the dice that showed them. So a score
is a matter of the faces alone, each taken as often as it was shown.

The counters are words, which bounds the first part, but not the second: where the counts have
started over, they are no longer those of the balance, yet they are the same for all dice with the
same faces. A pool can be asked for just one face more than the counters hold.
-/

namespace Tabletop

namespace Convention

variable (c : Convention)

/-- What the faces come to: a success adds one, and a botch takes one away. -/
def balance (faces : List Nat) : Int := (faces.map c.score).sum

@[simp] theorem balance_nil : c.balance [] = 0 := rfl

@[simp] theorem balance_cons (face : Nat) (faces : List Nat) :
    c.balance (face :: faces) = c.score face + c.balance faces := rfl

theorem score_cases (face : Nat) :
    c.score face = 1 ∨ c.score face = -1 ∨ c.score face = 0 := by
  unfold score
  split_ifs <;> simp

/-- The balance is what the successes exceed the botches by. -/
theorem balance_eq (faces : List Nat) :
    c.balance faces =
      (faces.countP (c.score · == 1) : Int) - faces.countP (c.score · == -1) := by
  induction faces with
  | nil => rfl
  | cons face faces ih =>
    rw [balance_cons, ih, List.countP_cons, List.countP_cons]
    -- The face is counted on one side of the difference at most.
    rcases c.score_cases face with h | h | h <;> rw [h] <;> simp <;> omega

end Convention

namespace Roll

variable {pool pool' : Pool} {dice dice' : List DieRoll} {c : Convention}

section Exact

variable (hfaces : (allFaces dice).length ≤ uint32Max)

include hfaces

theorem successes_ofDice :
    (ofDice pool dice c).successes = (allFaces dice).countP (c.successThreshold ≤ ·) := by
  refine (tally_of_length_le hfaces _).trans (List.countP_congr ?_)
  intro face _
  rw [beq_iff_eq, decide_eq_true_iff]
  exact Convention.score_eq_one_iff

/-- A face that equals the botch face is no botch if it is a success. -/
theorem botches_ofDice :
    (ofDice pool dice c).botches =
      (allFaces dice).countP fun face => face = c.botchFace ∧ face < c.successThreshold := by
  refine (tally_of_length_le hfaces _).trans (List.countP_congr ?_)
  intro face _
  rw [beq_iff_eq, decide_eq_true_iff]
  exact Convention.score_eq_neg_one_iff

theorem balance_allFaces (pool : Pool) :
    c.balance (allFaces dice) =
      ((ofDice pool dice c).successes : Int) - (ofDice pool dice c).botches := by
  rw [ofDice_successes, ofDice_botches, tally_of_length_le hfaces, tally_of_length_le hfaces]
  exact c.balance_eq _

/-- Net successes are the balance, and none if that is below zero. -/
theorem netSuccesses_ofDice_eq_max :
    ((ofDice pool dice c).netSuccesses : Int) = max 0 (c.balance (allFaces dice)) := by
  rw [balance_allFaces hfaces pool, ofDice_netSuccesses]
  omega

/-- A botch is what makes a balance that is not positive a fumble. -/
theorem isFumble_ofDice_iff_balance :
    (ofDice pool dice c).isFumble = true ↔
      c.balance (allFaces dice) ≤ 0 ∧ ∃ face ∈ allFaces dice, c.score face = -1 := by
  have hnet : (ofDice pool dice c).netSuccesses = 0 ↔ c.balance (allFaces dice) ≤ 0 := by
    rw [balance_allFaces hfaces pool, ofDice_netSuccesses]
    omega
  have hbotch : 0 < (ofDice pool dice c).botches ↔
      ∃ face ∈ allFaces dice, c.score face = -1 := by
    rw [ofDice_botches, tally_of_length_le hfaces]
    simp only [List.countP_pos_iff, beq_iff_eq]
  rw [isFumble_ofDice_iff, hnet, hbotch]

end Exact

/-- Dice that show the same faces are scored alike, in whatever order and by whatever dice. -/
theorem ofDice_eq_of_perm (h : (allFaces dice).Perm (allFaces dice')) :
    ofDice pool' dice' c = { ofDice pool dice c with pool := pool', dice := dice' } := by
  simp only [ofDice, tally_eq, h.countP_eq]

/-- The score of dice, told by their faces. Of faces that a word can count, successes are those from
the threshold on, and botches the other ones that equal the botch face; net successes are the
balance of the faces, cut off at zero; and a roll is a fumble when its balance is not positive and a
face is a botch. However many faces there are, a roll is critical when it is no fumble and has the
net successes for it, so that it is never both, and dice whose faces are the same up to their order
have the same score, however the faces are divided among the dice. -/
theorem score_of_faces :
    (∀ (pool : Pool) (dice : List DieRoll) (c : Convention),
      let faces := allFaces dice
      let r := ofDice pool dice c
      (faces.length ≤ uint32Max →
        r.successes = faces.countP (c.successThreshold ≤ ·) ∧
        r.botches = faces.countP (fun face => face = c.botchFace ∧ face < c.successThreshold) ∧
        (r.netSuccesses : Int) = max 0 (c.balance faces) ∧
        (r.isFumble = true ↔ c.balance faces ≤ 0 ∧ ∃ face ∈ faces, c.score face = -1)) ∧
      (r.isCritical = true ↔ r.isFumble = false ∧ c.criticalThreshold ≤ r.netSuccesses) ∧
      ¬(r.isFumble = true ∧ r.isCritical = true)) ∧
    (∀ (pool pool' : Pool) (dice dice' : List DieRoll) (c : Convention),
      (allFaces dice).Perm (allFaces dice') →
        ofDice pool' dice' c = { ofDice pool dice c with pool := pool', dice := dice' }) := by
  refine ⟨fun pool dice c => ⟨fun hfaces => ?_, isCritical_ofDice_iff pool dice c,
    ofDice_not_fumble_and_critical pool dice c⟩, fun _ _ _ _ _ => ofDice_eq_of_perm⟩
  exact ⟨successes_ofDice hfaces, botches_ofDice hfaces, netSuccesses_ofDice_eq_max hfaces,
    isFumble_ofDice_iff_balance hfaces⟩

/-- Two dice with an explosion and three dice without, under a convention that asks for nothing to
be critical: both are fumbles, and neither is critical. -/
theorem score_of_faces_regrouped :
    let c : Convention := { criticalThreshold := 0 }
    let exploding : Pool := ⟨2, .d10, 0, some 1, by decide⟩
    let plain : Pool := ⟨3, .d10, 0, none, by decide⟩
    (allFaces [⟨[10, 1]⟩, ⟨[1]⟩]).Perm (allFaces [⟨[1]⟩, ⟨[1]⟩, ⟨[10]⟩]) ∧
      c.balance [10, 1, 1] = -1 ∧
      (ofDice plain [⟨[1]⟩, ⟨[1]⟩, ⟨[10]⟩] c).isFumble = true ∧
      (ofDice plain [⟨[1]⟩, ⟨[1]⟩, ⟨[10]⟩] c).isCritical = false ∧
      ofDice plain [⟨[1]⟩, ⟨[1]⟩, ⟨[10]⟩] c =
        { ofDice exploding [⟨[10, 1]⟩, ⟨[1]⟩] c with
          pool := plain, dice := [⟨[1]⟩, ⟨[1]⟩, ⟨[10]⟩] } := by
  intro c exploding plain
  have hperm : (allFaces [⟨[10, 1]⟩, ⟨[1]⟩]).Perm (allFaces [⟨[1]⟩, ⟨[1]⟩, ⟨[10]⟩]) := by decide
  obtain ⟨hscore, hregroup⟩ := score_of_faces
  obtain ⟨hexact, -, hboth⟩ := hscore plain [⟨[1]⟩, ⟨[1]⟩, ⟨[10]⟩] c
  obtain ⟨-, -, -, hfumble⟩ := hexact (by decide)
  have hyes := hfumble.mpr ⟨by decide, 1, by decide, by decide⟩
  exact ⟨hperm, by decide, hyes, Bool.eq_false_iff.mpr fun hcritical => hboth ⟨hyes, hcritical⟩,
    hregroup exploding plain _ _ c hperm⟩

/-- A die that explodes as often as a pool can ask for and shows nothing but successes: there is one
success more than the counter holds, so that none is left. -/
theorem score_of_too_many_faces :
    let pool : Pool := ⟨1, .d4, 0, some 4294967295, by decide⟩
    let dice : List DieRoll := [⟨List.replicate 4294967296 4⟩]
    let c : Convention := { successThreshold := 1 }
    (allFaces dice).countP (c.successThreshold ≤ ·) = 4294967296 ∧
      c.balance (allFaces dice) = 4294967296 ∧
      (ofDice pool dice c).successes = 0 ∧ (ofDice pool dice c).netSuccesses = 0 := by
  intro pool dice c
  have hfaces : allFaces dice = List.replicate 4294967296 4 := List.append_nil _
  have hsuccesses : (ofDice pool dice c).successes = 0 := by
    rw [ofDice_successes, tally_eq, hfaces, List.countP_replicate, if_pos (by decide)]
  have hbalance : c.balance (allFaces dice) = 4294967296 := by
    rw [Convention.balance_eq, hfaces, List.countP_replicate, List.countP_replicate,
      if_pos (by decide), if_neg (by decide)]
    rfl
  refine ⟨?_, hbalance, hsuccesses, ?_⟩
  · rw [hfaces, List.countP_replicate, if_pos (by decide)]
  · rw [ofDice_netSuccesses, hsuccesses, Nat.zero_sub]

end Roll

end Tabletop
