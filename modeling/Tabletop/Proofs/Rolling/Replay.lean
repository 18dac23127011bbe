import Tabletop.Log.History
import Tabletop.Proofs.Notation.RoundTrip
import Tabletop.Proofs.Rolling.Chain
import Tabletop.Random.Scripted

/-!
# Replaying a recorded roll

The record of a roll keeps the faces of all dice in one list and the pool in notation, but not where
the faces of one die end and those of the next begin. Nothing is lost by that. A chain of faces
tells by itself where it ends, so a script of the recorded faces is read off die by die just as the
dice fell, and what stands behind them in the script is left alone. A script moves its numbers into
the range that is asked for; the recorded faces lie there already and are given as they stand.
-/

namespace Tabletop

section Script

variable {faces limit : Nat} {shown : List Nat} {p : Pool} {d : DieRoll} {dice : List DieRoll}

theorem rollFace_script {face : Nat} (h : 1 ≤ face ∧ face ≤ faces) (integers : List Int)
    (units : List Float) :
    rollFace faces (⟨Int.ofNat face :: integers, units⟩ : Scripted) =
      (face, ⟨integers, units⟩) := by
  have hlo : (1 : Int) ≤ Int.ofNat face := Int.ofNat_le.mpr h.1
  have hhi : Int.ofNat face ≤ faces := Int.ofNat_le.mpr h.2
  have hnonneg : ¬ Int.ofNat face < 0 := Int.not_lt.mpr (Int.natCast_nonneg face)
  rw [rollFace, Scripted.integer_cons hlo hhi]
  dsimp only
  rw [if_neg hnonneg]
  rfl

/-- A script that begins with a chain of faces shows this chain, and no more is read of it. -/
theorem FaceChain.rollChain_script (h : FaceChain faces limit shown)
    (hrange : ∀ face ∈ shown, 1 ≤ face ∧ face ≤ faces) (integers : List Int)
    (units : List Float) :
    rollChain faces limit (⟨shown.map Int.ofNat ++ integers, units⟩ : Scripted) =
      (shown, ⟨integers, units⟩) := by
  induction h with
  | @last limit face hlast =>
    exact rollChain_of_last (rollFace_script (hrange face (List.mem_singleton_self face)) _ _) hlast
  | @again limit shown _ ih =>
    have hface := rollFace_script (hrange faces List.mem_cons_self)
      (shown.map Int.ofNat ++ integers) units
    have hrest := ih fun face hface => hrange face (List.mem_cons_of_mem _ hface)
    rw [List.map_cons, List.cons_append, rollChain_of_again hface, hrest]

theorem Pool.CanShow.rollDie_script (h : p.CanShow d) (integers : List Int)
    (units : List Float) :
    rollDie p (⟨d.faces.map Int.ofNat ++ integers, units⟩ : Scripted) =
      (d, ⟨integers, units⟩) := by
  rw [rollDie, h.chain.rollChain_script h.range]

/-- Dice are shown again by a script of all their faces, each of them with its own faces. -/
theorem rollDice_script (h : ∀ d ∈ dice, p.CanShow d) (integers : List Int)
    (units : List Float) :
    rollDice p dice.length (⟨(allFaces dice).map Int.ofNat ++ integers, units⟩ : Scripted) =
      (dice, ⟨integers, units⟩) := by
  induction dice with
  | nil => rfl
  | cons d dice ih =>
    -- To the first die, the faces of the other dice are further numbers like any others.
    have hfirst := (h d List.mem_cons_self).rollDie_script
      ((allFaces dice).map Int.ofNat ++ integers) units
    have hrest := ih fun d' hd' => h d' (List.mem_cons_of_mem _ hd')
    have hfaces : (allFaces (d :: dice)).map Int.ofNat ++ integers =
        d.faces.map Int.ofNat ++ ((allFaces dice).map Int.ofNat ++ integers) := by
      simp [allFaces]
    rw [hfaces, List.length_cons, rollDice, hfirst]
    dsimp only
    rw [hrest]

end Script

/-- A roll is made again by a script that begins with its faces. -/
theorem Pool.roll_script {σ : Type} [Source σ] (hσ : Source.KeepsRange σ) (p : Pool)
    (c : Convention) (s : σ) (integers : List Int) (units : List Float) :
    p.roll c (⟨(p.roll c s).1.rawRolls.map Int.ofNat ++ integers, units⟩ : Scripted) =
      ((p.roll c s).1, ⟨integers, units⟩) := by
  have hdice := rollDice_script (canShow_of_mem_rollDice hσ p p.count.toNat s) integers units
  rw [length_rollDice] at hdice
  exact congrArg (fun answer => (Roll.ofDice p answer.1 c, answer.2)) hdice

/-- The record of a roll is enough to roll it again. Whatever the pool, the convention and the
source that answers within the range it is asked for, the notation of the record names the pool; and
rolled from a script of the recorded faces and any further numbers, the pool gives the same roll and
the same record, and leaves just the further numbers. -/
theorem RollRecord.replay {σ : Type} [Source σ] (hσ : Source.KeepsRange σ) (p : Pool)
    (c : Convention) (s : σ) (id : Identifier) (context : Option String) (rolledAt : Timestamp)
    (further : List Int) (units : List Float) :
    let r := (p.roll c s).1
    let kept := RollRecord.ofRoll id r context rolledAt
    Pool.parse kept.written = .ok p ∧
      let again := p.roll c (⟨kept.rawRolls.map Int.ofNat ++ further, units⟩ : Scripted)
      again.1 = r ∧ RollRecord.ofRoll id again.1 context rolledAt = kept ∧
        again.2 = ⟨further, units⟩ := by
  intro r kept
  have hroll : p.roll c (⟨kept.rawRolls.map Int.ofNat ++ further, units⟩ : Scripted) =
      (r, ⟨further, units⟩) :=
    Pool.roll_script hσ p c s further units
  refine ⟨Pool.parse_toString p, ?_⟩
  rw [hroll]
  exact ⟨rfl, rfl, rfl⟩

/-- The script of the roll holds numbers that no die has; the record holds what the dice showed. -/
theorem RollRecord.replay_after_foreign_numbers :
    let p : Pool := ⟨2, .d6, 0, some 10, by decide⟩
    let r := (p.roll {} (⟨[9, 6, 3, -4], []⟩ : Scripted)).1
    let kept := RollRecord.ofRoll ⟨0⟩ r none ⟨0, 0⟩
    let again := p.roll {} (⟨kept.rawRolls.map Int.ofNat ++ [5, 7], []⟩ : Scripted)
    kept.written = "2d6!" ∧ kept.rawRolls = [6, 6, 3, 1] ∧ Pool.parse kept.written = .ok p ∧
      r.dice = [⟨[6, 6, 3]⟩, ⟨[1]⟩] ∧ again.1 = r ∧ again.2 = ⟨[5, 7], []⟩ := by
  intro p r kept again
  obtain ⟨hparse, hagain, -, hrest⟩ :=
    RollRecord.replay Scripted.keepsRange p {} ⟨[9, 6, 3, -4], []⟩ ⟨0⟩ none ⟨0, 0⟩ [5, 7] []
  exact ⟨by decide, by decide, hparse, by decide, hagain, hrest⟩

end Tabletop
