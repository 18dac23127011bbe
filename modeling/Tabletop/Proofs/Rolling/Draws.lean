import Mathlib.Data.List.Basic
import Tabletop.Proofs.Rolling.Chain
import Tabletop.Random.Scripted
import Tabletop.Random.Transcript

/-!
# What a roll draws, and what it shows

Rolling a pool asks the source for faces of its dice and for nothing else. Every answer becomes one
face, in the order of the draws, so that the faces of a roll tell how often the source was asked.
How these faces are divided among the dice does not depend on the source: each die shows a chain of
its highest face that ends below it, or else where the cap of the die does. Since the cap counts for
every die by itself, the number of draws is bounded before the first of them.

Answers outside the range are shown as faces too. From a source that answers within the range, the
faces are the answers as they stand.

## Main definitions

* `faceOf` — the face that an answer is shown as
* `Answers` — what a source answers when it is asked for faces again and again

## Main results

* `FaceChain.exists_replicate` — the form of a chain of faces
* `rollDice_transcript` — what a transcript takes down of a roll
* `Pool.roll_shape` — the form of every roll, and what it has drawn
-/

namespace Tabletop

variable {σ : Type} [Source σ] {faces limit : Nat} {shown : List Nat} {dice : List DieRoll}

/-! ### The form of a roll -/

/-- A chain repeats the highest face and ends below it, unless it is as long as the limit allows. -/
theorem FaceChain.exists_replicate (h : FaceChain faces limit shown) :
    ∃ k face, k ≤ limit ∧ shown = List.replicate k faces ++ [face] ∧
      (face = faces → k = limit) := by
  induction h with
  | @last limit face hlast =>
    exact ⟨0, face, Nat.zero_le _, rfl, fun h => (hlast h).symm⟩
  | @again limit shown _ ih =>
    obtain ⟨k, face, hk, rfl, hlast⟩ := ih
    exact ⟨k + 1, face, Nat.succ_le_succ hk, rfl, fun h => congrArg _ (hlast h)⟩

theorem FaceChain.length_pos (h : FaceChain faces limit shown) : 0 < shown.length := by
  obtain ⟨k, face, -, rfl, -⟩ := h.exists_replicate
  rw [List.length_append]
  exact Nat.succ_pos _

theorem FaceChain.length_le (h : FaceChain faces limit shown) : shown.length ≤ limit + 1 := by
  obtain ⟨k, face, hk, rfl, -⟩ := h.exists_replicate
  rw [List.length_append, List.length_replicate]
  exact Nat.succ_le_succ hk

theorem FaceChain.eq_of_mem_dropLast (h : FaceChain faces limit shown) :
    ∀ face ∈ shown.dropLast, face = faces := by
  obtain ⟨k, last, -, rfl, -⟩ := h.exists_replicate
  intro face hface
  rw [List.dropLast_concat] at hface
  exact List.eq_of_mem_replicate hface

theorem FaceChain.length_eq_of_getLast? (h : FaceChain faces limit shown)
    (hlast : shown.getLast? = some faces) : shown.length = limit + 1 := by
  obtain ⟨k, face, -, rfl, hend⟩ := h.exists_replicate
  rw [List.getLast?_concat, Option.some.injEq] at hlast
  rw [List.length_append, List.length_replicate, hend hlast]
  rfl

theorem faceChain_of_mem_rollDice (p : Pool) (n : Nat) (s : σ) :
    ∀ d ∈ (rollDice p n s).1, FaceChain p.faces p.explosionLimit d.faces :=
  forall_mem_rollDice (faceChain_rollChain p.faces p.explosionLimit) n s

/-- Dice that have been rolled show one face each, and one more for each explosion. -/
theorem length_allFaces (h : ∀ d ∈ dice, 0 < d.faces.length) :
    (allFaces dice).length = dice.length + dice.foldr (fun d sum => d.explosions + sum) 0 := by
  induction dice with
  | nil => rfl
  | cons d dice ih =>
    have hfirst : d.faces.length = d.explosions + 1 :=
      (Nat.sub_add_cancel (h d List.mem_cons_self)).symm
    have hrest := ih fun d' hd' => h d' (List.mem_cons_of_mem _ hd')
    rw [allFaces, List.flatMap_cons, List.length_append, List.length_cons, List.foldr_cons, hfirst]
    rw [allFaces] at hrest
    omega

theorem length_allFaces_le {m : Nat} (h : ∀ d ∈ dice, d.faces.length ≤ m) :
    (allFaces dice).length ≤ dice.length * m := by
  induction dice with
  | nil => exact Nat.zero_le _
  | cons d dice ih =>
    have hfirst := h d List.mem_cons_self
    have hrest := ih fun d' hd' => h d' (List.mem_cons_of_mem _ hd')
    rw [allFaces, List.flatMap_cons, List.length_append, List.length_cons, Nat.succ_mul]
    rw [allFaces] at hrest
    omega

/-! ### What is drawn -/

/-- The face that an answer is shown as: an answer below zero counts as a one. -/
def faceOf (answer : Int) : Nat := if answer < 0 then 1 else answer.toNat

theorem rollFace_eq (faces : Nat) (s : σ) :
    rollFace faces s =
      (faceOf (Source.integer 1 faces s).1, (Source.integer 1 faces s).2) := rfl

/-- Asked for a face again and again, the source gives these answers and is left in this state. -/
inductive Answers (faces : Nat) : σ → List Int → σ → Prop
  | done (s : σ) : Answers faces s [] s
  | next {s s' : σ} {answers : List Int}
      (h : Answers faces (Source.integer 1 faces s).2 answers s') :
      Answers faces s ((Source.integer 1 faces s).1 :: answers) s'

theorem Answers.append {s s' s'' : σ} {first second : List Int} (h : Answers faces s first s')
    (h' : Answers faces s' second s'') : Answers faces s (first ++ second) s'' := by
  induction h with
  | done s => exact h'
  | next _ ih => exact .next (ih h')

/-- What a source that keeps to the range answers is a face of the die. -/
theorem Answers.mem_range (hσ : Source.KeepsRange σ) {die : Die} {s s' : σ} {answers : List Int}
    (h : Answers die.faces s answers s') :
    ∀ answer ∈ answers, 1 ≤ answer ∧ answer ≤ die.faces := by
  have hpos := die.faces_pos
  have hten := die.faces_le_ten
  induction h with
  | done s => simp
  | @next s s' answers _ ih =>
    intro answer hanswer
    rcases List.mem_cons.mp hanswer with rfl | hanswer
    · exact hσ 1 die.faces s (by decide) (by omega) (by unfold int32Max; omega)
    · exact ih answer hanswer

/-! ### Transcripts of rolls

A source and its transcript are followed through a roll side by side: at every stage both show the
same faces, and the transcript takes down the answers that became these faces. -/

theorem rollFace_transcript (faces : Nat) (s : σ) (log : List Exchange) :
    rollFace faces (⟨s, log⟩ : Transcript σ) =
      (faceOf (Source.integer 1 faces s).1,
        ⟨(Source.integer 1 faces s).2,
          log ++ [.integer 1 faces (Source.integer 1 faces s).1]⟩) := rfl

theorem rollChain_transcript (faces limit : Nat) (s : σ) (log : List Exchange) :
    ∃ answers, Answers faces s answers (rollChain faces limit s).2 ∧
      (rollChain faces limit s).1 = answers.map faceOf ∧
      rollChain faces limit (⟨s, log⟩ : Transcript σ) =
        ((rollChain faces limit s).1,
          ⟨(rollChain faces limit s).2, log ++ answers.map (.integer 1 faces)⟩) := by
  induction limit generalizing s log with
  | zero => exact ⟨[(Source.integer 1 faces s).1], .next (.done _), rfl, rfl⟩
  | succ limit ih =>
    have hroll := rollFace_eq faces s
    have hwatched := rollFace_transcript faces s log
    by_cases hface : faceOf (Source.integer 1 faces s).1 = faces
    · -- The highest face: what follows is rolled, and taken down, from the states that it leaves.
      obtain ⟨answers, hanswers, hshown, hrest⟩ := ih (Source.integer 1 faces s).2
        (log ++ [.integer 1 faces (Source.integer 1 faces s).1])
      rw [hface] at hroll hwatched
      rw [rollChain_of_again hroll, rollChain_of_again hwatched, hrest]
      refine ⟨(Source.integer 1 faces s).1 :: answers, .next hanswers, ?_, ?_⟩
      · rw [List.map_cons, hface, ← hshown]
      · rw [List.map_cons, List.append_assoc, List.singleton_append]
    · have hlast : faceOf (Source.integer 1 faces s).1 = faces → limit + 1 = 0 :=
        fun h => absurd h hface
      rw [rollChain_of_last hroll hlast, rollChain_of_last hwatched hlast]
      exact ⟨[(Source.integer 1 faces s).1], .next (.done _), rfl, rfl⟩

theorem rollDice_transcript (p : Pool) (n : Nat) (s : σ) (log : List Exchange) :
    ∃ answers, Answers p.faces s answers (rollDice p n s).2 ∧
      allFaces (rollDice p n s).1 = answers.map faceOf ∧
      rollDice p n (⟨s, log⟩ : Transcript σ) =
        ((rollDice p n s).1,
          ⟨(rollDice p n s).2, log ++ answers.map (.integer 1 p.faces)⟩) := by
  induction n generalizing s log with
  | zero => exact ⟨[], .done s, rfl, by rw [List.map_nil, List.append_nil]; rfl⟩
  | succ n ih =>
    obtain ⟨first, hfirst, hshown, hdie⟩ := rollChain_transcript p.faces p.explosionLimit s log
    obtain ⟨others, hothers, hrest, hdice⟩ :=
      ih (rollDie p s).2 (log ++ first.map (.integer 1 p.faces))
    have hwatched : rollDie p (⟨s, log⟩ : Transcript σ) =
        ((rollDie p s).1, ⟨(rollDie p s).2, log ++ first.map (.integer 1 p.faces)⟩) := by
      rw [rollDie, hdie]
      rfl
    refine ⟨first ++ others, hfirst.append hothers, ?_, ?_⟩
    · rw [List.map_append, ← hshown, ← hrest]
      rfl
    · rw [List.map_append, ← List.append_assoc, rollDice, hwatched]
      dsimp only
      rw [hdice]
      rfl

/-- A transcript takes down of a roll just the answers that became its faces. -/
theorem Pool.roll_transcript (p : Pool) (c : Convention) (s : σ) (log : List Exchange) :
    ∃ answers, Answers p.faces s answers (p.roll c s).2 ∧
      (p.roll c s).1.rawRolls = answers.map faceOf ∧
      p.roll c (⟨s, log⟩ : Transcript σ) =
        ((p.roll c s).1, ⟨(p.roll c s).2, log ++ answers.map (.integer 1 p.faces)⟩) := by
  obtain ⟨answers, hanswers, hshown, hdice⟩ := rollDice_transcript p p.count.toNat s log
  refine ⟨answers, hanswers, hshown, ?_⟩
  rw [Pool.roll, hdice]
  rfl

/-! ### Answers within the range -/

theorem map_ofNat_map_faceOf {answers : List Int}
    (h : ∀ answer ∈ answers, 1 ≤ answer ∧ answer ≤ faces) :
    (answers.map faceOf).map Int.ofNat = answers ∧
      ∀ face ∈ answers.map faceOf, 1 ≤ face ∧ face ≤ faces := by
  have hface : ∀ answer ∈ answers, Int.ofNat (faceOf answer) = answer := by
    intro answer hanswer
    have hpos := (h answer hanswer).1
    rw [faceOf, if_neg (by omega)]
    exact Int.toNat_of_nonneg (by omega)
  constructor
  · rw [List.map_map]
    exact (List.map_congr_left hface).trans (List.map_id answers)
  · intro face hmem
    obtain ⟨answer, hanswer, rfl⟩ := List.mem_map.mp hmem
    have hvalue : (faceOf answer : Int) = answer := hface answer hanswer
    have hrange := h answer hanswer
    omega

/-- The form of every roll, whatever the pool, the convention and the source. Taking down what is
drawn does not change the roll. The pool asks for faces of its dice and for nothing else, and every
answer becomes one face, in the order of the draws; there are as many of them as dice and
explosions, and no more than the caps allow. There are as many dice as the pool says. A die that
does not explode shows one face. One that does shows at most as many more as its cap allows; all but
the last are the highest face, and the last is not, unless the cap has been reached. When the
answers lie in the range that was asked for, as those of a source that keeps to the range do, the
faces are the answers. -/
theorem Pool.roll_shape (p : Pool) (c : Convention) (s : σ) :
    let r := (p.roll c s).1
    let watched := p.roll c (Transcript.begin s)
    (watched.1 = r ∧ watched.2.source = (p.roll c s).2) ∧
    (∃ answers : List Int,
      watched.2.exchanges = answers.map (.integer 1 p.faces) ∧
      r.rawRolls = answers.map faceOf ∧
      answers.length = p.count.toNat + r.explosionCount ∧
      answers.length ≤ p.count.toNat * (p.explosionLimit + 1) ∧
      (Source.KeepsRange σ → ∀ answer ∈ answers, 1 ≤ answer ∧ answer ≤ p.faces) ∧
      ((∀ answer ∈ answers, 1 ≤ answer ∧ answer ≤ p.faces) →
        r.rawRolls.map Int.ofNat = answers ∧
          ∀ face ∈ r.rawRolls, 1 ≤ face ∧ face ≤ p.faces)) ∧
    r.dice.length = p.count.toNat ∧
    (p.isExploding = false → ∀ d ∈ r.dice, d.faces.length = 1) ∧
    (p.isExploding = true → ∀ d ∈ r.dice,
      (1 ≤ d.faces.length ∧ d.faces.length ≤ p.cap.toNat + 1) ∧
      (∀ face ∈ d.faces.dropLast, face = p.faces) ∧
      (d.faces.getLast? = some p.faces → d.faces.length = p.cap.toNat + 1)) := by
  intro r watched
  have hchain : ∀ d ∈ r.dice, FaceChain p.faces p.explosionLimit d.faces :=
    faceChain_of_mem_rollDice p p.count.toNat s
  have hdice : r.dice.length = p.count.toNat := length_rollDice p p.count.toNat s
  obtain ⟨answers, hanswers, hshown, hwatched⟩ := p.roll_transcript c s []
  have hlength : answers.length = r.rawRolls.length := by rw [hshown, List.length_map]
  refine ⟨⟨congrArg Prod.fst hwatched, congrArg (Transcript.source ∘ Prod.snd) hwatched⟩,
    ⟨answers, congrArg (Transcript.exchanges ∘ Prod.snd) hwatched, hshown, ?_, ?_,
      fun hσ => hanswers.mem_range hσ, ?_⟩, hdice, ?_, ?_⟩
  · rw [hlength, Roll.rawRolls, length_allFaces fun d hd => (hchain d hd).length_pos, hdice]
    rfl
  · rw [hlength, ← hdice]
    exact length_allFaces_le fun d hd => (hchain d hd).length_le
  · rw [hshown]
    exact map_ofNat_map_faceOf
  · intro hexploding d hd
    have hlimit : p.explosionLimit = 0 := by
      rw [isExploding, Option.isSome_eq_false_iff, Option.isNone_iff_eq_none] at hexploding
      rw [explosionLimit, hexploding]
    have hlong := (hchain d hd).length_le
    rw [hlimit] at hlong
    exact Nat.le_antisymm hlong (hchain d hd).length_pos
  · intro hexploding d hd
    obtain ⟨cap, hcap⟩ := Option.isSome_iff_exists.mp hexploding
    have hlimit : p.explosionLimit = p.cap.toNat := by
      rw [explosionLimit, Pool.cap, hcap]
      rfl
    have hd := hchain d hd
    rw [hlimit] at hd
    exact ⟨⟨hd.length_pos, hd.length_le⟩, hd.eq_of_mem_dropLast, hd.length_eq_of_getLast?⟩

/-- A die whose cap is used up shows the highest face last. -/
theorem Pool.roll_shape_at_cap :
    let p : Pool := ⟨2, .d6, 0, some 1, by decide⟩
    let s : Scripted := ⟨[6, 6, 2, 5], []⟩
    let r := (p.roll {} s).1
    Source.KeepsRange Scripted ∧ r.dice = [⟨[6, 6]⟩, ⟨[2]⟩] ∧
      (p.roll {} (Transcript.begin s)).2.exchanges =
        (r.rawRolls.map Int.ofNat).map (.integer 1 6) ∧
      (∀ face ∈ r.rawRolls, 1 ≤ face ∧ face ≤ 6) ∧
      ∀ d ∈ r.dice, d.faces.getLast? = some 6 → d.faces.length = 2 := by
  intro p s r
  obtain ⟨-, ⟨answers, hexchanges, -, -, -, hrange, hfaces⟩, -, -, hdice⟩ := p.roll_shape {} s
  obtain ⟨hanswers, hmem⟩ := hfaces (hrange Scripted.keepsRange)
  refine ⟨Scripted.keepsRange, by decide, ?_, hmem, fun d hd => (hdice rfl d hd).2.2⟩
  exact hexchanges.trans (congrArg (List.map (Exchange.integer 1 6)) hanswers.symm)

end Tabletop
