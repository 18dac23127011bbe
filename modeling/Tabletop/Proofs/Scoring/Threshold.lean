import Tabletop.Proofs.Outcome.Order
import Tabletop.Proofs.Scoring.Faces

/-!
# Lowering the threshold

A lower success threshold turns some faces into successes that were none before. If the botch face
is among them, its botches are gone as well. So the same dice have no fewer successes and no more
botches, and what is derived from the two goes the same way: more net successes, no new fumble, no
critical roll lost, and an outcome that is no lower against any difficulty.

All of this is a matter of counts, and holds as long as these fit into their words: the success that
is one too many for its counter takes all the others away.
-/

namespace Tabletop.Roll

section Threshold

variable (pool : Pool) {dice : List DieRoll} (hfaces : (allFaces dice).length ≤ uint32Max)
  {low high : Nat} (h : low ≤ high) (botchFace criticalThreshold : Nat)

include hfaces h

theorem successes_le_of_threshold_le :
    (ofDice pool dice ⟨high, botchFace, criticalThreshold⟩).successes ≤
      (ofDice pool dice ⟨low, botchFace, criticalThreshold⟩).successes := by
  rw [successes_ofDice hfaces, successes_ofDice hfaces]
  apply List.countP_mono_left
  intro face _ hface
  rw [decide_eq_true_iff] at hface ⊢
  exact h.trans hface

/-- A face that is still a botch was one before. -/
theorem botches_le_of_threshold_le :
    (ofDice pool dice ⟨low, botchFace, criticalThreshold⟩).botches ≤
      (ofDice pool dice ⟨high, botchFace, criticalThreshold⟩).botches := by
  rw [botches_ofDice hfaces, botches_ofDice hfaces]
  apply List.countP_mono_left
  intro face _ hface
  rw [decide_eq_true_iff] at hface ⊢
  exact ⟨hface.1, hface.2.trans_le h⟩

theorem netSuccesses_le_of_threshold_le :
    (ofDice pool dice ⟨high, botchFace, criticalThreshold⟩).netSuccesses ≤
      (ofDice pool dice ⟨low, botchFace, criticalThreshold⟩).netSuccesses := by
  have hsuccesses := successes_le_of_threshold_le pool hfaces h botchFace criticalThreshold
  have hbotches := botches_le_of_threshold_le pool hfaces h botchFace criticalThreshold
  rw [ofDice_netSuccesses, ofDice_netSuccesses]
  omega

/-- Under the higher threshold a roll is no better. -/
theorem noBetter_of_threshold_le :
    (ofDice pool dice ⟨high, botchFace, criticalThreshold⟩).NoBetter
      (ofDice pool dice ⟨low, botchFace, criticalThreshold⟩) where
  netSuccesses_le := netSuccesses_le_of_threshold_le pool hfaces h _ _
  isFumble hfumble := by
    have hnet := netSuccesses_le_of_threshold_le pool hfaces h botchFace criticalThreshold
    have hbotches := botches_le_of_threshold_le pool hfaces h botchFace criticalThreshold
    -- Neither of the two conditions for a fumble is lost when the threshold is raised.
    rw [isFumble_ofDice_iff] at hfumble ⊢
    exact ⟨Nat.le_zero.mp (hnet.trans_eq hfumble.1), hfumble.2.trans_le hbotches⟩

/-- A critical roll is no fumble, and a lower threshold makes none of it. -/
theorem isCritical_of_threshold_le
    (hcritical : (ofDice pool dice ⟨high, botchFace, criticalThreshold⟩).isCritical = true) :
    (ofDice pool dice ⟨low, botchFace, criticalThreshold⟩).isCritical = true := by
  have hworse := noBetter_of_threshold_le pool hfaces h botchFace criticalThreshold
  rw [isCritical_ofDice_iff] at hcritical ⊢
  exact ⟨hworse.isFumble_eq_false hcritical.1, hcritical.2.trans hworse.netSuccesses_le⟩

end Threshold

/-- No roll is worse under a lower success threshold, if a word can count its faces. The same dice
have no fewer successes and net successes and no more botches; they are a fumble only if they
are one under the higher threshold, and critical if they are critical under it. So no difficulty
gives them a lower tier or margin, or takes a critical success away. -/
theorem no_worse_under_lower_threshold (pool : Pool) {dice : List DieRoll}
    (hfaces : (allFaces dice).length ≤ uint32Max) {low high : Nat} (h : low ≤ high)
    (botchFace criticalThreshold : Nat) :
    let easy := ofDice pool dice ⟨low, botchFace, criticalThreshold⟩
    let hard := ofDice pool dice ⟨high, botchFace, criticalThreshold⟩
    (hard.successes ≤ easy.successes ∧ hard.netSuccesses ≤ easy.netSuccesses ∧
      easy.botches ≤ hard.botches) ∧
    (easy.isFumble = true → hard.isFumble = true) ∧
    (hard.isCritical = true → easy.isCritical = true) ∧
    ∀ difficulty,
      let lower := Outcome.ofRoll hard difficulty
      let higher := Outcome.ofRoll easy difficulty
      lower.tier ≤ higher.tier ∧ lower.margin ≤ higher.margin ∧
        (lower.isCritical = true → higher.isCritical = true) := by
  intro easy hard
  have hworse : hard.NoBetter easy := noBetter_of_threshold_le pool hfaces h _ _
  have hcritical : hard.isCritical = true → easy.isCritical = true :=
    isCritical_of_threshold_le pool hfaces h _ _
  refine ⟨⟨successes_le_of_threshold_le pool hfaces h _ _, hworse.netSuccesses_le,
    botches_le_of_threshold_le pool hfaces h _ _⟩, hworse.isFumble, hcritical, fun difficulty => ?_⟩
  exact ⟨hworse.tier_le difficulty, hworse.margin_le difficulty,
    hworse.isCritical_ofRoll hcritical⟩

/-- The threshold falls below the botch face: two botches and a face between them all become
successes, and a fumble becomes a critical success. -/
theorem no_worse_under_lower_threshold_across_botch :
    let p : Pool := ⟨3, .d10, 0, none, by decide⟩
    let hard := ofDice p [⟨[4]⟩, ⟨[5]⟩, ⟨[4]⟩] ⟨8, 4, 3⟩
    let easy := ofDice p [⟨[4]⟩, ⟨[5]⟩, ⟨[4]⟩] ⟨4, 4, 3⟩
    (allFaces [⟨[4]⟩, ⟨[5]⟩, ⟨[4]⟩]).length ≤ uint32Max ∧ 4 ≤ 8 ∧
      (hard.isFumble = true ∧ hard.botches = 2 ∧ hard.successes = 0) ∧
      (easy.isCritical = true ∧ easy.botches = 0 ∧ easy.successes = 3) ∧
      hard.netSuccesses ≤ easy.netSuccesses ∧
      (Outcome.ofRoll hard 1).tier ≤ (Outcome.ofRoll easy 1).tier := by
  intro p hard easy
  have hfaces : (allFaces [⟨[4]⟩, ⟨[5]⟩, ⟨[4]⟩]).length ≤ uint32Max := by decide
  have hlower : 4 ≤ 8 := by decide
  obtain ⟨⟨-, hnet, -⟩, -, -, houtcome⟩ := no_worse_under_lower_threshold p hfaces hlower 4 3
  exact ⟨hfaces, hlower, by decide, by decide, hnet, (houtcome 1).1⟩

theorem allFaces_replicate_singleton (n face : Nat) :
    allFaces (List.replicate n ⟨[face]⟩) = List.replicate n face := by
  induction n with
  | zero => rfl
  | succ n ih => exact congrArg (face :: ·) ih

/-- As many dice as a pool can hold, one of which explodes, show one face more than a word can
count. All of them are successes under the lower threshold, and only the ten is under the higher. -/
theorem worse_under_lower_threshold :
    let pool : Pool := ⟨4294967295, .d10, 0, some 1, by decide⟩
    let dice : List DieRoll := ⟨[10, 1]⟩ :: List.replicate 4294967294 ⟨[1]⟩
    1 ≤ 2 ∧ (ofDice pool dice ⟨1, 1, 5⟩).successes = 0 ∧
      (ofDice pool dice ⟨2, 1, 5⟩).successes = 1 := by
  intro pool dice
  have hfaces : allFaces dice = 10 :: 1 :: List.replicate 4294967294 1 :=
    congrArg ([10, 1] ++ ·) (allFaces_replicate_singleton 4294967294 1)
  have hcount (p : Nat → Bool) : (allFaces dice).countP p =
      (if p 1 then 4294967294 else 0) + (if p 1 then 1 else 0) + (if p 10 then 1 else 0) := by
    rw [hfaces, List.countP_cons, List.countP_cons, List.countP_replicate]
  refine ⟨by decide, ?_, ?_⟩ <;> rw [ofDice_successes, tally_eq, hcount] <;> decide

end Tabletop.Roll
