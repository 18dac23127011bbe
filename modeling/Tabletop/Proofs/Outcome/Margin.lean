import Tabletop.Check.Outcome

/-!
# What a margin loses

A check squeezes the net successes of a roll into a signed number of 32 bits, takes the difficulty
off, and lets the difference saturate once more. Two saturations in a row are not one: a roll with
more net successes than such a number holds has lost the excess before a positive difficulty is
taken off, so that its margin falls short of the difference. Next to the upper end of the
difficulties this reaches the tiers, and an overwhelming success counts as a narrow one.

Nothing is lost by smaller rolls, and nothing against a difficulty that is not positive.
-/

namespace Tabletop

/-! ### Saturating twice -/

/-- A number that is cut off at the upper end of the range loses nothing when it does not reach so
far, or when the difference is cut off at the same end again. -/
theorem clampInt32_min_sub_eq_iff {n d : Int} (h : d ≤ int32Max) :
    clampInt32 (min n int32Max - d) = clampInt32 (n - d) ↔ n ≤ int32Max ∨ d ≤ 0 := by
  unfold clampInt32 int32Min
  unfold int32Max at h ⊢
  omega

/-- Where the excess is lost, what is left is still as much as a critical success needs. -/
theorem min_sub_eq_or_criticalMargin_le {n d : Int}
    (h : n ≤ int32Max ∨ d ≤ int32Max - criticalMargin) :
    min n int32Max - d = n - d ∨
      criticalMargin ≤ min n int32Max - d ∧ criticalMargin ≤ n - d := by
  omega

/-- A bound within the range is not affected by saturation. -/
theorem criticalMargin_le_clampInt32_iff {m : Int} :
    criticalMargin ≤ clampInt32 m ↔ criticalMargin ≤ m := by
  unfold criticalMargin clampInt32 int32Min int32Max
  omega

theorem OutcomeTier.ofMargin_of_criticalMargin_le {m : Int} (h : criticalMargin ≤ m) :
    ofMargin m = .criticalSuccess := by
  unfold criticalMargin at h
  unfold ofMargin criticalMargin
  rw [if_neg (by omega), if_neg (by omega), if_neg (by omega), if_neg (by omega)]

namespace Outcome

variable {r : Roll} {difficulty : Int}

theorem margin_ofRoll (r : Roll) (difficulty : Int) :
    (ofRoll r difficulty).margin =
      clampInt32 (min (r.netSuccesses : Int) int32Max - difficulty) := rfl

/-- Saturation does not make a check critical, nor does it keep one from being so. -/
theorem isCritical_classify (net : Int) (isFumble isCriticalRoll : Bool) (difficulty : Int) :
    (classify net isFumble isCriticalRoll difficulty).isCritical =
      (!isFumble && (isCriticalRoll || decide (criticalMargin ≤ net - difficulty))) := by
  simp only [classify, criticalMargin_le_clampInt32_iff]

theorem isCritical_ofRoll (h : r.isFumble = false) (difficulty : Int) :
    (ofRoll r difficulty).isCritical =
      (r.isCritical ||
        decide (criticalMargin ≤ min (r.netSuccesses : Int) int32Max - difficulty)) := by
  rw [ofRoll, isCritical_classify, h, Bool.not_false, Bool.true_and]

/-- The tier of a roll is never better than that of the difference. -/
theorem tier_ofRoll_le (h : r.isFumble = false) (difficulty : Int) :
    (ofRoll r difficulty).tier ≤ .ofMargin (r.netSuccesses - difficulty) := by
  rw [ofRoll_tier difficulty h]
  apply OutcomeTier.ofMargin_mono
  omega

/-- When the margin of a check is the difference of net successes and difficulty, up to saturation:
just when the net successes fit into a signed number of 32 bits or the difficulty is not positive.
The tier and the critical success of a roll that is no fumble are those of the difference for all
difficulties but the last few before the end of the range, and the tier is never better. -/
theorem ofRoll_exact (r : Roll) (hdifficulty : difficulty ≤ int32Max) :
    ((ofRoll r difficulty).margin = clampInt32 (r.netSuccesses - difficulty) ↔
      (r.netSuccesses : Int) ≤ int32Max ∨ difficulty ≤ 0) ∧
    (r.isFumble = false →
      (r.netSuccesses : Int) ≤ int32Max ∨ difficulty ≤ int32Max - criticalMargin →
        (ofRoll r difficulty).tier = .ofMargin (r.netSuccesses - difficulty) ∧
        (ofRoll r difficulty).isCritical =
          (r.isCritical || decide (criticalMargin ≤ r.netSuccesses - difficulty))) ∧
    (r.isFumble = false →
      (ofRoll r difficulty).tier ≤ .ofMargin (r.netSuccesses - difficulty)) := by
  refine ⟨?_, ?_, fun h => tier_ofRoll_le h difficulty⟩
  · rw [margin_ofRoll]
    exact clampInt32_min_sub_eq_iff hdifficulty
  · intro hfumble hrange
    rw [ofRoll_tier difficulty hfumble, isCritical_ofRoll hfumble]
    rcases min_sub_eq_or_criticalMargin_le hrange with heq | ⟨hsqueezed, hdifference⟩
    · rw [heq]
      exact ⟨rfl, rfl⟩
    · -- Both differences are critical, however much the first has lost.
      rw [OutcomeTier.ofMargin_of_criticalMargin_le hsqueezed,
        OutcomeTier.ofMargin_of_criticalMargin_le hdifference, decide_eq_true hsqueezed,
        decide_eq_true hdifference]
      exact ⟨rfl, rfl⟩

/-- Five net successes above the greatest difficulty are a marginal success without any margin. -/
theorem ofRoll_not_exact :
    let p : Pool := ⟨3, .d10, 0, none, by decide⟩
    let r : Roll := { Roll.ofDice p [⟨[9]⟩, ⟨[8]⟩, ⟨[2]⟩] {} with netSuccesses := 2147483652 }
    let o := ofRoll r 2147483647
    r.isFumble = false ∧ (r.netSuccesses : Int) - 2147483647 = 5 ∧
      o.margin = 0 ∧ clampInt32 (r.netSuccesses - 2147483647) = 5 ∧
      o.tier = .marginalSuccess ∧
      OutcomeTier.ofMargin (r.netSuccesses - 2147483647) = .criticalSuccess ∧
      o.isCritical = false := by
  decide

/-- The same roll against a difficulty of one loses one of its margin, but not its tier. -/
theorem ofRoll_exact_against_one :
    let p : Pool := ⟨3, .d10, 0, none, by decide⟩
    let r : Roll := { Roll.ofDice p [⟨[9]⟩, ⟨[8]⟩, ⟨[2]⟩] {} with netSuccesses := 2147483652 }
    (1 : Int) ≤ int32Max ∧ (ofRoll r 1).margin ≠ clampInt32 (r.netSuccesses - 1) ∧
      (ofRoll r 1).tier = .ofMargin (r.netSuccesses - 1) := by
  intro p r
  have hone : (1 : Int) ≤ int32Max := by decide
  obtain ⟨hmargin, htier, -⟩ := ofRoll_exact r hone
  refine ⟨hone, mt hmargin.mp (by decide), (htier rfl (.inr (by decide))).1⟩

end Outcome

end Tabletop
