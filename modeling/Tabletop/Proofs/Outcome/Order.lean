import Tabletop.Proofs.ExtendedCheck.Dominance
import Tabletop.Proofs.Outcome.Margin

/-!
# The order of outcomes

Each tier but the lowest stands for a band of margins. The two outer bands have no end, and the
bands between them lie close to zero. So a margin that saturates stays in its band, and a check is
classified as if the difference of net successes and difficulty were kept in full. The lowest tier
has no band: only fumbles reach it.

The bands lie in the order of the tiers. More net successes, a lower difficulty and a fumble taken
away all push an outcome upwards, each by itself and all at once.
-/

namespace Tabletop

namespace OutcomeTier

variable {t t' : OutcomeTier} {margin : Int}

/-! ### Bands of margins -/

/-- The margins that the tier stands for. -/
def Covers : OutcomeTier → Int → Prop
  | criticalFailure, _ => False
  | failure, margin => margin < 0
  | marginalSuccess, margin => margin = 0
  | fullSuccess, margin => 1 ≤ margin ∧ margin ≤ 2
  | exceptionalSuccess, margin => 3 ≤ margin ∧ margin ≤ 4
  | criticalSuccess, margin => 5 ≤ margin

theorem covers_ofMargin (margin : Int) : (ofMargin margin).Covers margin := by
  unfold ofMargin criticalMargin
  split_ifs <;> simp only [Covers] <;> omega

theorem Covers.ofMargin_eq (h : t.Covers margin) : ofMargin margin = t := by
  cases t with
  | criticalFailure => exact h.elim
  | failure => exact if_pos h
  | marginalSuccess =>
    obtain rfl : margin = 0 := h
    rfl
  | fullSuccess =>
    obtain ⟨hlo, hhi⟩ := h
    rw [ofMargin, if_neg (by omega), if_neg (by omega), if_pos hhi]
  | exceptionalSuccess =>
    obtain ⟨hlo, hhi⟩ := h
    have hbelow : margin < criticalMargin := Int.lt_add_one_of_le hhi
    rw [ofMargin, if_neg (by omega), if_neg (by omega), if_neg (by omega), if_pos hbelow]
  | criticalSuccess => exact ofMargin_of_criticalMargin_le h

/-- A margin is classified by the band in which it lies. -/
theorem ofMargin_eq_iff : ofMargin margin = t ↔ t.Covers margin :=
  ⟨fun h => h ▸ covers_ofMargin margin, Covers.ofMargin_eq⟩

theorem not_lt_of_le (h : t ≤ t') : ¬t' < t := Nat.not_lt.mpr h

/-- Every margin is classified above a fumble. -/
theorem criticalFailure_lt_ofMargin (margin : Int) : criticalFailure < ofMargin margin := by
  unfold ofMargin
  split_ifs <;> decide

end OutcomeTier

/-! ### Outcomes in order -/

namespace Outcome

section Classify

variable {net net' difficulty difficulty' : Int} {isFumble isFumble' : Bool}

theorem tier_classify_le (hnet : net ≤ net') (hdifficulty : difficulty' ≤ difficulty)
    (hfumble : isFumble' = true → isFumble = true) (isCriticalRoll isCriticalRoll' : Bool) :
    (classify net isFumble isCriticalRoll difficulty).tier ≤
      (classify net' isFumble' isCriticalRoll' difficulty').tier := by
  cases isFumble with
  | true =>
    rw [classify_tier_of_fumble]
    exact OutcomeTier.criticalFailure_le _
  | false =>
    -- The second check is a fumble only together with the first, so that both tiers have bands.
    obtain rfl : isFumble' = false := Bool.eq_false_iff.mpr (mt hfumble Bool.false_ne_true)
    rw [classify_tier, classify_tier]
    apply OutcomeTier.ofMargin_mono
    omega

theorem margin_classify_le (hnet : net ≤ net') (hdifficulty : difficulty' ≤ difficulty)
    (isFumble isFumble' isCriticalRoll isCriticalRoll' : Bool) :
    (classify net isFumble isCriticalRoll difficulty).margin ≤
      (classify net' isFumble' isCriticalRoll' difficulty').margin :=
  clampInt32_mono (Int.sub_le_sub hnet hdifficulty)

end Classify

end Outcome

namespace Roll

variable {x y : Roll}

/-- A roll that beats another one by its net successes is no fumble, if fumbles have none. -/
theorem NoBetter.of_lt (hy : y.isFumble = true → y.netSuccesses = 0)
    (h : x.netSuccesses < y.netSuccesses) : x.NoBetter y where
  netSuccesses_le := Nat.le_of_lt h
  isFumble hfumble := absurd (hy hfumble) (Nat.ne_zero_of_lt h)

theorem NoBetter.isFumble_eq_false (h : x.NoBetter y) (hx : x.isFumble = false) :
    y.isFumble = false :=
  Bool.eq_false_iff.mpr (mt h.isFumble (Bool.eq_false_iff.mp hx))

theorem NoBetter.squeezed_le (h : x.NoBetter y) :
    min (x.netSuccesses : Int) int32Max ≤ min (y.netSuccesses : Int) int32Max := by
  have hnet := h.netSuccesses_le
  omega

theorem NoBetter.tier_le (h : x.NoBetter y) (difficulty : Int) :
    (Outcome.ofRoll x difficulty).tier ≤ (Outcome.ofRoll y difficulty).tier :=
  Outcome.tier_classify_le h.squeezed_le (Int.le_refl _) h.isFumble _ _

theorem NoBetter.margin_le (h : x.NoBetter y) (difficulty : Int) :
    (Outcome.ofRoll x difficulty).margin ≤ (Outcome.ofRoll y difficulty).margin :=
  Outcome.margin_classify_le h.squeezed_le (Int.le_refl _) _ _ _ _

/-- What makes the outcome of a roll critical also makes that of a better roll so. -/
theorem NoBetter.isCritical_ofRoll (h : x.NoBetter y)
    (hcritical : x.isCritical = true → y.isCritical = true) {difficulty : Int}
    (hx : (Outcome.ofRoll x difficulty).isCritical = true) :
    (Outcome.ofRoll y difficulty).isCritical = true := by
  have hle := h.squeezed_le
  rw [Outcome.ofRoll, Outcome.isCritical_classify, Bool.and_eq_true, Bool.or_eq_true,
    Bool.not_eq_true', decide_eq_true_iff] at hx ⊢
  exact ⟨h.isFumble_eq_false hx.1, hx.2.imp hcritical fun hmargin => by omega⟩

end Roll

namespace Outcome

/-- With no fewer net successes a roll ends worse than another one only as a fumble against a roll
that is none, and then it does so at every difficulty. -/
theorem tier_ofRoll_lt_iff {x y : Roll} (h : y.netSuccesses ≤ x.netSuccesses) (difficulty : Int) :
    (ofRoll x difficulty).tier < (ofRoll y difficulty).tier ↔
      x.isFumble = true ∧ y.isFumble = false := by
  constructor
  · intro hlt
    by_contra hnot
    -- Unless `x` is a fumble and `y` is none, `y` is no better, and outcomes keep the order.
    have hbetter : y.NoBetter x := ⟨h, fun hx => by simpa [hx] using hnot⟩
    exact OutcomeTier.not_lt_of_le (hbetter.tier_le difficulty) hlt
  · rintro ⟨hx, hy⟩
    rw [ofRoll_tier_of_fumble difficulty hx, ofRoll_tier difficulty hy]
    exact OutcomeTier.criticalFailure_lt_ofMargin _

/-- Classification sees through saturation, and it keeps the order. A fumble is a critical failure
and never critical. Otherwise the tier is the one whose band holds the difference of net successes
and difficulty, and the outcome is critical when the roll is or when that difference is large
enough, however far it lies outside the range of margins. No outcome is lowered, in tier or margin,
when the net successes grow, the difficulty falls and a fumble may be taken away, all at once. -/
theorem classify_exact_and_monotone :
    (∀ (net difficulty : Int) (isFumble isCriticalRoll : Bool),
      let o := classify net isFumble isCriticalRoll difficulty
      (isFumble = true → o.tier = .criticalFailure ∧ o.isCritical = false) ∧
      (isFumble = false →
        o.tier = .ofMargin (net - difficulty) ∧
        (∀ t, o.tier = t ↔ t.Covers (net - difficulty)) ∧
        (o.isCritical = true ↔ isCriticalRoll = true ∨ criticalMargin ≤ net - difficulty))) ∧
    (∀ (net net' difficulty difficulty' : Int) (isFumble isFumble' : Bool)
        (isCriticalRoll isCriticalRoll' : Bool),
      net ≤ net' → difficulty' ≤ difficulty → (isFumble' = true → isFumble = true) →
      let o := classify net isFumble isCriticalRoll difficulty
      let o' := classify net' isFumble' isCriticalRoll' difficulty'
      o.tier ≤ o'.tier ∧ o.margin ≤ o'.margin) := by
  refine ⟨fun net difficulty isFumble isCriticalRoll => ⟨?_, ?_⟩, ?_⟩
  · rintro rfl
    exact ⟨rfl, rfl⟩
  · rintro rfl
    refine ⟨classify_tier _ _ _, fun t => ?_, ?_⟩
    · rw [classify_tier]
      exact OutcomeTier.ofMargin_eq_iff
    · rw [isCritical_classify, Bool.not_false, Bool.true_and, Bool.or_eq_true, decide_eq_true_iff]
  · intro net net' difficulty difficulty' _ _ _ _ hnet hdifficulty hfumble
    exact ⟨tier_classify_le hnet hdifficulty hfumble _ _,
      margin_classify_le hnet hdifficulty _ _ _ _⟩

/-- From one end of the range to the other: the difference saturates on both sides, once as a
fumble, which a lower difficulty and more net successes leave behind. -/
theorem classify_exact_and_monotone_across_range :
    (classify 2147483647 false false (-2147483648)).margin = 2147483647 ∧
      (classify 2147483647 false false (-2147483648)).tier = .ofMargin 4294967295 ∧
      (classify 2147483647 false false (-2147483648)).isCritical = true ∧
      (classify (-2147483648) true true 2147483647).tier ≤
        (classify 2147483647 false false (-2147483648)).tier ∧
      (classify (-2147483648) true true 2147483647).margin ≤
        (classify 2147483647 false false (-2147483648)).margin := by
  obtain ⟨hexact, hmono⟩ := classify_exact_and_monotone
  obtain ⟨htier, -, hcritical⟩ := (hexact 2147483647 (-2147483648) false false).2 rfl
  exact ⟨by decide, htier, hcritical.mpr (.inr (by decide)),
    hmono (-2147483648) 2147483647 2147483647 (-2147483648) true false true false
      (by decide) (by decide) (by decide)⟩

end Outcome

end Tabletop
