import Tabletop.Check.Contest

/-!
# The ranking behind a contest

Six endings of a contest come from two fumble flags and a difference, but a single number of either
side decides who has won: the net successes, or minus one for a fumble. So contests rank any rolls
whatever, also ones whose flag and count do not go together, such as a fumble with net successes.

The margin does not rank them. It ignores the flags, so that the winner may be the side with fewer
net successes; only where dice were scored does a fumble go with no net successes, and the winner
has at least as many as the other side.
-/

namespace Tabletop

/-- What a roll counts for in a contest: its net successes, and less than any for a fumble. -/
def Roll.standing (r : Roll) : Int := if r.isFumble then -1 else r.netSuccesses

namespace ContestOutcome

/-- The ending as the other side sees it. -/
def swap : ContestOutcome → ContestOutcome
  | initiatorWins => defenderWins
  | defenderWins => initiatorWins
  | tie => tie
  | initiatorFumble => defenderFumble
  | defenderFumble => initiatorFumble
  | bothFumble => bothFumble

@[simp] theorem initiatorWon_swap (o : ContestOutcome) : o.swap.initiatorWon = o.defenderWon := by
  cases o <;> rfl

end ContestOutcome

namespace Contest

variable {a b c : Roll}

/-- A roll beats another when it wins against it as the initiator. -/
def Beats (a b : Roll) : Prop := (resolve a b).outcome.initiatorWon = true

/-! ### The endings -/

theorem outcome_resolve_of_isFumble (ha : a.isFumble = true) :
    (resolve a b).outcome = if b.isFumble then .bothFumble else .initiatorFumble := by
  unfold resolve
  rw [ha]
  cases b.isFumble <;> rfl

theorem outcome_resolve_of_isFumble_right (ha : a.isFumble = false) (hb : b.isFumble = true) :
    (resolve a b).outcome = .defenderFumble := by
  unfold resolve
  rw [ha, hb]

section NoFumble

variable (ha : a.isFumble = false) (hb : b.isFumble = false)

include ha hb

theorem outcome_resolve_of_gt (h : b.netSuccesses < a.netSuccesses) :
    (resolve a b).outcome = .initiatorWins := by
  unfold resolve
  rw [ha, hb]
  exact if_pos (by omega)

theorem outcome_resolve_of_lt (h : a.netSuccesses < b.netSuccesses) :
    (resolve a b).outcome = .defenderWins := by
  unfold resolve
  rw [ha, hb]
  exact (if_neg (by omega)).trans (if_pos (by omega))

theorem outcome_resolve_of_eq (h : a.netSuccesses = b.netSuccesses) :
    (resolve a b).outcome = .tie := by
  unfold resolve
  rw [ha, hb]
  exact (if_neg (by omega)).trans (if_neg (by omega))

end NoFumble

/-- Exchanging the sides exchanges the endings. -/
theorem outcome_resolve_swap (a b : Roll) :
    (resolve b a).outcome = (resolve a b).outcome.swap := by
  cases ha : a.isFumble with
  | true =>
    rw [outcome_resolve_of_isFumble ha]
    cases hb : b.isFumble with
    | true => rw [outcome_resolve_of_isFumble hb, ha]; rfl
    | false => rw [outcome_resolve_of_isFumble_right hb ha]; rfl
  | false =>
    cases hb : b.isFumble with
    | true => rw [outcome_resolve_of_isFumble hb, outcome_resolve_of_isFumble_right ha hb, ha]; rfl
    | false =>
      rcases Nat.lt_trichotomy a.netSuccesses b.netSuccesses with h | h | h
      · rw [outcome_resolve_of_lt ha hb h, outcome_resolve_of_gt hb ha h]; rfl
      · rw [outcome_resolve_of_eq ha hb h, outcome_resolve_of_eq hb ha h.symm]; rfl
      · rw [outcome_resolve_of_gt ha hb h, outcome_resolve_of_lt hb ha h]; rfl

/-! ### Who has won -/

theorem standing_of_isFumble (h : a.isFumble = true) : a.standing = -1 := if_pos h

theorem standing_of_not_isFumble (h : a.isFumble = false) : a.standing = a.netSuccesses :=
  if_neg (by simp [h])

theorem neg_one_le_standing (a : Roll) : -1 ≤ a.standing := by
  unfold Roll.standing
  split <;> omega

/-- The initiator wins by a higher standing. -/
theorem initiatorWon_resolve_iff :
    (resolve a b).outcome.initiatorWon = true ↔ b.standing < a.standing := by
  cases ha : a.isFumble with
  | true =>
    have hle := neg_one_le_standing b
    rw [outcome_resolve_of_isFumble ha, standing_of_isFumble ha]
    cases b.isFumble <;> simp [ContestOutcome.initiatorWon, hle]
  | false =>
    rw [standing_of_not_isFumble ha]
    cases hb : b.isFumble with
    | true =>
      rw [outcome_resolve_of_isFumble_right ha hb, standing_of_isFumble hb]
      exact iff_of_true rfl (by omega)
    | false =>
      rw [standing_of_not_isFumble hb]
      rcases Nat.lt_trichotomy a.netSuccesses b.netSuccesses with h | h | h
      · rw [outcome_resolve_of_lt ha hb h]
        exact iff_of_false (by decide) (by omega)
      · rw [outcome_resolve_of_eq ha hb h]
        exact iff_of_false (by decide) (by omega)
      · rw [outcome_resolve_of_gt ha hb h]
        exact iff_of_true rfl (by omega)

/-- The defender wins by a higher standing, as the initiator does. -/
theorem defenderWon_resolve_iff :
    (resolve a b).outcome.defenderWon = true ↔ a.standing < b.standing := by
  rw [← ContestOutcome.initiatorWon_swap, ← outcome_resolve_swap, initiatorWon_resolve_iff]

/-- Nobody has won just when the standings are level. -/
theorem neither_won_resolve_iff :
    (resolve a b).outcome.initiatorWon = false ∧ (resolve a b).outcome.defenderWon = false ↔
      a.standing = b.standing := by
  rw [← Bool.not_eq_true, ← Bool.not_eq_true, initiatorWon_resolve_iff, defenderWon_resolve_iff]
  omega

theorem beats_iff : Beats a b ↔ b.standing < a.standing := initiatorWon_resolve_iff

/-- A scored fumble has no net successes, so that no roll has fewer than one of lower standing. -/
theorem netSuccesses_le_of_beats {pool pool' : Pool} {dice dice' : List DieRoll}
    {conv conv' : Convention}
    (h : Beats (Roll.ofDice pool dice conv) (Roll.ofDice pool' dice' conv')) :
    (Roll.ofDice pool' dice' conv').netSuccesses ≤ (Roll.ofDice pool dice conv).netSuccesses := by
  rw [beats_iff] at h
  cases hfumble : (Roll.ofDice pool' dice' conv').isFumble with
  | true =>
    rw [Roll.netSuccesses_eq_zero_of_isFumble _ _ _ hfumble]
    exact Nat.zero_le _
  | false =>
    rw [standing_of_not_isFumble hfumble] at h
    cases hwinner : (Roll.ofDice pool dice conv).isFumble with
    | true =>
      rw [standing_of_isFumble hwinner] at h
      omega
    | false =>
      rw [standing_of_not_isFumble hwinner] at h
      omega

/-- Contests rank rolls. Whatever the rolls, the side of higher standing wins, and nobody does when
the standings are level; exchanging the sides negates the margin and exchanges the endings. So no
roll beats one that beats it, and a roll beats what is beaten by a roll that it beats. If the dice
of both sides were scored, under whatever conventions, the winner has no fewer net successes than
the loser. -/
theorem resolve_ranks :
    (∀ a b : Roll,
      ((resolve a b).outcome.initiatorWon = true ↔ b.standing < a.standing) ∧
      ((resolve a b).outcome.defenderWon = true ↔ a.standing < b.standing) ∧
      ((resolve a b).outcome.initiatorWon = false ∧ (resolve a b).outcome.defenderWon = false ↔
        a.standing = b.standing)) ∧
    (∀ a b : Roll, (resolve b a).margin = -(resolve a b).margin ∧
      (resolve b a).outcome = (resolve a b).outcome.swap) ∧
    (∀ a b : Roll, Beats a b → ¬Beats b a) ∧
    (∀ a b c : Roll, Beats a b → Beats b c → Beats a c) ∧
    (∀ (pool pool' : Pool) (dice dice' : List DieRoll) (conv conv' : Convention),
      let a := Roll.ofDice pool dice conv
      let b := Roll.ofDice pool' dice' conv'
      ((resolve a b).outcome.initiatorWon = true → b.netSuccesses ≤ a.netSuccesses) ∧
      ((resolve a b).outcome.defenderWon = true → a.netSuccesses ≤ b.netSuccesses)) := by
  refine ⟨fun a b => ⟨initiatorWon_resolve_iff, defenderWon_resolve_iff, neither_won_resolve_iff⟩,
    fun a b => ⟨resolve_swap_margin a b, outcome_resolve_swap a b⟩, fun a b hab hba => ?_,
    fun a b c hab hbc => ?_, ?_⟩
  · rw [beats_iff] at hab hba
    exact absurd hab (Int.not_lt.mpr (Int.le_of_lt hba))
  · rw [beats_iff] at hab hbc ⊢
    exact Int.lt_trans hbc hab
  · intro pool pool' dice dice' conv conv' a b
    refine ⟨netSuccesses_le_of_beats, fun hwon => netSuccesses_le_of_beats ?_⟩
    -- The defender beats the initiator where the sides are exchanged.
    rw [beats_iff]
    exact defenderWon_resolve_iff.mp hwon

/-- A fumble loses to a roll with fewer net successes, if its flag says so. -/
example : let pool : Pool := ⟨1, .d10, 0, none, by decide⟩
    (resolve ⟨pool, [], 3, 1, 2, true, false⟩ ⟨pool, [], 0, 0, 0, false, false⟩).outcome =
      .initiatorFumble := rfl

end Contest

end Tabletop
