import Mathlib.Data.List.Forall2
import Mathlib.Order.Nat
import Tabletop.Check.Extended
import Tabletop.Refusal

/-!
# Easier checks succeed no later

Two checks run side by side, and in each round the second one gets a roll that is no worse, with no
more to reach and no fewer rounds. As long as both go on, the first one trails: it has no more
progress and no shorter row of fumbles behind it. So the round in which it reaches its target finds
the other one at its own target, if that has not succeeded before. Neither the limit of rounds nor
the row of fumbles ends the second check first, since each of them would have ended the first one
by then.
-/

namespace Tabletop

/-- The first roll has no more net successes than the second, which is a fumble only if the first
is. -/
structure Roll.NoBetter (x y : Roll) : Prop where
  netSuccesses_le : x.netSuccesses ≤ y.netSuccesses
  isFumble : y.isFumble = true → x.isFumble = true

namespace ExtendedCheck

variable {c c' d : ExtendedCheck} {x y : Roll} {xs ys : List Roll}

/-! ### Rolls in turn -/

/-- Applies rolls in turn, one a round. The answer is a refusal when the check ends before the last
of them. -/
def processRounds (c : ExtendedCheck) (rolls : List Roll) :
    Except ExtendedCheckError ExtendedCheck :=
  rolls.foldlM processRound c

/-- The check succeeds in the round with the given number, counted from one. -/
def SucceedsAt (c : ExtendedCheck) (rolls : List Roll) (k : Nat) : Prop :=
  k ≤ rolls.length ∧ ∃ d, c.processRounds (rolls.take k) = .ok d ∧ d.status = .succeeded

@[simp] theorem processRounds_nil (c : ExtendedCheck) : c.processRounds [] = .ok c := rfl

theorem processRounds_cons_eq_ok_iff :
    c.processRounds (x :: xs) = .ok c' ↔
      c.status = .inProgress ∧ (c.addRound x).processRounds xs = .ok c' := by
  rw [processRounds, List.foldlM_cons, bind_eq_ok_iff]
  constructor
  · rintro ⟨next, hnext, hrest⟩
    obtain ⟨hactive, rfl⟩ := processRound_eq_ok_iff.mp hnext
    exact ⟨hactive, hrest⟩
  · rintro ⟨hactive, hrest⟩
    exact ⟨_, processRound_eq_ok_iff.mpr ⟨hactive, rfl⟩, hrest⟩

/-- A check that has ended takes no further roll. -/
theorem eq_of_processRounds_of_ended (hended : c.status ≠ .inProgress)
    (h : c.processRounds xs = .ok c') : c' = c := by
  cases xs with
  | nil => exact (Except.ok.inj h).symm
  | cons x xs => exact absurd (processRounds_cons_eq_ok_iff.mp h).1 hended

/-! ### One check behind another -/

/-- Both checks have had equally many rounds, and the first is no further in any respect. -/
structure Trails (c d : ExtendedCheck) : Prop where
  target_le : d.target ≤ c.target
  maxRounds_le : c.maxRounds ≤ d.maxRounds
  length_eq : c.rounds.length = d.rounds.length
  accumulated_le : c.accumulated ≤ d.accumulated
  consecutiveFumbles_le : d.consecutiveFumbles ≤ c.consecutiveFumbles
  /-- Without a bound, saturation could take from the second check what a fumble of the first
  leaves it. -/
  accumulated_le_uint32Max : c.accumulated ≤ uint32Max

theorem progress_le_uint32Max {accumulated : Nat} (h : accumulated ≤ uint32Max) (r : Roll) :
    progress accumulated r ≤ uint32Max := by
  cases hfumble : r.isFumble with
  | true =>
    rw [progress_of_fumble hfumble]
    exact (Nat.sub_le _ _).trans h
  | false =>
    rw [progress_of_not_fumble hfumble]
    exact Nat.min_le_right _ _

/-- A roll that is no better makes no more progress. -/
theorem progress_le_progress {a b : Nat} (hab : a ≤ b) (ha : a ≤ uint32Max)
    (hxy : x.NoBetter y) : progress a x ≤ progress b y := by
  cases hy : y.isFumble with
  | true =>
    rw [progress_of_fumble (hxy.isFumble hy), progress_of_fumble hy]
    exact Nat.sub_le_sub_right hab _
  | false =>
    rw [progress_of_not_fumble hy]
    refine Nat.le_min.mpr ⟨?_, progress_le_uint32Max ha x⟩
    -- The second check gains, whether the first one gains no more or even loses.
    have hnet := hxy.netSuccesses_le
    unfold progress
    split <;> omega

/-- A round keeps the first check behind. Its row of fumbles must not be one that its counter cannot
hold: that would let it catch up. -/
theorem Trails.addRound (h : c.Trails d) (hfew : c.consecutiveFumbles < catastrophicStreak)
    (hxy : x.NoBetter y) : (c.addRound x).Trails (d.addRound y) where
  target_le := h.target_le
  maxRounds_le := h.maxRounds_le
  length_eq := by rw [length_addRound, length_addRound, h.length_eq]
  accumulated_le := progress_le_progress h.accumulated_le h.accumulated_le_uint32Max hxy
  consecutiveFumbles_le := by
    have hle := h.consecutiveFumbles_le
    have hfumble := hxy.isFumble
    have hword : catastrophicStreak < uint32Max := by decide
    have hcount := hfew.trans hword
    rw [consecutiveFumbles_addRound_of_lt hcount,
      consecutiveFumbles_addRound_of_lt (hle.trans_lt hcount)]
    cases hy : y.isFumble with
    | true =>
      rw [if_pos rfl, if_pos (hfumble hy)]
      exact Nat.succ_le_succ hle
    | false => exact Nat.zero_le _
  accumulated_le_uint32Max := progress_le_uint32Max h.accumulated_le_uint32Max x

theorem Trails.roundsCompleted_eq (h : c.Trails d) : c.roundsCompleted = d.roundsCompleted := by
  rw [roundsCompleted, roundsCompleted, h.length_eq]

/-- When the first check reaches its target, so does the second. -/
theorem Trails.succeeded_addRound (h : c.Trails d)
    (hfew : c.consecutiveFumbles < catastrophicStreak) (hxy : x.NoBetter y)
    (hstatus : (c.addRound x).status = .succeeded) : (d.addRound y).status = .succeeded := by
  have hnext := h.addRound hfew hxy
  obtain ⟨hfumbles, htarget⟩ := statusAfter_eq_iff.mp hstatus
  exact statusAfter_eq_iff.mpr ⟨hnext.consecutiveFumbles_le.trans_lt hfumbles,
    hnext.target_le.trans (htarget.trans hnext.accumulated_le)⟩

/-- While the first check goes on, nothing but success ends the second. -/
theorem Trails.inProgress_addRound (h : c.Trails d)
    (hfew : c.consecutiveFumbles < catastrophicStreak) (hxy : x.NoBetter y)
    (hstatus : (c.addRound x).status = .inProgress) :
    (d.addRound y).status = .succeeded ∨ (d.addRound y).status = .inProgress := by
  have hnext := h.addRound hfew hxy
  obtain ⟨hfumbles, -, hround⟩ := statusAfter_eq_iff.mp hstatus
  have hfumbles' := hnext.consecutiveFumbles_le.trans_lt hfumbles
  rcases Nat.lt_or_ge (d.addRound y).accumulated d.target with hshort | hreached
  · -- Both checks have had equally many rounds, so that the second has one left as well.
    rw [h.roundsCompleted_eq] at hround
    exact .inr (statusAfter_eq_iff.mpr ⟨hfumbles', hshort, hround.trans_le h.maxRounds_le⟩)
  · exact .inl (statusAfter_eq_iff.mpr ⟨hfumbles', hreached⟩)

/-- A check that trails another one does not succeed before it. -/
theorem Trails.exists_succeeded (h : c.Trails d)
    (hfew : c.consecutiveFumbles < catastrophicStreak) (hc : c.status = .inProgress)
    (hd : d.status = .inProgress) (hrolls : List.Forall₂ Roll.NoBetter xs ys)
    (hrun : c.processRounds xs = .ok c') (hsucceeded : c'.status = .succeeded) :
    ∃ j ≤ xs.length, d.SucceedsAt ys j := by
  -- The rolls are taken from the front, and the checks after the first round go on from there.
  induction hrolls generalizing c d with
  | nil =>
    obtain rfl := Except.ok.inj hrun
    rw [hc] at hsucceeded
    cases hsucceeded
  | @cons x y xs ys hxy _ ih =>
    have hrest := (processRounds_cons_eq_ok_iff.mp hrun).2
    -- If the second check has succeeded in this round, later rolls do not matter.
    have hfirst (hdone : (d.addRound y).status = .succeeded) :
        ∃ j ≤ (x :: xs).length, d.SucceedsAt (y :: ys) j :=
      ⟨1, Nat.succ_le_succ (Nat.zero_le _), Nat.succ_le_succ (Nat.zero_le _), _,
        processRounds_cons_eq_ok_iff.mpr ⟨hd, rfl⟩, hdone⟩
    by_cases hnext : (c.addRound x).status = .inProgress
    · rcases h.inProgress_addRound hfew hxy hnext with hdone | hactive
      · exact hfirst hdone
      · have hstill := (statusAfter_eq_iff.mp hnext).1
        obtain ⟨j, hj, hlength, d', hd', hdone⟩ :=
          ih (h.addRound hfew hxy) hstill hnext hactive hrest
        exact ⟨j + 1, Nat.succ_le_succ hj, Nat.succ_le_succ hlength, d',
          processRounds_cons_eq_ok_iff.mpr ⟨hd, hd'⟩, hdone⟩
    · obtain rfl := eq_of_processRounds_of_ended hnext hrest
      exact hfirst (h.succeeded_addRound hfew hxy hsucceeded)

/-- An easier check with rolls that are no worse succeeds no later. Whatever the round in which a
new check succeeds, a new check with no higher target and no fewer rounds succeeds in that round or
before, when each of its rolls has no fewer net successes and is a fumble only together with the
other one. -/
theorem exists_succeedsAt_of_easier (id id' : Identifier) (pool pool' : Pool)
    {target target' maxRounds maxRounds' : Nat} (htarget : 1 ≤ target')
    (htarget_le : target' ≤ target) (hrounds : 1 ≤ maxRounds)
    (hrounds_le : maxRounds ≤ maxRounds') (hrolls : List.Forall₂ Roll.NoBetter xs ys) :
    ∃ hard easy, start id pool target maxRounds = .ok hard ∧
      start id' pool' target' maxRounds' = .ok easy ∧
      ∀ k, hard.SucceedsAt xs k → ∃ j ≤ k, easy.SucceedsAt ys j := by
  have hhard : start id pool target maxRounds =
      .ok ⟨id, pool, target, maxRounds, 0, 0, .inProgress, []⟩ :=
    start_eq_ok_iff.mpr ⟨htarget.trans htarget_le, hrounds, rfl⟩
  have heasy : start id' pool' target' maxRounds' =
      .ok ⟨id', pool', target', maxRounds', 0, 0, .inProgress, []⟩ :=
    start_eq_ok_iff.mpr ⟨htarget, hrounds.trans hrounds_le, rfl⟩
  refine ⟨_, _, hhard, heasy, ?_⟩
  rintro k ⟨hk, c', hrun, hsucceeded⟩
  have htrails : Trails ⟨id, pool, target, maxRounds, 0, 0, .inProgress, []⟩
      ⟨id', pool', target', maxRounds', 0, 0, .inProgress, []⟩ :=
    ⟨htarget_le, hrounds_le, rfl, le_rfl, le_rfl, Nat.zero_le _⟩
  obtain ⟨j, hj, hlength, d', hd', hdone⟩ :=
    htrails.exists_succeeded (Nat.succ_pos 2) rfl rfl (List.forall₂_take k hrolls) hrun hsucceeded
  rw [List.length_take, Nat.min_eq_left hk] at hj
  rw [List.take_take, Nat.min_eq_left hj] at hd'
  exact ⟨j, hj, (hj.trans hk).trans_eq hrolls.length_eq, d', hd', hdone⟩

/-- One check needs three rounds, the first of them a fumble; an easier one with a plain failure in
place of the fumble is done by then. -/
theorem exists_succeedsAt_in_three_rounds :
    let pool : Pool := ⟨2, .d10, 0, none, by decide⟩
    let fumble := Roll.ofDice pool [⟨[1]⟩, ⟨[4]⟩] {}
    let failure := Roll.ofDice pool [⟨[3]⟩, ⟨[4]⟩] {}
    let two := Roll.ofDice pool [⟨[9]⟩, ⟨[10]⟩] {}
    let one := Roll.ofDice pool [⟨[8]⟩, ⟨[7]⟩] {}
    ∃ hard easy, start ⟨0⟩ pool 3 3 = .ok hard ∧ start ⟨1⟩ pool 2 5 = .ok easy ∧
      hard.SucceedsAt [fumble, two, one] 3 ∧
      ∃ j ≤ 3, easy.SucceedsAt [failure, two, one] j := by
  intro pool fumble failure two one
  have hrolls : List.Forall₂ Roll.NoBetter [fumble, two, one] [failure, two, one] :=
    .cons ⟨by decide, by decide⟩ (.cons ⟨by decide, by decide⟩ (.cons ⟨by decide, by decide⟩ .nil))
  obtain ⟨hard, easy, hhard, heasy, hsucceeds⟩ :=
    exists_succeedsAt_of_easier ⟨0⟩ ⟨1⟩ pool pool (by decide : 1 ≤ 2) (by decide : 2 ≤ 3)
      (by decide : 1 ≤ 3) (by decide : 3 ≤ 5) hrolls
  obtain ⟨-, -, rfl⟩ := start_eq_ok_iff.mp hhard
  have hthree : SucceedsAt ⟨⟨0⟩, pool, 3, 3, 0, 0, .inProgress, []⟩ [fumble, two, one] 3 :=
    ⟨by decide, _, rfl, by decide⟩
  exact ⟨_, easy, hhard, heasy, hthree, hsucceeds 3 hthree⟩

end ExtendedCheck

end Tabletop
