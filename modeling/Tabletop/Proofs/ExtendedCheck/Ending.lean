import Tabletop.Proofs.ExtendedCheck.Invariant
import Tabletop.Proofs.Saved.Values

/-!
# Every check comes to an end

A new check keeps to an invariant, but a check that was loaded need not: it may go on with its
target behind it, with a long row of fumbles, or with more rounds than its limit allows. Still it
ends. The status is worked out anew after each round, from the numbers after that round, and says
that the check goes on only if rounds are left, the target is ahead and the row of fumbles is short.
So the first round that a loaded check takes either ends it or brings it back to what a new check
keeps to, and from then on every round is one of those that were left.

Once a check has ended it refuses whatever it is asked for, and stays as it is.
-/

namespace Tabletop.ExtendedCheck

variable {c : ExtendedCheck} {moves : List Move}

/-! ### Checks that have ended -/

theorem run_cons (c : ExtendedCheck) (m : Move) (moves : List Move) :
    c.run (m :: moves) = (c.move m).run moves := rfl

/-- A check that has ended stays as it is. -/
theorem run_of_ended (h : c.status ≠ .inProgress) (moves : List Move) : c.run moves = c := by
  induction moves using List.reverseRecOn with
  | nil => rfl
  | append_singleton moves m ih => rw [run_append_singleton, ih, move_of_ended h]

theorem inProgress_of_run (h : (c.run moves).status = .inProgress) : c.status = .inProgress := by
  by_contra hended
  rw [run_of_ended hended] at h
  exact hended h

/-- Nothing goes on after it was to be given up. -/
theorem status_move_abandon (c : ExtendedCheck) : (c.move .abandon).status ≠ .inProgress := by
  by_cases h : c.status = .inProgress
  · rw [move_abandon h]
    exact CheckStatus.noConfusion
  · rwa [move_of_ended h]

/-! ### Rounds that are taken -/

/-- How many rounds a check takes when it is asked for moves in turn. -/
def roundsTaken (c : ExtendedCheck) : List Move → Nat
  | [] => 0
  | .round r :: moves =>
    (if (c.processRound r).isOk then 1 else 0) + (c.move (.round r)).roundsTaken moves
  | .abandon :: moves => (c.move .abandon).roundsTaken moves

theorem roundsTaken_round (h : c.status = .inProgress) (r : Roll) (moves : List Move) :
    c.roundsTaken (.round r :: moves) = 1 + (c.addRound r).roundsTaken moves := by
  rw [roundsTaken, processRound_eq_ok_iff.mpr ⟨h, rfl⟩, move_round h]
  rfl

theorem roundsTaken_of_ended (h : c.status ≠ .inProgress) (moves : List Move) :
    c.roundsTaken moves = 0 := by
  induction moves with
  | nil => rfl
  | cons m moves ih =>
    cases m with
    | round r =>
      rw [roundsTaken, processRound_eq_error_iff.mpr ⟨h, rfl⟩, move_of_ended h, ih]
      rfl
    | abandon => rw [roundsTaken, move_of_ended h, ih]

/-- The log grows by the rounds that are taken. -/
theorem length_run (c : ExtendedCheck) (moves : List Move) :
    (c.run moves).rounds.length = c.rounds.length + c.roundsTaken moves := by
  induction moves generalizing c with
  | nil => rfl
  | cons m moves ih =>
    rw [run_cons, ih]
    rcases c.move_cases m with ⟨hended, hm⟩ | ⟨hactive, r, rfl, hm⟩ | ⟨-, rfl, hm⟩
    · rw [hm, roundsTaken_of_ended hended, roundsTaken_of_ended hended]
    · rw [hm, roundsTaken_round hactive, length_addRound, Nat.add_assoc]
    · rw [roundsTaken, hm]

/-! ### The rounds that are left -/

section Limit

variable (hbound : c.maxRounds ≤ uint32Max)

include hbound

/-- After a round that does not end it, a check has rounds left, the target ahead and few fumbles
behind, whatever it was before. -/
theorem fits_addRound_of_inProgress {r : Roll} (h : (c.addRound r).status = .inProgress) :
    (c.addRound r).Fits .inProgress := by
  obtain ⟨hfumbles, haccumulated, hround⟩ := statusAfter_eq_iff.mp h
  refine ⟨?_, haccumulated, hfumbles⟩
  -- The limit is a word, so that the number of the round has not been cut off at the largest one.
  rw [length_addRound, maxRounds_addRound]
  unfold roundsCompleted at hround
  omega

/-- A check that goes on takes the rounds that are left, or a single one if none is. -/
theorem roundsTaken_le (h : c.status = .inProgress) (moves : List Move) :
    c.roundsTaken moves ≤ max 1 (c.maxRounds - c.rounds.length) := by
  induction moves generalizing c with
  | nil => exact Nat.zero_le _
  | cons m moves ih =>
    cases m with
    | round r =>
      rw [roundsTaken_round h]
      -- Whatever was left before it, the round ends the check or leaves rounds to the rest.
      by_cases hnext : (c.addRound r).status = .inProgress
      · have hrest := ih (c := c.addRound r) hbound hnext
        have hleft := (fits_addRound_of_inProgress hbound hnext).1
        rw [length_addRound, maxRounds_addRound] at hrest hleft
        omega
      · rw [roundsTaken_of_ended hnext]
        omega
    | abandon =>
      rw [roundsTaken, roundsTaken_of_ended c.status_move_abandon]
      exact Nat.zero_le _

/-- A check that still goes on has taken every round it was asked for, and has a round left if there
was one. -/
theorem roundsTaken_of_inProgress (h : (c.run moves).status = .inProgress) :
    c.roundsTaken moves = (moves.filterMap Move.roll?).length ∧
      (c.roundsTaken moves = 0 ∨ c.rounds.length + c.roundsTaken moves < c.maxRounds) := by
  induction moves generalizing c with
  | nil => exact ⟨rfl, .inl rfl⟩
  | cons m moves ih =>
    rw [run_cons] at h
    have hgoes : (c.move m).status = .inProgress := inProgress_of_run h
    cases m with
    | round r =>
      have hfirst : (c.run [.round r]).status = .inProgress := hgoes
      have hactive : c.status = .inProgress := inProgress_of_run hfirst
      rw [move_round hactive] at h hgoes
      have hleft := (fits_addRound_of_inProgress hbound hgoes).1
      obtain ⟨htaken, hrest⟩ := ih (c := c.addRound r) hbound h
      rw [length_addRound, maxRounds_addRound] at hrest hleft
      have hcount : ((Move.round r :: moves).filterMap Move.roll?).length =
          (moves.filterMap Move.roll?).length + 1 := rfl
      rw [roundsTaken_round hactive, hcount]
      omega
    | abandon => exact absurd hgoes c.status_move_abandon

end Limit

/-! ### The end of a check -/

/-- Every check ends, a loaded one too, and stays as it ended. Whatever its numbers are and whatever
it is asked for, it takes no more rounds than its limit leaves, or a single one if that leaves none,
and no round at all if it has ended before; asked for so many rounds, it has ended. A round that
does not end it leaves it with a round left, the target ahead and fewer than three fumbles in a row.
A check that has ended refuses every round, and to be given up, with the status it ended in, and no
later move changes it. -/
theorem comes_to_an_end (c : ExtendedCheck) (hbound : c.maxRounds ≤ uint32Max)
    (moves : List Move) :
    let d := c.run moves
    let allowed := if c.status = .inProgress then max 1 (c.maxRounds - c.rounds.length) else 0
    (c.roundsTaken moves ≤ allowed ∧
      d.rounds.length = c.rounds.length + c.roundsTaken moves ∧
      (allowed ≤ (moves.filterMap Move.roll?).length → d.status ≠ .inProgress)) ∧
    (∀ r next, d.processRound r = .ok next → next.status = .inProgress →
      next.rounds.length < next.maxRounds ∧ next.accumulated < next.target ∧
        next.consecutiveFumbles < 3) ∧
    (d.status ≠ .inProgress →
      (∀ r, d.processRound r = .error (.notInProgress d.status)) ∧
      d.abandon = .error (.notInProgress d.status) ∧ ∀ later, d.run later = d) := by
  intro d allowed
  have hallowed : c.roundsTaken moves ≤ allowed := by
    by_cases hactive : c.status = .inProgress
    · exact (roundsTaken_le hbound hactive moves).trans_eq (if_pos hactive).symm
    · exact (roundsTaken_of_ended hactive moves).trans_le (Nat.zero_le _)
  refine ⟨⟨hallowed, length_run c moves, fun hasked hactive => ?_⟩, fun r next hnext hactive => ?_,
    fun hended => ⟨fun r => ?_, ?_, run_of_ended hended⟩⟩
  · have hstart : c.status = .inProgress := inProgress_of_run hactive
    obtain ⟨htaken, hleft⟩ := roundsTaken_of_inProgress hbound hactive
    have hlimit : allowed = max 1 (c.maxRounds - c.rounds.length) := if_pos hstart
    omega
  · obtain ⟨-, rfl⟩ := processRound_eq_ok_iff.mp hnext
    have hlimit : (c.run moves).maxRounds ≤ uint32Max := (run_settings c moves).2.trans_le hbound
    obtain ⟨hleft, hahead, hfumbles⟩ := fits_addRound_of_inProgress hlimit hactive
    exact ⟨hleft, hahead, hfumbles⟩
  · exact processRound_eq_error_iff.mpr ⟨hended, rfl⟩
  · exact abandon_eq_error_iff.mpr ⟨hended, rfl⟩

/-- A saved check that goes on with more rounds than its limit allows, the target behind it and a
long row of fumbles: it is loaded as it stands, and the next round is its last. -/
theorem comes_to_an_end_of_overrun :
    let pool : Pool := ⟨2, .d10, 0, none, by decide⟩
    let failure := Roll.ofDice pool [⟨[3]⟩, ⟨[4]⟩] {}
    let c : ExtendedCheck :=
      ⟨⟨0⟩, pool, 3, 1, 9, 7, .inProgress, [⟨4, 2, false, 2⟩, ⟨4, 0, true, 9⟩]⟩
    load c.save = .ok c ∧ c.maxRounds ≤ uint32Max ∧
      c.roundsTaken [.round failure, .abandon, .round failure] = 1 ∧
      (c.run [.round failure]).status = .succeeded ∧
      (c.run [.round failure]).abandon = .error (.notInProgress .succeeded) ∧
      (c.run [.round failure]).run [.abandon, .round failure] = c.run [.round failure] := by
  intro pool failure c
  have hbound : c.maxRounds ≤ uint32Max := by decide
  have hrounds : ∀ x ∈ c.rounds, x.Storable := by
    simp only [c, List.forall_mem_cons]
    exact ⟨⟨by decide, by decide, by decide⟩, ⟨by decide, by decide, by decide⟩, by simp⟩
  have hstorable : c.Storable := ⟨by decide, hbound, by decide, by decide, hrounds⟩
  obtain ⟨-, -, hstays⟩ := comes_to_an_end c hbound [.round failure]
  obtain ⟨-, habandon, hlater⟩ := hstays (by decide)
  exact ⟨load_save Identifier.readsBack hstorable, hbound, by decide, by decide, habandon, hlater _⟩

end Tabletop.ExtendedCheck
