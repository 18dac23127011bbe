import Tabletop.Check.Extended
import Tabletop.Proofs.Streak

/-!
# What every extended check keeps to

A check holds its progress as running numbers and once more in the log of its rounds. Whatever it
has been asked for, and whether that was granted or refused, the two agree, and the status says
how far the check has come.

A check that has ended is never moved again, so every round was added while the check went on. It
had rounds left then, the target ahead and fewer than three fumbles in a row. One more round cannot
both reach the target and complete the row: a fumble costs progress, and any other round breaks the
row. So success and catastrophe exclude each other, although each of them is decided by numbers of
its own.

## Main definitions

* `ExtendedCheck.Move`, `ExtendedCheck.run` — what a check can be asked for, and where that leads
* `ExtendedCheck.Continues` — the rounds of a log follow from each other
* `ExtendedCheck.Fits`, `ExtendedCheck.Valid` — what a status says, and the invariant

## Main results

* `ExtendedCheck.Valid.addRound` — a round of a check that goes on keeps the invariant
* `ExtendedCheck.Valid.move`, `ExtendedCheck.Valid.run` — so does every move, and every run
* `ExtendedCheck.exists_start_run` — the states that a new check can reach
-/

namespace Tabletop

/-- The progress after a round, from the progress before it. -/
def CheckRound.progressFrom (x : CheckRound) (before : Nat) : Nat :=
  if x.isFumble then before - 2 else min (before + x.netSuccesses) uint32Max

namespace ExtendedCheck

variable {c : ExtendedCheck} {rounds : List CheckRound} {rolls : List Roll}

/-! ### Moves -/

/-- What a check can be asked for. -/
inductive Move where
  | round (r : Roll)
  | abandon

/-- The roll that a move brings. -/
def Move.roll? : Move → Option Roll
  | round r => some r
  | abandon => none

/-- The check that stands beside the answer to a move. -/
def move (c : ExtendedCheck) : Move → ExtendedCheck
  | .round r => (c.takeRound r).2
  | .abandon => c.giveUp.2

/-- The check that a list of moves leaves. -/
def run (c : ExtendedCheck) (moves : List Move) : ExtendedCheck := moves.foldl move c

@[simp] theorem run_nil (c : ExtendedCheck) : c.run [] = c := rfl

theorem run_append_singleton (c : ExtendedCheck) (moves : List Move) (m : Move) :
    c.run (moves ++ [m]) = (c.run moves).move m := by
  rw [run, List.foldl_append]
  rfl

theorem move_round (h : c.status = .inProgress) (r : Roll) :
    c.move (.round r) = c.addRound r := by
  rw [move, takeRound, ifActive_of_active h]

theorem move_abandon (h : c.status = .inProgress) :
    c.move .abandon = { c with status := .abandoned } := by
  rw [move, giveUp, ifActive_of_active h]

/-- A check that has ended stays as it is. -/
theorem move_of_ended (h : c.status ≠ .inProgress) (m : Move) : c.move m = c := by
  cases m with
  | round r => rw [move, takeRound, ifActive_of_ended h]
  | abandon => rw [move, giveUp, ifActive_of_ended h]

/-- What a move does. A check that has ended stays as it is; one that goes on takes the round, or is
given up. -/
theorem move_cases (c : ExtendedCheck) (m : Move) :
    (c.status ≠ .inProgress ∧ c.move m = c) ∨
      (c.status = .inProgress ∧ ∃ r, m = .round r ∧ c.move m = c.addRound r) ∨
      (c.status = .inProgress ∧ m = .abandon ∧ c.move m = { c with status := .abandoned }) := by
  by_cases hactive : c.status = .inProgress
  · cases m with
    | round r => exact .inr (.inl ⟨hactive, r, rfl, move_round hactive r⟩)
    | abandon => exact .inr (.inr ⟨hactive, rfl, move_abandon hactive⟩)
  · exact .inl ⟨hactive, move_of_ended hactive m⟩

/-! ### The log of the rounds -/

/-- The progress before the round at a place: that of the round before it, and none at first. -/
def progressBefore (rounds : List CheckRound) : Nat → Nat
  | 0 => 0
  | k + 1 => (rounds[k]?.map CheckRound.accumulated).getD 0

theorem progressBefore_append_of_le (x : CheckRound) {k : Nat} (h : k ≤ rounds.length) :
    progressBefore (rounds ++ [x]) k = progressBefore rounds k := by
  cases k with
  | zero => rfl
  | succ k => rw [progressBefore, progressBefore, List.getElem?_append_left h]

theorem progressBefore_append_length (rounds : List CheckRound) (x : CheckRound) :
    progressBefore (rounds ++ [x]) (rounds.length + 1) = x.accumulated := by
  rw [progressBefore, List.getElem?_concat_length]
  rfl

/-- The rounds are numbered from one, and the progress of each follows from the one before. -/
def Continues (rounds : List CheckRound) : Prop :=
  ∀ (k : Nat) (hk : k < rounds.length),
    rounds[k].round = k + 1 ∧
      rounds[k].accumulated = rounds[k].progressFrom (progressBefore rounds k)

theorem Continues.append_singleton (h : Continues rounds) {x : CheckRound}
    (hround : x.round = rounds.length + 1)
    (haccumulated : x.accumulated = x.progressFrom (progressBefore rounds rounds.length)) :
    Continues (rounds ++ [x]) := by
  intro k hk
  rw [List.length_append, List.length_singleton] at hk
  -- An older round has the same rounds before it as it had; the new one has them all.
  rcases Nat.lt_succ_iff_lt_or_eq.mp hk with hlt | rfl
  · rw [List.getElem_append_left hlt, progressBefore_append_of_le x hlt.le]
    exact h k hlt
  · rw [List.getElem_concat_length rfl, progressBefore_append_of_le x le_rfl]
    exact ⟨hround, haccumulated⟩

/-! ### The invariant -/

/-- What a status says about a check. -/
def Fits (c : ExtendedCheck) : CheckStatus → Prop
  | .inProgress | .abandoned =>
    c.rounds.length < c.maxRounds ∧ c.accumulated < c.target ∧ c.consecutiveFumbles < 3
  | .succeeded =>
    c.rounds.length ≤ c.maxRounds ∧ c.target ≤ c.accumulated ∧ c.consecutiveFumbles = 0
  | .failed =>
    c.rounds.length = c.maxRounds ∧ c.accumulated < c.target ∧ c.consecutiveFumbles < 3
  | .catastrophicFailure =>
    c.rounds.length ≤ c.maxRounds ∧ c.accumulated < c.target ∧ c.consecutiveFumbles = 3

/-- The running numbers are those of the log, and the status fits them. -/
structure Valid (c : ExtendedCheck) : Prop where
  maxRounds_le : c.maxRounds ≤ uint32Max
  continues : Continues c.rounds
  accumulated_eq : c.accumulated = progressBefore c.rounds c.rounds.length
  consecutiveFumbles_eq : c.consecutiveFumbles = trailingRun CheckRound.isFumble c.rounds
  fits : c.Fits c.status

theorem Valid.start {id : Identifier} {pool : Pool} {target maxRounds : Nat}
    (hbound : maxRounds ≤ uint32Max) (h : start id pool target maxRounds = .ok c) : c.Valid := by
  obtain ⟨htarget, hrounds, rfl⟩ := start_eq_ok_iff.mp h
  exact ⟨hbound, fun k hk => absurd hk (Nat.not_lt_zero k), rfl, rfl,
    hrounds, htarget, Nat.succ_pos 2⟩

/-- A check that goes on has rounds left, the target ahead and few fumbles behind. -/
theorem Valid.fits_inProgress (hc : c.Valid) (hactive : c.status = .inProgress) :
    c.rounds.length < c.maxRounds ∧ c.accumulated < c.target ∧ c.consecutiveFumbles < 3 := by
  have hfits := hc.fits
  rwa [hactive] at hfits

theorem Valid.roundsCompleted_eq (hc : c.Valid) (hactive : c.status = .inProgress) :
    c.roundsCompleted = c.rounds.length := by
  have hleft := (hc.fits_inProgress hactive).1
  exact Nat.min_eq_left (hleft.le.trans hc.maxRounds_le)

/-- A fumble cannot reach the target, and every other round breaks the row of fumbles. -/
theorem addRound_fumbles_or_breaks (hshort : c.accumulated < c.target)
    (hfew : c.consecutiveFumbles < 3) (r : Roll) :
    (c.addRound r).consecutiveFumbles ≤ 3 ∧ (c.addRound r).accumulated < c.target ∨
      (c.addRound r).consecutiveFumbles = 0 := by
  rw [consecutiveFumbles_addRound_of_lt (hfew.trans (by decide)), accumulated_addRound]
  cases hfumble : r.isFumble with
  | true =>
    rw [progress_of_fumble hfumble, if_pos rfl]
    exact .inl ⟨hfew, (Nat.sub_le _ _).trans_lt hshort⟩
  | false => exact .inr rfl

/-- The status that a round leads to fits the numbers after it. -/
theorem Valid.fits_addRound (hc : c.Valid) (hactive : c.status = .inProgress) (r : Roll) :
    (c.addRound r).Fits (c.addRound r).status := by
  obtain ⟨hleft, hshort, hfew⟩ := hc.fits_inProgress hactive
  have hround := hc.roundsCompleted_eq hactive
  have hlength := length_addRound c r
  have hkind := addRound_fumbles_or_breaks hshort hfew r
  have hleads := statusAfter_eq_iff.mp (status_addRound c r).symm
  rw [hround] at hleads
  cases hstatus : (c.addRound r).status <;> rw [hstatus] at hleads
  case inProgress =>
    obtain ⟨hfumbles, haccumulated, hmax⟩ := hleads
    exact ⟨hlength ▸ hmax, haccumulated, hfumbles⟩
  case succeeded =>
    obtain ⟨hfumbles, htarget⟩ := hleads
    -- Progress has reached the target, so that the round was no fumble.
    have hnone := hkind.resolve_left fun h => Nat.not_le.mpr h.2 htarget
    exact ⟨hlength ▸ hleft, htarget, hnone⟩
  case failed =>
    obtain ⟨hfumbles, haccumulated, hmax⟩ := hleads
    exact ⟨hlength ▸ Nat.le_antisymm hleft hmax, haccumulated, hfumbles⟩
  case catastrophicFailure =>
    -- The row of fumbles is complete, so that the round was one.
    have hrow : 3 ≤ (c.addRound r).consecutiveFumbles := hleads
    obtain ⟨hthree, haccumulated⟩ := hkind.resolve_right fun h => by omega
    exact ⟨hlength ▸ hleft, haccumulated, Nat.le_antisymm hthree hrow⟩
  case abandoned => exact hleads.elim

/-- A round of a check that goes on keeps the invariant. -/
theorem Valid.addRound (hc : c.Valid) (hactive : c.status = .inProgress) (r : Roll) :
    (c.addRound r).Valid where
  maxRounds_le := hc.maxRounds_le
  continues := by
    refine hc.continues.append_singleton ?_ ?_
    · rw [hc.roundsCompleted_eq hactive]
    · rw [← hc.accumulated_eq]
      rfl
  accumulated_eq := by
    rw [length_addRound, rounds_addRound, progressBefore_append_length]
    rfl
  consecutiveFumbles_eq := by
    have hfew := (hc.fits_inProgress hactive).2.2
    rw [consecutiveFumbles_addRound_of_lt (hfew.trans (by decide)), rounds_addRound,
      trailingRun_append_singleton, ← hc.consecutiveFumbles_eq]
  fits := hc.fits_addRound hactive r

/-- Giving up changes nothing but the status. -/
theorem Valid.abandon (hc : c.Valid) (hactive : c.status = .inProgress) :
    Valid { c with status := .abandoned } :=
  { hc with fits := hc.fits_inProgress hactive }

/-- One move, granted or refused, keeps the invariant. -/
theorem Valid.move (hc : c.Valid) (m : Move) : (c.move m).Valid := by
  rcases c.move_cases m with ⟨-, hm⟩ | ⟨hactive, r, -, hm⟩ | ⟨hactive, -, hm⟩ <;> rw [hm]
  · exact hc
  · exact hc.addRound hactive r
  · exact hc.abandon hactive

theorem Valid.run (hc : c.Valid) (moves : List Move) : (c.run moves).Valid := by
  induction moves using List.reverseRecOn with
  | nil => exact hc
  | append_singleton moves m ih =>
    rw [run_append_singleton]
    exact ih.move m

/-! ### What the numbers decide -/

/-- The numbers of a check alone tell whether it has succeeded or ended in a catastrophe. -/
theorem Fits.decided {status : CheckStatus} (h : c.Fits status) :
    c.rounds.length ≤ c.maxRounds ∧ c.consecutiveFumbles ≤ 3 ∧
      (status = .succeeded ↔ c.target ≤ c.accumulated) ∧
      (status = .catastrophicFailure ↔ c.consecutiveFumbles = 3) := by
  cases status <;> simp only [Fits] at h <;> simp <;> omega

theorem Valid.rounds_ne_nil (hc : c.Valid) (h : 0 < c.accumulated) : c.rounds ≠ [] := by
  intro hnil
  rw [hc.accumulated_eq, hnil] at h
  exact Nat.lt_irrefl 0 h

/-- A check that has succeeded did so in a round that is no fumble. -/
theorem Valid.exists_last_of_succeeded (hc : c.Valid) (htarget : 0 < c.target)
    (h : c.status = .succeeded) :
    ∃ last, c.rounds.getLast? = some last ∧ last.isFumble = false := by
  obtain ⟨-, hreached, hnone⟩ : c.Fits .succeeded := h ▸ hc.fits
  have hne := hc.rounds_ne_nil (htarget.trans_le hreached)
  rw [hc.consecutiveFumbles_eq] at hnone
  refine ⟨c.rounds.getLast hne, List.getLast?_eq_some_getLast hne, ?_⟩
  -- A fumble in the last round would leave a row of at least one.
  rw [← List.dropLast_append_getLast hne, trailingRun_append_singleton] at hnone
  cases hlast : (c.rounds.getLast hne).isFumble with
  | false => rfl
  | true => simp [hlast] at hnone

/-! ### Which rolls are logged -/

/-- The log holds the first rolls of a list, and all of them while the check goes on. -/
structure Logs (c : ExtendedCheck) (rolls : List Roll) : Prop where
  logged : c.rounds.map (fun x => (x.netSuccesses, x.isFumble)) =
    (rolls.take c.rounds.length).map (fun r => (r.netSuccesses, r.isFumble))
  all (hactive : c.status = .inProgress) : c.rounds.length = rolls.length

theorem Logs.length_le (h : c.Logs rolls) : c.rounds.length ≤ rolls.length := by
  have hlength := congrArg List.length h.logged
  rw [List.length_map, List.length_map, List.length_take] at hlength
  omega

theorem Logs.move (h : c.Logs rolls) (m : Move) : (c.move m).Logs (rolls ++ m.roll?.toList) := by
  rcases c.move_cases m with ⟨hended, hm⟩ | ⟨hactive, r, rfl, hm⟩ | ⟨hactive, rfl, hm⟩ <;> rw [hm]
  · -- Later rolls stand behind those that were logged.
    refine ⟨?_, fun hactive => absurd hactive hended⟩
    rw [List.take_append_of_le_length h.length_le]
    exact h.logged
  · have hlogged := h.logged
    rw [h.all hactive, List.take_length] at hlogged
    have hlength : (c.addRound r).rounds.length = (rolls ++ [r]).length := by
      rw [length_addRound, h.all hactive, List.length_append, List.length_singleton]
    have htake : (rolls ++ [r]).take (c.addRound r).rounds.length = rolls ++ [r] := by
      rw [hlength, List.take_length]
    refine ⟨?_, fun _ => hlength⟩
    change _ = ((rolls ++ [r]).take _).map _
    rw [htake, rounds_addRound, List.map_append, List.map_append, hlogged]
    rfl
  · refine ⟨?_, fun habandoned => by cases habandoned⟩
    change _ = ((rolls ++ []).take _).map _
    rw [List.append_nil]
    exact h.logged

theorem Logs.run (h : c.Logs []) (moves : List Move) :
    (c.run moves).Logs (moves.filterMap Move.roll?) := by
  induction moves using List.reverseRecOn with
  | nil => exact h
  | append_singleton moves m ih =>
    rw [run_append_singleton, List.filterMap_append]
    cases m with
    | round r => exact ih.move (.round r)
    | abandon => exact ih.move .abandon

/-! ### New checks -/

theorem move_settings (c : ExtendedCheck) (m : Move) :
    (c.move m).target = c.target ∧ (c.move m).maxRounds = c.maxRounds := by
  rcases c.move_cases m with ⟨-, hm⟩ | ⟨-, r, -, hm⟩ | ⟨-, -, hm⟩ <;> rw [hm] <;>
    exact ⟨rfl, rfl⟩

theorem run_settings (c : ExtendedCheck) (moves : List Move) :
    (c.run moves).target = c.target ∧ (c.run moves).maxRounds = c.maxRounds := by
  induction moves using List.reverseRecOn with
  | nil => exact ⟨rfl, rfl⟩
  | append_singleton moves m ih =>
    rw [run_append_singleton]
    obtain ⟨htarget, hrounds⟩ := (c.run moves).move_settings m
    exact ⟨htarget.trans ih.1, hrounds.trans ih.2⟩

/-- Every state that a new check can reach. Its log holds the first rolls it was given, numbered
from one and within the limit, each with the progress that follows from the one before; its running
numbers are the progress of the last round and the length of the row of fumbles that ends the log;
and its status says which of the ends those numbers have come to. -/
theorem exists_start_run (id : Identifier) (pool : Pool) {target maxRounds : Nat}
    (htarget : 1 ≤ target) (hrounds : 1 ≤ maxRounds) (hbound : maxRounds ≤ uint32Max) :
    ∃ new, start id pool target maxRounds = .ok new ∧ ∀ moves : List Move,
      let c := new.run moves
      let n := c.rounds.length
      let rolls := moves.filterMap Move.roll?
      let fumbles := trailingRun CheckRound.isFumble c.rounds
      (c.rounds.map (fun x => (x.netSuccesses, x.isFumble)) =
        (rolls.take n).map (fun r => (r.netSuccesses, r.isFumble))) ∧
      n ≤ maxRounds ∧
      (∀ (k : Nat) (hk : k < c.rounds.length), c.rounds[k].round = k + 1 ∧
        c.rounds[k].accumulated = c.rounds[k].progressFrom (progressBefore c.rounds k)) ∧
      c.accumulated = progressBefore c.rounds n ∧
      c.consecutiveFumbles = fumbles ∧ fumbles ≤ 3 ∧
      (c.status = .inProgress →
        n = rolls.length ∧ n < maxRounds ∧ c.accumulated < target ∧ fumbles < 3) ∧
      (c.status = .abandoned → n < maxRounds ∧ c.accumulated < target ∧ fumbles < 3) ∧
      (c.status = .succeeded ↔ target ≤ c.accumulated) ∧
      (c.status = .succeeded →
        ∃ last, c.rounds.getLast? = some last ∧ last.isFumble = false) ∧
      (c.status = .catastrophicFailure ↔ fumbles = 3) ∧
      (c.status = .catastrophicFailure → c.accumulated < target) ∧
      (c.status = .failed → n = maxRounds ∧ c.accumulated < target ∧ fumbles < 3) := by
  have hstart : start id pool target maxRounds =
      .ok ⟨id, pool, target, maxRounds, 0, 0, .inProgress, []⟩ :=
    start_eq_ok_iff.mpr ⟨htarget, hrounds, rfl⟩
  refine ⟨_, hstart, fun moves => ?_⟩
  intro c n rolls fumbles
  have hc : c.Valid := (Valid.start hbound hstart).run moves
  have hlogs : c.Logs rolls := Logs.run ⟨rfl, fun _ => rfl⟩ moves
  obtain ⟨hctarget, hcrounds⟩ : c.target = target ∧ c.maxRounds = maxRounds :=
    run_settings _ moves
  have hfumbles : c.consecutiveFumbles = fumbles := hc.consecutiveFumbles_eq
  have hfits := hc.fits
  obtain ⟨hle, hthree, hsucceeded, hcatastrophe⟩ := hfits.decided
  rw [hfumbles] at hthree hcatastrophe
  rw [hctarget] at hsucceeded
  rw [hcrounds] at hle
  refine ⟨hlogs.logged, hle, hc.continues, hc.accumulated_eq, hfumbles, hthree, ?_, ?_,
    hsucceeded, hc.exists_last_of_succeeded (hctarget ▸ htarget), hcatastrophe, ?_, ?_⟩
  -- What is left is what each status says of the numbers.
  all_goals
    intro hstatus
    rw [hstatus, Fits, hctarget, hcrounds, hfumbles] at hfits
  · exact ⟨hlogs.all hstatus, hfits⟩
  · exact hfits
  · exact hfits.2.1
  · exact hfits

/-- A third fumble in the last round is a catastrophe, and what is asked for later is not logged. -/
theorem catastrophe_in_last_round :
    let pool : Pool := ⟨2, .d10, 0, none, by decide⟩
    let good := Roll.ofDice pool [⟨[9]⟩, ⟨[10]⟩] {}
    let fumble := Roll.ofDice pool [⟨[1]⟩, ⟨[4]⟩] {}
    ∃ new, start ⟨0⟩ pool 3 4 = .ok new ∧
      let c := new.run [.round good, .round fumble, .round fumble, .round fumble, .round good,
        .abandon]
      c.rounds.map CheckRound.netSuccesses = [2, 0, 0, 0] ∧ c.status = .catastrophicFailure ∧
        trailingRun CheckRound.isFumble c.rounds = 3 ∧ c.accumulated < 3 := by
  intro pool good fumble
  obtain ⟨new, hstart, hrun⟩ :=
    exists_start_run ⟨0⟩ pool (by decide : 1 ≤ 3) (by decide : 1 ≤ 4) (by decide)
  refine ⟨new, hstart, ?_⟩
  intro c
  obtain ⟨-, -, -, -, -, -, -, -, -, -, hcatastrophe, hshort, -⟩ :=
    hrun [.round good, .round fumble, .round fumble, .round fumble, .round good, .abandon]
  obtain ⟨-, -, rfl⟩ := start_eq_ok_iff.mp hstart
  have hstatus : c.status = .catastrophicFailure := by decide
  exact ⟨by decide, hstatus, hcatastrophe.mp hstatus, hshort hstatus⟩

end ExtendedCheck

end Tabletop
