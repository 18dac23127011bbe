import Tabletop.Bounds
import Tabletop.Dice.Scoring
import Tabletop.Log.Identifier
import Tabletop.Refusal

/-!
# Extended checks

An extended check adds up the net successes of several rounds until they reach a target. A fumbled
round costs progress, three fumbles in a row end the check in a catastrophe, and the check fails
when the rounds run out.

Fumbles in a row are counted in a word of 32 bits, and the progress stops at the largest one. The
numbers of the rounds are exact: they belong to a log, which no memory holds up to that length.
-/

namespace Tabletop

def defaultMaxRounds : Nat := 10

/-- The progress that a fumbled round costs. -/
def fumblePenalty : Nat := 2

/-- The number of fumbles in a row that end a check. -/
def catastrophicStreak : Nat := 3

/-- Whether a check goes on, or how it ended. -/
inductive CheckStatus where
  | inProgress
  | succeeded
  /-- The rounds ran out before the target was reached. -/
  | failed
  | catastrophicFailure
  | abandoned
  deriving DecidableEq, Repr, Inhabited

namespace CheckStatus

def isActive (s : CheckStatus) : Bool := s == inProgress

def displayName : CheckStatus → String
  | inProgress => "In Progress"
  | succeeded => "Succeeded"
  | failed => "Failed"
  | catastrophicFailure => "Catastrophic Failure"
  | abandoned => "Abandoned"

@[simp] theorem isActive_iff {s : CheckStatus} : s.isActive = true ↔ s = inProgress := by
  simp [isActive]

end CheckStatus

/-- Why an extended check cannot be started or moved on. -/
inductive ExtendedCheckError where
  | invalidTarget
  | invalidMaxRounds
  | notInProgress (status : CheckStatus)
  deriving DecidableEq, Repr

def ExtendedCheckError.message : ExtendedCheckError → String
  | invalidTarget => "Target successes must be at least 1"
  | invalidMaxRounds => "Max rounds must be at least 1"
  | notInProgress status => "Extended check is not in progress: " ++ status.displayName

structure CheckRound where
  /-- The number of the round, counted from one. -/
  round : Nat
  netSuccesses : Nat
  isFumble : Bool
  /-- The progress after the round. -/
  accumulated : Nat
  deriving DecidableEq, Repr

/-- A check over several rounds. -/
structure ExtendedCheck where
  id : Identifier
  pool : Pool
  target : Nat
  maxRounds : Nat
  accumulated : Nat
  consecutiveFumbles : Nat
  status : CheckStatus
  /-- The rounds so far, oldest first. -/
  rounds : List CheckRound
  deriving DecidableEq, Repr

namespace ExtendedCheck

def start (id : Identifier) (pool : Pool) (target maxRounds : Nat) :
    Except ExtendedCheckError ExtendedCheck :=
  if target = 0 then .error .invalidTarget
  else if maxRounds = 0 then .error .invalidMaxRounds
  else .ok
    { id, pool, target, maxRounds
      accumulated := 0
      consecutiveFumbles := 0
      status := .inProgress
      rounds := [] }

def isActive (c : ExtendedCheck) : Bool := c.status.isActive

def roundsCompleted (c : ExtendedCheck) : Nat := min c.rounds.length uint32Max

def roundsRemaining (c : ExtendedCheck) : Nat := c.maxRounds - c.roundsCompleted

def remainingSuccesses (c : ExtendedCheck) : Nat := c.target - c.accumulated

def progress (accumulated : Nat) (r : Roll) : Nat :=
  if r.isFumble then accumulated - fumblePenalty
  else min (accumulated + r.netSuccesses) uint32Max

/-- The status after a round. Catastrophe outranks success, and success outranks running out of
rounds. -/
def statusAfter (c : ExtendedCheck) (fumbles accumulated round : Nat) : CheckStatus :=
  if catastrophicStreak ≤ fumbles then .catastrophicFailure
  else if c.target ≤ accumulated then .succeeded
  else if c.maxRounds ≤ round then .failed
  else .inProgress

/-- The check after a round, whatever its status. -/
def addRound (c : ExtendedCheck) (r : Roll) : ExtendedCheck :=
  let fumbles := if r.isFumble then nextCount c.consecutiveFumbles else 0
  let accumulated := progress c.accumulated r
  let round := c.roundsCompleted + 1
  { c with
    accumulated
    consecutiveFumbles := fumbles
    rounds := c.rounds ++ [⟨round, r.netSuccesses, r.isFumble, accumulated⟩]
    status := c.statusAfter fumbles accumulated round }

/-- Moves a check on that has not ended. Beside the answer stands the check as it then is. -/
def ifActive {α : Type} (c : ExtendedCheck) (answer : α) (next : ExtendedCheck) :
    Except ExtendedCheckError α × ExtendedCheck :=
  if c.isActive then (.ok answer, next) else (.error (.notInProgress c.status), c)

/-- Applies the roll of one round. The answer is the status that it leads to. -/
def takeRound (c : ExtendedCheck) (r : Roll) :
    Except ExtendedCheckError CheckStatus × ExtendedCheck :=
  c.ifActive (c.addRound r).status (c.addRound r)

def giveUp (c : ExtendedCheck) : Except ExtendedCheckError Unit × ExtendedCheck :=
  c.ifActive () { c with status := .abandoned }

/-- The check after one more round, unless it is refused. -/
def processRound (c : ExtendedCheck) (r : Roll) : Except ExtendedCheckError ExtendedCheck :=
  (granted (c.takeRound r)).map Prod.snd

/-- The check after it was given up, unless that is refused. -/
def abandon (c : ExtendedCheck) : Except ExtendedCheckError ExtendedCheck :=
  (granted c.giveUp).map Prod.snd

/-! ### What a round does -/

section Round

variable {c : ExtendedCheck} {r : Roll} {fumbles accumulated round : Nat}

@[simp] theorem target_addRound (c : ExtendedCheck) (r : Roll) :
    (c.addRound r).target = c.target := rfl

@[simp] theorem maxRounds_addRound (c : ExtendedCheck) (r : Roll) :
    (c.addRound r).maxRounds = c.maxRounds := rfl

@[simp] theorem accumulated_addRound (c : ExtendedCheck) (r : Roll) :
    (c.addRound r).accumulated = progress c.accumulated r := rfl

@[simp] theorem consecutiveFumbles_addRound (c : ExtendedCheck) (r : Roll) :
    (c.addRound r).consecutiveFumbles =
      if r.isFumble then nextCount c.consecutiveFumbles else 0 := rfl

/-- The counter of fumbles starts over only behind the largest word. -/
theorem consecutiveFumbles_addRound_of_lt (h : c.consecutiveFumbles < uint32Max) (r : Roll) :
    (c.addRound r).consecutiveFumbles = if r.isFumble then c.consecutiveFumbles + 1 else 0 := by
  rw [consecutiveFumbles_addRound, nextCount_of_lt h]

theorem rounds_addRound (c : ExtendedCheck) (r : Roll) :
    (c.addRound r).rounds =
      c.rounds ++ [⟨c.roundsCompleted + 1, r.netSuccesses, r.isFumble,
        progress c.accumulated r⟩] := rfl

theorem status_addRound (c : ExtendedCheck) (r : Roll) :
    (c.addRound r).status =
      c.statusAfter (c.addRound r).consecutiveFumbles (c.addRound r).accumulated
        (c.roundsCompleted + 1) := rfl

theorem length_addRound (c : ExtendedCheck) (r : Roll) :
    (c.addRound r).rounds.length = c.rounds.length + 1 := by
  rw [rounds_addRound, List.length_append, List.length_singleton]

theorem progress_of_fumble (h : r.isFumble = true) (accumulated : Nat) :
    progress accumulated r = accumulated - fumblePenalty := if_pos h

theorem progress_of_not_fumble (h : r.isFumble = false) (accumulated : Nat) :
    progress accumulated r = min (accumulated + r.netSuccesses) uint32Max := by
  rw [progress, h, if_neg Bool.false_ne_true]

/-- The numbers after a round that lead to a status. -/
def LeadsTo (c : ExtendedCheck) (fumbles accumulated round : Nat) : CheckStatus → Prop
  | .inProgress => fumbles < catastrophicStreak ∧ accumulated < c.target ∧ round < c.maxRounds
  | .succeeded => fumbles < catastrophicStreak ∧ c.target ≤ accumulated
  | .failed => fumbles < catastrophicStreak ∧ accumulated < c.target ∧ c.maxRounds ≤ round
  | .catastrophicFailure => catastrophicStreak ≤ fumbles
  -- No round gives a check up.
  | .abandoned => False

theorem statusAfter_eq_iff {status : CheckStatus} :
    c.statusAfter fumbles accumulated round = status ↔
      c.LeadsTo fumbles accumulated round status := by
  unfold statusAfter
  repeat' split
  all_goals cases status <;> simp [LeadsTo, *]
  all_goals omega

end Round

/-! ### When a request is granted -/

theorem start_eq_ok_iff {id : Identifier} {pool : Pool} {target maxRounds : Nat}
    {c : ExtendedCheck} :
    start id pool target maxRounds = .ok c ↔
      0 < target ∧ 0 < maxRounds ∧
        c = ⟨id, pool, target, maxRounds, 0, 0, .inProgress, []⟩ := by
  unfold start
  repeat' split
  all_goals simp [Nat.pos_iff_ne_zero, eq_comm, *]

section Granted

variable {α : Type} {c c' next : ExtendedCheck} {r : Roll} {e : ExtendedCheckError}

theorem ifActive_of_active (h : c.status = .inProgress) (answer : α) (next : ExtendedCheck) :
    c.ifActive answer next = (.ok answer, next) :=
  if_pos (CheckStatus.isActive_iff.mpr h)

/-- What is asked of a check that has ended is refused with its status, and leaves it as it was. -/
theorem ifActive_of_ended (h : c.status ≠ .inProgress) (answer : α) (next : ExtendedCheck) :
    c.ifActive answer next = (.error (.notInProgress c.status), c) :=
  if_neg (mt CheckStatus.isActive_iff.mp h)

theorem granted_ifActive_eq_ok_iff {answer : α} :
    (granted (c.ifActive answer next)).map Prod.snd = .ok c' ↔
      c.status = .inProgress ∧ c' = next := by
  by_cases h : c.status = .inProgress
  · rw [ifActive_of_active h]
    exact ⟨fun he => ⟨h, (Except.ok.inj he).symm⟩, fun he => congrArg _ he.2.symm⟩
  · rw [ifActive_of_ended h]
    exact iff_of_false (fun he => by cases he) (fun he => h he.1)

theorem granted_ifActive_eq_error_iff {answer : α} :
    (granted (c.ifActive answer next)).map Prod.snd = .error e ↔
      c.status ≠ .inProgress ∧ e = .notInProgress c.status := by
  by_cases h : c.status = .inProgress
  · rw [ifActive_of_active h]
    exact iff_of_false (fun he => by cases he) (fun he => he.1 h)
  · rw [ifActive_of_ended h]
    exact ⟨fun he => ⟨h, (Except.error.inj he).symm⟩, fun he => congrArg _ he.2.symm⟩

theorem processRound_eq_ok_iff :
    c.processRound r = .ok c' ↔ c.status = .inProgress ∧ c' = c.addRound r :=
  granted_ifActive_eq_ok_iff

/-- A round is refused exactly when the check has ended, and the refusal names how. -/
theorem processRound_eq_error_iff :
    c.processRound r = .error e ↔ c.status ≠ .inProgress ∧ e = .notInProgress c.status :=
  granted_ifActive_eq_error_iff

theorem abandon_eq_ok_iff :
    c.abandon = .ok c' ↔ c.status = .inProgress ∧ c' = { c with status := .abandoned } :=
  granted_ifActive_eq_ok_iff

/-- A check is given up at most once, and only while it goes on. -/
theorem abandon_eq_error_iff :
    c.abandon = .error e ↔ c.status ≠ .inProgress ∧ e = .notInProgress c.status :=
  granted_ifActive_eq_error_iff

end Granted

end ExtendedCheck

end Tabletop
