import Tabletop.Session.Basic

/-!
# Checks in a session

Checks against a difficulty, contests and extended checks, made with the rolls of a session. Every
kept roll goes through the history of the session.
-/

namespace Tabletop

/-- A roll, the difficulty and the outcome. -/
structure CheckResult where
  roll : Roll
  difficulty : Int
  outcome : Outcome
  deriving DecidableEq, Repr

namespace Session

variable {σ κ : Type} [Source σ] [Clock κ]

/-- Rolls a pool in notation against a difficulty. -/
def check (s : Session σ κ) (text : String) (difficulty : Int) (mode : RollMode)
    (context : Option String) : Except SessionError CheckResult × Session σ κ :=
  match s.rollWith text mode context with
  | (.error e, s) => (.error e, s)
  | (.ok r, s) =>
    let outcome := Outcome.ofRoll r.kept difficulty
    (.ok ⟨r.kept, difficulty, outcome⟩,
      s.log [.checkResolved r.kept.pool difficulty outcome.margin outcome.tier])

/-- A contest between two pools in notation. Both notations are read before either side rolls, so
that a faulty one changes nothing. -/
def contest (s : Session σ κ) (initiator defender : String) (context : Option String) :
    Except SessionError Contest × Session σ κ :=
  match Pool.parse initiator with
  | .error e => (.error (.dice e), s)
  | .ok initiatorPool =>
    match Pool.parse defender with
    | .error e => (.error (.dice e), s)
    | .ok defenderPool =>
      let (first, s) := s.rollPool initiatorPool context
      let (second, s) := s.rollPool defenderPool context
      let c := Contest.resolve first second
      (.ok c, s.log [.contestResolved first.netSuccesses second.netSuccesses c.margin c.outcome])

/-- Begins an extended check. -/
def startExtended (s : Session σ κ) (text : String) (target : Nat) (maxRounds : Option Nat) :
    Except SessionError ExtendedCheck × Session σ κ :=
  match Pool.parse text with
  | .error e => (.error (.dice e), s)
  | .ok pool =>
    let (id, supply) := s.supply.fresh
    match ExtendedCheck.start id pool target (maxRounds.getD defaultMaxRounds) with
    | .error e => (.error (.extendedCheck e), s)
    | .ok c => (.ok c, { s with supply }.log [.checkStarted c.id pool c.target c.maxRounds])

/-- The events of a round: the round itself, and whether it ended in a catastrophe. -/
def roundEvents (c : ExtendedCheck) (r : Roll) : List Event :=
  .checkRound c.id c.roundsCompleted r.netSuccesses r.isFumble c.accumulated c.target c.status ::
    if c.status = .catastrophicFailure then [.checkCatastrophe c.id c.consecutiveFumbles] else []

/-- Rolls one round of an extended check, and returns the roll and the check after it. A check that
has ended is refused before anything is rolled. -/
def extendedRound (s : Session σ κ) (c : ExtendedCheck) (mode : RollMode)
    (context : Option String) : Except SessionError (Roll × ExtendedCheck) × Session σ κ :=
  if c.isActive then
    let (r, s) := s.rollPoolWith c.pool mode context
    -- The check goes on, so that it takes the round.
    match c.processRound r.kept with
    | .error e => (.error (.extendedCheck e), s)
    | .ok c => (.ok (r.kept, c), s.log (roundEvents c r.kept))
  else (.error (.extendedCheck (.notInProgress c.status)), s)

/-- Gives an extended check up. -/
def abandonExtended (s : Session σ κ) (c : ExtendedCheck) :
    Except SessionError ExtendedCheck × Session σ κ :=
  match c.abandon with
  | .error e => (.error (.extendedCheck e), s)
  | .ok c => (.ok c, s.log [.checkAbandoned c.id c.accumulated c.target c.roundsCompleted])

/-- A check is a roll whose outcome is told. -/
theorem check_of_parse {text : String} {pool : Pool} (h : Pool.parse text = .ok pool)
    (s : Session σ κ) (difficulty : Int) (mode : RollMode) (context : Option String) :
    s.check text difficulty mode context =
      let rolled := s.rollPoolWith pool mode context
      let kept := rolled.1.kept
      let outcome := Outcome.ofRoll kept difficulty
      (.ok ⟨kept, difficulty, outcome⟩,
        rolled.2.log [.checkResolved kept.pool difficulty outcome.margin outcome.tier]) := by
  simp only [check, rollWith_of_parse h]

theorem contest_of_parse {initiator defender : String} {initiatorPool defenderPool : Pool}
    (hinitiator : Pool.parse initiator = .ok initiatorPool)
    (hdefender : Pool.parse defender = .ok defenderPool) (s : Session σ κ)
    (context : Option String) :
    s.contest initiator defender context =
      let first := s.rollPool initiatorPool context
      let second := first.2.rollPool defenderPool context
      let c := Contest.resolve first.1 second.1
      (.ok c, second.2.log
        [.contestResolved first.1.netSuccesses second.1.netSuccesses c.margin c.outcome]) := by
  simp only [contest, hinitiator, hdefender]

theorem extendedRound_of_ended {s : Session σ κ} {c : ExtendedCheck} (h : c.isActive = false)
    (mode : RollMode) (context : Option String) :
    s.extendedRound c mode context =
      (.error (.extendedCheck (.notInProgress c.status)), s) := by
  simp [extendedRound, h]

/-- A check that goes on takes the round that is rolled for it. -/
theorem extendedRound_of_active {c : ExtendedCheck} (h : c.isActive = true) (s : Session σ κ)
    (mode : RollMode) (context : Option String) :
    s.extendedRound c mode context =
      let rolled := s.rollPoolWith c.pool mode context
      let next := c.addRound rolled.1.kept
      (.ok (rolled.1.kept, next), rolled.2.log (roundEvents next rolled.1.kept)) := by
  have hround (r : Roll) : c.processRound r = .ok (c.addRound r) :=
    ExtendedCheck.processRound_eq_ok_iff.mpr ⟨CheckStatus.isActive_iff.mp h, rfl⟩
  simp only [extendedRound, h, if_true, hround]

end Session

end Tabletop
