import Mathlib.Logic.Function.Basic
import Tabletop.Session.Checks

/-!
# A session in use

The callers of a session ask for rolls, checks and contests in any order, and each of them keeps the
extended checks that it has begun. A game is a session together with these checks, each at a place
of its own. A call names the place of the check that it is about; when it is granted, the check that
the reply brings is put there.

## Main definitions

* `Call`, `Reply` — what callers can ask for, and what they are told
* `Game`, `Game.call`, `Game.run` — a session with the checks of its callers, and its calls
* `Reply.kept` — the rolls that a reply has kept
* `Call.IsValid` — what a call needs to be granted

## Main results

* `Game.exists_call_eq_ok_iff` — which calls are granted
-/

namespace Tabletop

/-- What callers can ask for. -/
inductive Call where
  | roll (text : String) (context : Option String)
  | rollPool (pool : Pool) (context : Option String)
  | rollWith (text : String) (mode : RollMode) (context : Option String)
  | rollPoolWith (pool : Pool) (mode : RollMode) (context : Option String)
  | check (text : String) (difficulty : Int) (context : Option String)
  | checkWith (text : String) (difficulty : Int) (mode : RollMode) (context : Option String)
  | contest (initiator defender : String) (context : Option String)
  | start (place : Nat) (text : String) (target : Nat) (maxRounds : Option Nat)
  | round (place : Nat) (mode : RollMode) (context : Option String)
  | abandon (place : Nat)
  deriving DecidableEq, Repr

/-- What callers are told when a call is granted. -/
inductive Reply where
  | rolled (r : Roll)
  | rolledWith (r : AdvantageRoll)
  | checked (r : CheckResult)
  | contested (c : Contest)
  | started (c : ExtendedCheck)
  | advanced (r : Roll) (c : ExtendedCheck)
  | abandoned (c : ExtendedCheck)
  deriving DecidableEq, Repr

namespace Reply

/-- The rolls that were kept, in the order in which they were made. -/
def kept : Reply → List Roll
  | rolled r => [r]
  | rolledWith r => [r.kept]
  | checked r => [r.roll]
  | contested c => [c.initiator, c.defender]
  | advanced r _ => [r]
  | started _ | abandoned _ => []

/-- The extended check that the reply is about, as it now stands. -/
def check? : Reply → Option ExtendedCheck
  | started c | advanced _ c | abandoned c => some c
  | _ => none

end Reply

namespace Call

/-- What the rolls of a call are made for. -/
def context : Call → Option String
  | roll _ context | rollPool _ context | rollWith _ _ context | rollPoolWith _ _ context
  | check _ _ context | checkWith _ _ _ context | contest _ _ context
  | round _ _ context => context
  | start .. | abandon _ => none

/-- The place of the extended check that the call is about. -/
def place? : Call → Option Nat
  | start place .. | round place .. | abandon place => some place
  | _ => none

variable {σ κ : Type} [Source σ] [Clock κ]

/-- An answer of the session in the words of the callers. -/
def answer {α : Type} (reply : α → Reply) (result : Except SessionError α × Session σ κ) :
    Except SessionError Reply × Session σ κ :=
  (result.1.map reply, result.2)

omit [Source σ] [Clock κ] in
theorem exists_answer_eq_ok_iff {α : Type} {reply : α → Reply}
    {result : Except SessionError α × Session σ κ} :
    (∃ r, (answer reply result).1 = .ok r) ↔ ∃ a, result.1 = .ok a := by
  obtain ⟨_ | a, s⟩ := result <;> simp [answer, Except.map]

/-- Asks a session for what the call says. -/
def ask (c : Call) (checks : Nat → ExtendedCheck) (s : Session σ κ) :
    Except SessionError Reply × Session σ κ :=
  match c with
  | roll text context => answer .rolled (s.roll text context)
  | rollPool pool context =>
    let (r, s) := s.rollPool pool context
    (.ok (.rolled r), s)
  | rollWith text mode context => answer .rolledWith (s.rollWith text mode context)
  | rollPoolWith pool mode context =>
    let (r, s) := s.rollPoolWith pool mode context
    (.ok (.rolledWith r), s)
  | check text difficulty context =>
    answer .checked (s.check text difficulty .normal context)
  | checkWith text difficulty mode context =>
    answer .checked (s.check text difficulty mode context)
  | contest initiator defender context =>
    answer .contested (s.contest initiator defender context)
  | start _ text target maxRounds => answer .started (s.startExtended text target maxRounds)
  | round place mode context =>
    answer (fun x => .advanced x.1 x.2) (s.extendedRound (checks place) mode context)
  | abandon place => answer .abandoned (s.abandonExtended (checks place))

/-- The checks of the callers after an answer. -/
def store (c : Call) (checks : Nat → ExtendedCheck) :
    Except SessionError Reply → Nat → ExtendedCheck
  | .error _ => checks
  | .ok reply =>
    match c.place?, reply.check? with
    | some place, some latest => Function.update checks place latest
    | _, _ => checks

/-- What a call needs to be granted: notation that can be read, on both sides of a contest; a target
and rounds for an extended check to begin with; and a check that goes on, for a round of it or for
giving it up. -/
def IsValid (c : Call) (checks : Nat → ExtendedCheck) : Prop :=
  match c with
  | roll text _ | rollWith text _ _ | check text _ _ | checkWith text _ _ _ =>
    ∃ pool, Pool.parse text = .ok pool
  | rollPool .. | rollPoolWith .. => True
  | contest initiator defender _ =>
    (∃ pool, Pool.parse initiator = .ok pool) ∧ ∃ pool, Pool.parse defender = .ok pool
  | start _ text target maxRounds =>
    (∃ pool, Pool.parse text = .ok pool) ∧ 0 < target ∧ maxRounds ≠ some 0
  | round place _ _ | abandon place => (checks place).status = .inProgress

end Call

namespace Session

variable {σ κ : Type} [Source σ] [Clock κ] (s : Session σ κ) (text : String) (mode : RollMode)
  (context : Option String) (c : ExtendedCheck)

/-! ### Which calls are granted -/

theorem exists_roll_eq_ok_iff :
    (∃ r, (s.roll text context).1 = .ok r) ↔ ∃ pool, Pool.parse text = .ok pool := by
  cases hparse : Pool.parse text <;> simp [roll, hparse]

theorem exists_rollWith_eq_ok_iff :
    (∃ r, (s.rollWith text mode context).1 = .ok r) ↔ ∃ pool, Pool.parse text = .ok pool := by
  cases hparse : Pool.parse text <;> simp [rollWith, hparse]

theorem exists_check_eq_ok_iff (difficulty : Int) :
    (∃ r, (s.check text difficulty mode context).1 = .ok r) ↔
      ∃ pool, Pool.parse text = .ok pool := by
  rw [← s.exists_rollWith_eq_ok_iff text mode context]
  unfold check
  split <;> simp [*]

theorem exists_contest_eq_ok_iff (initiator defender : String) :
    (∃ r, (s.contest initiator defender context).1 = .ok r) ↔
      (∃ pool, Pool.parse initiator = .ok pool) ∧ ∃ pool, Pool.parse defender = .ok pool := by
  cases hinitiator : Pool.parse initiator <;> cases hdefender : Pool.parse defender <;>
    simp [contest, hinitiator, hdefender]

omit [Source σ] [Clock κ] in
theorem exists_startExtended_eq_ok_iff (target : Nat) (maxRounds : Option Nat) :
    (∃ r, (s.startExtended text target maxRounds).1 = .ok r) ↔
      (∃ pool, Pool.parse text = .ok pool) ∧ 0 < target ∧ maxRounds ≠ some 0 := by
  have hrounds : 0 < maxRounds.getD defaultMaxRounds ↔ maxRounds ≠ some 0 := by
    cases maxRounds with
    | none => decide
    | some n => simp [Nat.pos_iff_ne_zero]
  cases hparse : Pool.parse text with
  | error e => simp [startExtended, hparse]
  | ok pool =>
    have hstart : (∃ c, ExtendedCheck.start s.supply.fresh.1 pool target
        (maxRounds.getD defaultMaxRounds) = .ok c) ↔ 0 < target ∧ maxRounds ≠ some 0 := by
      simp [ExtendedCheck.start_eq_ok_iff, hrounds]
    simp only [startExtended, hparse]
    rw [← hstart]
    split <;> simp [*]

theorem exists_extendedRound_eq_ok_iff :
    (∃ r, (s.extendedRound c mode context).1 = .ok r) ↔ c.status = .inProgress := by
  rw [← CheckStatus.isActive_iff]
  change _ ↔ c.isActive = true
  cases hactive : c.isActive with
  | false =>
    rw [extendedRound_of_ended hactive]
    simp
  | true =>
    rw [extendedRound_of_active hactive]
    simp

omit [Source σ] [Clock κ] in
theorem exists_abandonExtended_eq_ok_iff :
    (∃ r, (s.abandonExtended c).1 = .ok r) ↔ c.status = .inProgress := by
  have habandon : (∃ c', c.abandon = .ok c') ↔ c.status = .inProgress := by
    simp [ExtendedCheck.abandon_eq_ok_iff]
  rw [← habandon]
  unfold abandonExtended
  split <;> simp [*]

end Session

/-- A session with the extended checks of its callers. -/
structure Game (σ κ : Type) where
  session : Session σ κ
  checks : Nat → ExtendedCheck

namespace Game

variable {σ κ : Type} [Source σ] [Clock κ]

/-- The answer to a call, and the game after it. -/
def call (g : Game σ κ) (c : Call) : Except SessionError Reply × Game σ κ :=
  let (answer, session) := c.ask g.checks g.session
  (answer, ⟨session, c.store g.checks answer⟩)

/-- The game after a list of calls, whether they are granted or refused. -/
def run (g : Game σ κ) (calls : List Call) : Game σ κ := calls.foldl (fun g c => (g.call c).2) g

theorem checks_call (g : Game σ κ) (c : Call) :
    (g.call c).2.checks = c.store g.checks (g.call c).1 := rfl

/-- A call is granted when it has what it needs. -/
theorem exists_call_eq_ok_iff (g : Game σ κ) (c : Call) :
    (∃ reply, (g.call c).1 = .ok reply) ↔ c.IsValid g.checks := by
  change (∃ reply, (c.ask g.checks g.session).1 = .ok reply) ↔ _
  cases c with
  | roll text context =>
    exact Call.exists_answer_eq_ok_iff.trans (g.session.exists_roll_eq_ok_iff text context)
  | rollPool pool context => exact iff_of_true ⟨_, rfl⟩ trivial
  | rollWith text mode context =>
    exact Call.exists_answer_eq_ok_iff.trans
      (g.session.exists_rollWith_eq_ok_iff text mode context)
  | rollPoolWith pool mode context => exact iff_of_true ⟨_, rfl⟩ trivial
  | check text difficulty context =>
    exact Call.exists_answer_eq_ok_iff.trans
      (g.session.exists_check_eq_ok_iff text .normal context difficulty)
  | checkWith text difficulty mode context =>
    exact Call.exists_answer_eq_ok_iff.trans
      (g.session.exists_check_eq_ok_iff text mode context difficulty)
  | contest initiator defender context =>
    exact Call.exists_answer_eq_ok_iff.trans
      (g.session.exists_contest_eq_ok_iff context initiator defender)
  | start place text target maxRounds =>
    exact Call.exists_answer_eq_ok_iff.trans
      (g.session.exists_startExtended_eq_ok_iff text target maxRounds)
  | round place mode context =>
    exact Call.exists_answer_eq_ok_iff.trans
      (g.session.exists_extendedRound_eq_ok_iff mode context (g.checks place))
  | abandon place =>
    exact Call.exists_answer_eq_ok_iff.trans
      (g.session.exists_abandonExtended_eq_ok_iff (g.checks place))

end Game

end Tabletop
