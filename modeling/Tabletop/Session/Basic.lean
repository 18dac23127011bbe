import Tabletop.Dice.Notation
import Tabletop.Random.Seeded
import Tabletop.Session.Settings

/-!
# Sessions

A session rolls dice under one convention. Its calls share a source of randomness, a clock, a
history and a log of events: every roll that is kept is logged and recorded with the time at which
it was made, and a call that fails changes nothing.
-/

namespace Tabletop

/-- The states of a clock. -/
class Clock (κ : Type) where
  /-- The present time and the state that is left. -/
  now : κ → Timestamp × κ

/-- A clock that advances by the same number of seconds with every reading. -/
structure SteadyClock where
  next : Timestamp
  step : Int := 0
  deriving DecidableEq, Repr

instance : Clock SteadyClock where
  now c := (c.next, { c with next := { c.next with seconds := c.next.seconds + c.step } })

/-- What the calls of a session share. -/
structure Session (σ κ : Type) where
  convention : Convention
  source : σ
  clock : κ
  /-- Where the identifiers of records and checks come from. -/
  supply : Identifier.Supply
  history : RollHistory
  /-- The events so far, oldest first. -/
  events : List Event

namespace Session

variable {σ κ : Type} [Source σ] [Clock κ]

/-- A session without rolls. -/
def start (settings : Settings) (source : σ) (clock : κ) : Session σ κ :=
  let (id, supply) := Identifier.Supply.fresh {}
  { convention := settings.convention
    source, clock, supply
    history := RollHistory.ofLimit id settings.historyLimit
    events := [] }

/-- A session whose source has the seed of the settings, if they name one, and tells so. -/
def startSeeded (settings : Settings) (entropy : UInt64) (clock : κ) : Session Seeded κ :=
  match settings.seed with
  | some seed =>
    { start settings (Seeded.ofSeed (UInt64.ofNat seed)) clock with
      events := [.seededSource seed] }
  | none => start settings (Seeded.ofSeed entropy) clock

def log (s : Session σ κ) (events : List Event) : Session σ κ :=
  { s with events := s.events ++ events }

/-- Records a roll at the present time. -/
def remember (s : Session σ κ) (r : Roll) (context : Option String) : Session σ κ :=
  let (id, supply) := s.supply.fresh
  let (time, clock) := Clock.now s.clock
  { s with supply, clock, history := s.history.record (.ofRoll id r context time) }

/-- Logs and records a roll that is kept. -/
def keep (s : Session σ κ) (r : Roll) (context : Option String) : Session σ κ :=
  (s.log (Event.ofRoll r context)).remember r context

def rollPool (s : Session σ κ) (pool : Pool) (context : Option String) : Roll × Session σ κ :=
  let (r, source) := pool.roll s.convention s.source
  (r, { s with source }.keep r context)

/-- The event of a roll that was made twice. -/
def twiceEvents (pool : Pool) (r : AdvantageRoll) : List Event :=
  match r.discarded with
  | some d => [.rolledTwice pool r.mode r.kept.netSuccesses d.netSuccesses]
  | none => []

/-- Rolls a pool once or twice, as the mode says. Only the kept roll is recorded. -/
def rollPoolWith (s : Session σ κ) (pool : Pool) (mode : RollMode)
    (context : Option String) : AdvantageRoll × Session σ κ :=
  let (r, source) := pool.rollWith mode s.convention s.source
  (r, ({ s with source }.log (twiceEvents pool r)).keep r.kept context)

/-- Rolls a pool in notation. -/
def roll (s : Session σ κ) (text : String) (context : Option String) :
    Except SessionError Roll × Session σ κ :=
  match Pool.parse text with
  | .error e => (.error (.dice e), s)
  | .ok pool =>
    let (r, s) := s.rollPool pool context
    (.ok r, s)

/-- Rolls a pool in notation once or twice. -/
def rollWith (s : Session σ κ) (text : String) (mode : RollMode)
    (context : Option String) : Except SessionError AdvantageRoll × Session σ κ :=
  match Pool.parse text with
  | .error e => (.error (.dice e), s)
  | .ok pool =>
    let (r, s) := s.rollPoolWith pool mode context
    (.ok r, s)

theorem roll_of_parse_error {s : Session σ κ} {text : String} {e : NotationError}
    (h : Pool.parse text = .error e) (context : Option String) :
    s.roll text context = (.error (.dice e), s) := by
  simp [roll, h]

theorem rollWith_of_parse_error {s : Session σ κ} {text : String} {e : NotationError}
    (h : Pool.parse text = .error e) (mode : RollMode) (context : Option String) :
    s.rollWith text mode context = (.error (.dice e), s) := by
  simp [rollWith, h]

theorem roll_of_parse {text : String} {pool : Pool} (h : Pool.parse text = .ok pool)
    (s : Session σ κ) (context : Option String) :
    s.roll text context =
      (.ok (s.rollPool pool context).1, (s.rollPool pool context).2) := by
  simp [roll, h]

theorem rollWith_of_parse {text : String} {pool : Pool} (h : Pool.parse text = .ok pool)
    (s : Session σ κ) (mode : RollMode) (context : Option String) :
    s.rollWith text mode context =
      (.ok (s.rollPoolWith pool mode context).1, (s.rollPoolWith pool mode context).2) := by
  simp [rollWith, h]

/-- In the normal mode a pool is rolled as if no mode were named. -/
theorem rollPoolWith_normal (s : Session σ κ) (pool : Pool) (context : Option String) :
    s.rollPoolWith pool .normal context =
      (⟨.normal, (s.rollPool pool context).1, none⟩, (s.rollPool pool context).2) := by
  simp [rollPoolWith, rollPool, Pool.rollWith_normal, twiceEvents, log]

end Session

end Tabletop
