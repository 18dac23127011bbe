import Tabletop.Proofs.Rolling.Draws
import Tabletop.Session.Checks

/-!
# Three ways to a roll

A session offers a plain roll, a roll in one of three modes and a check against a difficulty. In the
normal mode all of them come to the same. They ask the source for the same faces and return the same
roll, they read the clock once, tell the same events of the roll and add one record of it to the
history; a check tells its outcome as well. Faulty notation is refused by each of them with the same
error, before anything has happened.

The identifiers of the records are fresh, so those of two calls have nothing to do with each other.
Two sessions are compared here that differ in nothing but where their identifiers come from, and the
histories that they leave then agree but for the identifier of the new record.

What is drawn is compared by watching: a session whose source takes down the exchanges goes on just
as it would unwatched.
-/

namespace Tabletop

namespace Session

variable {σ κ : Type}

/-! ### Watching -/

/-- The session with a source that takes down what is drawn from now on. -/
def watch (s : Session σ κ) : Session (Transcript σ) κ := { s with source := .begin s.source }

/-- The answers that became the faces of the roll are taken down, and nothing else changes. -/
theorem rollPool_watch [Source σ] [Clock κ] (s : Session σ κ) (pool : Pool)
    (context : Option String) :
    let plain := s.rollPool pool context
    ∃ answers : List Int, plain.1.rawRolls = answers.map faceOf ∧
      s.watch.rollPool pool context =
        (plain.1, { plain.2 with
          source := ⟨plain.2.source, answers.map (.integer 1 pool.faces)⟩ }) := by
  intro plain
  obtain ⟨answers, -, hshown, hroll⟩ := pool.roll_transcript s.convention s.source []
  refine ⟨answers, hshown, ?_⟩
  unfold rollPool watch Transcript.begin
  simp only [hroll]
  rfl

/-! ### Recording -/

variable [Clock κ] {s t t' : Session σ κ} {r : Roll} {context : Option String}

/-- From the state `s` the roll has been made and recorded once, at the time that the clock showed;
this has led to `t` under one identifier, and to `t'` under this or another one. -/
structure RecordAlike (s : Session σ κ) (r : Roll) (context : Option String)
    (t t' : Session σ κ) : Prop where
  source_eq : t'.source = t.source
  clock_eq : t.clock = (Clock.now s.clock).2 ∧ t'.clock = (Clock.now s.clock).2
  history_eq : ∃ id id',
    t.history = s.history.record (.ofRoll id r context (Clock.now s.clock).1) ∧
      t'.history = s.history.record (.ofRoll id' r context (Clock.now s.clock).1)

theorem RecordAlike.log (h : s.RecordAlike r context t t') (events : List Event) :
    s.RecordAlike r context t (t'.log events) :=
  ⟨h.source_eq, h.clock_eq, h.history_eq⟩

variable [Source σ]

/-- Where the identifiers come from has no part in a roll but for the identifier of its record. -/
theorem rollPool_supply (s : Session σ κ) (supply : Identifier.Supply) (pool : Pool)
    (context : Option String) :
    let plain := s.rollPool pool context
    let other : Session σ κ := { s with supply }
    (other.rollPool pool context).1 = plain.1 ∧
      (other.rollPool pool context).2.events = plain.2.events ∧
      s.RecordAlike plain.1 context plain.2 (other.rollPool pool context).2 :=
  ⟨rfl, rfl, rfl, ⟨rfl, rfl⟩, s.supply.fresh.1, supply.fresh.1, rfl, rfl⟩

/-! ### Agreement -/

/-- Take any state of a session, and another one that differs in nothing but its identifiers. A pool
that is rolled plainly in the first and in the normal mode in the second gives the same roll, and
nothing is discarded. The same answers are drawn from the source, the same events are told, and both
record the roll once, at the same time. Given any text, a plain roll and a check either are refused
with the same error and change nothing, or return the same roll; the check adds its outcome, the one
of that roll, and draws and records just the same. -/
theorem rolls_agree (s : Session σ κ) (supply : Identifier.Supply) (context : Option String) :
    let other : Session σ κ := { s with supply }
    (∀ pool : Pool,
      let plain := s.rollPool pool context
      let normal := other.rollPoolWith pool .normal context
      normal.1 = ⟨.normal, plain.1, none⟩ ∧
        (∃ answers : List Int, plain.1.rawRolls = answers.map faceOf ∧
          (s.watch.rollPool pool context).2.source =
            ⟨plain.2.source, answers.map (.integer 1 pool.faces)⟩ ∧
          (other.watch.rollPoolWith pool .normal context).2.source =
            ⟨plain.2.source, answers.map (.integer 1 pool.faces)⟩) ∧
        normal.2.events = plain.2.events ∧ s.RecordAlike plain.1 context plain.2 normal.2) ∧
    ∀ (text : String) (difficulty : Int),
      let rolled := s.roll text context
      let checked := other.check text difficulty .normal context
      (∃ e, rolled = (.error e, s) ∧ checked = (.error e, other)) ∨
      ∃ r, rolled.1 = .ok r ∧ checked.1 = .ok ⟨r, difficulty, Outcome.ofRoll r difficulty⟩ ∧
        checked.2.events = rolled.2.events ++
          [.checkResolved r.pool difficulty (Outcome.ofRoll r difficulty).margin
            (Outcome.ofRoll r difficulty).tier] ∧
        s.RecordAlike r context rolled.2 checked.2 := by
  intro other
  constructor
  · intro pool plain normal
    obtain ⟨hroll, hevents, halike⟩ := s.rollPool_supply supply pool context
    obtain ⟨answers, hshown, hwatch⟩ := s.rollPool_watch pool context
    -- In the normal mode the other session makes a plain roll, watched or not.
    have hnormal : normal = (⟨.normal, (other.rollPool pool context).1, none⟩, _) :=
      other.rollPoolWith_normal pool context
    have hdrawn : (s.watch.rollPool pool context).2.source =
        ⟨plain.2.source, answers.map (.integer 1 pool.faces)⟩ := by
      rw [hwatch]
    have hdrawn' : (other.watch.rollPoolWith pool .normal context).2.source =
        (s.watch.rollPool pool context).2.source := by
      rw [rollPoolWith_normal]
      exact (s.watch.rollPool_supply supply pool context).2.2.source_eq
    rw [hnormal, hroll]
    exact ⟨rfl, ⟨answers, hshown, hdrawn, hdrawn'.trans hdrawn⟩, hevents, halike⟩
  · intro text difficulty
    -- Both calls read the notation before anything else happens.
    cases hparse : Pool.parse text with
    | error e =>
      refine Or.inl ⟨.dice e, roll_of_parse_error hparse context, ?_⟩
      rw [check, rollWith_of_parse_error hparse]
    | ok pool =>
      obtain ⟨hroll, hevents, halike⟩ := s.rollPool_supply supply pool context
      rw [roll_of_parse hparse, check_of_parse hparse, rollPoolWith_normal]
      refine Or.inr ⟨(s.rollPool pool context).1, rfl, ?_, ?_, halike.log _⟩
      · rw [hroll]
      · rw [hroll]
        exact congrArg (· ++ _) hevents

end Session

end Tabletop
