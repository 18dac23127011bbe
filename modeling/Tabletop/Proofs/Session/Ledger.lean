import Tabletop.Proofs.Session.Calls
import Tabletop.Random.Scripted

/-!
# What a session records

What a call rolls can be told before it is made: one pool for a roll, a check or a round, the pools
of both sides for a contest, and none when a check begins or is given up. A call that is refused
rolls nothing. Notation is read before anything is rolled, on both sides of a contest; and a round
of an extended check is rolled only while the check goes on, when the check is bound to take it.

The history of a session is not written by the calls themselves but by what they have in common: a
roll that is kept is recorded, once, with what it was made for and with the time at which it was
made. So the history after any calls is the history before them with the records of just these
rolls, in order, where the rolls are those that the pools give when they are rolled one after the
other from the first state of the source.
-/

namespace Tabletop

/-! ### What calls roll -/

/-- A pool to be rolled, in its mode, and what it is rolled for. -/
structure Throw where
  pool : Pool
  mode : RollMode
  context : Option String
  deriving DecidableEq, Repr

/-- The pool that a text names, to be rolled; nothing when the text cannot be read. -/
def Throw.ofText (text : String) (mode : RollMode) (context : Option String) : List Throw :=
  match Pool.parse text with
  | .ok pool => [⟨pool, mode, context⟩]
  | .error _ => []

/-- The pools of both sides of a contest; nothing when one of the texts cannot be read. -/
def Throw.ofTexts (initiator defender : String) (context : Option String) : List Throw :=
  match Pool.parse initiator, Pool.parse defender with
  | .ok first, .ok second => [⟨first, .normal, context⟩, ⟨second, .normal, context⟩]
  | _, _ => []

/-- The pool of a check, to be rolled for a round of it; nothing when the check has ended. -/
def Throw.ofCheck (c : ExtendedCheck) (mode : RollMode) (context : Option String) : List Throw :=
  if c.isActive then [⟨c.pool, mode, context⟩] else []

/-- What a call rolls, in order. -/
def Call.throws (c : Call) (checks : Nat → ExtendedCheck) : List Throw :=
  match c with
  | roll text context | check text _ context => Throw.ofText text .normal context
  | rollWith text mode context | checkWith text _ mode context => Throw.ofText text mode context
  | rollPool pool context => [⟨pool, .normal, context⟩]
  | rollPoolWith pool mode context => [⟨pool, mode, context⟩]
  | contest initiator defender context => Throw.ofTexts initiator defender context
  | round place mode context => Throw.ofCheck (checks place) mode context
  | start .. | abandon _ => []

/-- A roll that was kept, and what it was made for. -/
structure KeptRoll where
  roll : Roll
  context : Option String
  deriving DecidableEq, Repr

/-- The rolls that a call has kept, by its answer: a refused call has kept none. -/
def Call.kept (c : Call) : Except SessionError Reply → List KeptRoll
  | .ok reply => reply.kept.map (⟨·, c.context⟩)
  | .error _ => []

section Throws

variable {σ : Type} [Source σ]

/-- The roll of a pool that is kept, and the source after it. -/
def Throw.roll (t : Throw) (c : Convention) (source : σ) : KeptRoll × σ :=
  let (r, source) := t.pool.rollWith t.mode c source
  (⟨r.kept, t.context⟩, source)

/-- The rolls that are kept when pools are rolled one after the other, and the source after them. -/
def rollThrows (c : Convention) : List Throw → σ → List KeptRoll × σ
  | [], source => ([], source)
  | t :: throws, source =>
    let (x, source) := t.roll c source
    let (kept, source) := rollThrows c throws source
    (x :: kept, source)

theorem rollThrows_append (c : Convention) (throws throws' : List Throw) (source : σ) :
    rollThrows c (throws ++ throws') source =
      ((rollThrows c throws source).1 ++ (rollThrows c throws' (rollThrows c throws source).2).1,
        (rollThrows c throws' (rollThrows c throws source).2).2) := by
  induction throws generalizing source with
  | nil => rfl
  | cons t throws ih => simp only [List.cons_append, rollThrows, ih]

end Throws

/-! ### Records of kept rolls -/

/-- The record tells of a kept roll in all of its fields, and of a time. The identifier is free. -/
structure RollRecord.Describes (record : RollRecord) (x : KeptRoll) (time : Timestamp) : Prop where
  written : record.written = toString x.roll.pool
  context : record.context = x.context
  rawRolls : record.rawRolls = x.roll.rawRolls
  netSuccesses : record.netSuccesses = x.roll.netSuccesses
  isFumble : record.isFumble = x.roll.isFumble
  isCritical : record.isCritical = x.roll.isCritical
  rolledAt : record.rolledAt = time

theorem RollRecord.describes_iff {record : RollRecord} {x : KeptRoll} {time : Timestamp} :
    record.Describes x time ↔ ∃ id, record = .ofRoll id x.roll x.context time := by
  constructor
  · intro h
    cases record with
    | mk id => cases h; exact ⟨id, by simp_all [ofRoll]⟩
  · rintro ⟨id, rfl⟩
    exact ⟨rfl, rfl, rfl, rfl, rfl, rfl, rfl⟩

section Clock

variable {κ : Type} [Clock κ]

/-- Records of kept rolls, in their order. Each of them takes the next reading of the clock. -/
inductive Stamped : κ → List KeptRoll → List RollRecord → κ → Prop
  | nil (k : κ) : Stamped k [] [] k
  | cons {k k' : κ} {x : KeptRoll} {kept : List KeptRoll} {record : RollRecord}
      {records : List RollRecord} (hx : record.Describes x (Clock.now k).1)
      (h : Stamped (Clock.now k).2 kept records k') :
      Stamped k (x :: kept) (record :: records) k'

theorem Stamped.append {k k' k'' : κ} {kept kept' : List KeptRoll}
    {records records' : List RollRecord} (h : Stamped k kept records k')
    (h' : Stamped k' kept' records' k'') :
    Stamped k (kept ++ kept') (records ++ records') k'' := by
  induction h with
  | nil k => exact h'
  | cons hx _ ih => exact .cons hx (ih h')

end Clock

namespace Session

variable {σ κ α : Type} [Source σ] [Clock κ] {s s' s'' : Session σ κ} {throws throws' : List Throw}
  {kept kept' : List KeptRoll}

/-! ### What happens between two states -/

/-- Between two states of a session just these pools were rolled, each of them was logged and
recorded, and apart from that events were logged and identifiers taken. -/
inductive Rolls (s : Session σ κ) : List Throw → Session σ κ → Prop
  | nothing : Rolls s [] s
  | log {throws : List Throw} {s' : Session σ κ} (h : Rolls s throws s') (events : List Event) :
      Rolls s throws (s'.log events)
  | identify {throws : List Throw} {s' : Session σ κ} (h : Rolls s throws s')
      (supply : Identifier.Supply) : Rolls s throws { s' with supply }
  | roll {throws : List Throw} {s' : Session σ κ} (h : Rolls s throws s') (pool : Pool)
      (mode : RollMode) (context : Option String) :
      Rolls s (throws ++ [⟨pool, mode, context⟩]) (s'.rollPoolWith pool mode context).2

theorem Rolls.trans (h : Rolls s throws s') (h' : Rolls s' throws' s'') :
    Rolls s (throws ++ throws') s'' := by
  -- The later part is taken apart from its end, so that what comes first stays as it is.
  induction h' with
  | nothing =>
    rw [List.append_nil]
    exact h
  | log _ events ih => exact ih.log events
  | identify _ supply ih => exact ih.identify supply
  | roll _ pool mode context ih =>
    rw [← List.append_assoc]
    exact ih.roll pool mode context

theorem rolls_rollPoolWith (s : Session σ κ) (pool : Pool) (mode : RollMode)
    (context : Option String) :
    Rolls s [⟨pool, mode, context⟩] (s.rollPoolWith pool mode context).2 :=
  Rolls.nothing.roll pool mode context

theorem rolls_rollPool (s : Session σ κ) (pool : Pool) (context : Option String) :
    Rolls s [⟨pool, .normal, context⟩] (s.rollPool pool context).2 := by
  have h := s.rolls_rollPoolWith pool .normal context
  rw [rollPoolWith_normal] at h
  exact h

theorem Rolls.convention_eq (h : Rolls s throws s') : s'.convention = s.convention := by
  induction h with
  | nothing => rfl
  | log _ _ ih => exact ih
  | identify _ _ ih => exact ih
  | roll _ _ _ _ ih => exact ih

/-! ### Recording -/

section Records

omit [Source σ]

/-- Between two states of a session just these rolls were recorded, and the clock was read for them
alone. -/
def Records (s : Session σ κ) (kept : List KeptRoll) (s' : Session σ κ) : Prop :=
  ∃ records, Stamped s.clock kept records s'.clock ∧
    s'.history = records.foldl RollHistory.record s.history

theorem Records.refl (s : Session σ κ) : Records s [] s := ⟨[], .nil s.clock, rfl⟩

theorem Records.trans (h : Records s kept s') (h' : Records s' kept' s'') :
    Records s (kept ++ kept') s'' := by
  obtain ⟨records, hstamped, hhistory⟩ := h
  obtain ⟨records', hstamped', hhistory'⟩ := h'
  refine ⟨records ++ records', hstamped.append hstamped', ?_⟩
  rw [hhistory', hhistory, List.foldl_append]

theorem records_keep (s : Session σ κ) (r : Roll) (context : Option String) :
    Records s [⟨r, context⟩] (s.keep r context) :=
  ⟨_, .cons (RollRecord.describes_iff.mpr ⟨s.supply.fresh.1, rfl⟩) (.nil _), rfl⟩

end Records

theorem records_rollPoolWith (s : Session σ κ) (pool : Pool) (mode : RollMode)
    (context : Option String) :
    let rolled := rollThrows s.convention [⟨pool, mode, context⟩] s.source
    (s.rollPoolWith pool mode context).2.source = rolled.2 ∧
      Records s rolled.1 (s.rollPoolWith pool mode context).2 :=
  let rolled := pool.rollWith mode s.convention s.source
  ⟨rfl, records_keep ({ s with source := rolled.2 }.log (twiceEvents pool rolled.1)) _ context⟩

/-- The source was asked for the pools alone, one after the other from its first state, and the
rolls that were kept were recorded. Events and identifiers have no part in it. -/
theorem Rolls.records (h : Rolls s throws s') :
    s'.source = (rollThrows s.convention throws s.source).2 ∧
      Records s (rollThrows s.convention throws s.source).1 s' := by
  induction h with
  | nothing => exact ⟨rfl, .refl s⟩
  | log _ _ ih => exact ih
  | identify _ _ ih => exact ih
  | @roll throws s' hrolls pool mode context ih =>
    obtain ⟨hsource, hrecords⟩ := ih
    -- The last pool is rolled under the convention that was there from the first.
    have hlast := s'.records_rollPoolWith pool mode context
    rw [hrolls.convention_eq, hsource] at hlast
    rw [rollThrows_append]
    exact ⟨hlast.1, hrecords.trans hlast.2⟩

/-! ### Granted and refused calls -/

/-- A call that was to roll pools, and its result. If it is refused, there was nothing to roll, and
the session is as it was. If it is granted, just these pools were rolled, and the rolls that belong
to its answer are those that were kept. -/
structure Settles (s : Session σ κ) (throws : List Throw) (kept : α → List KeptRoll)
    (result : Except SessionError α × Session σ κ) : Prop where
  of_error {e : SessionError} (h : result.1 = .error e) : throws = [] ∧ result.2 = s
  of_ok {a : α} (h : result.1 = .ok a) :
    kept a = (rollThrows s.convention throws s.source).1 ∧ Rolls s throws result.2

section Settles

variable {keeps : α → List KeptRoll}

theorem Settles.refused (s : Session σ κ) (keeps : α → List KeptRoll) (e : SessionError) :
    Settles s [] keeps (.error e, s) where
  of_error _ := ⟨rfl, rfl⟩
  of_ok h := by cases h

theorem Settles.granted {a : α} (hkept : keeps a = (rollThrows s.convention throws s.source).1)
    (h : Rolls s throws s') : Settles s throws keeps (.ok a, s') where
  of_error h := by cases h
  of_ok h' := by
    obtain rfl := Except.ok.inj h'
    exact ⟨hkept, h⟩

/-- In the words of the callers, the same has happened. -/
theorem Settles.answer {result : Except SessionError α × Session σ κ}
    (h : Settles s throws keeps result) {c : Call} {reply : α → Reply}
    (hkept : ∀ a, c.kept (.ok (reply a)) = keeps a) :
    Settles s throws (fun r => c.kept (.ok r)) (Call.answer reply result) := by
  obtain ⟨e | a, s'⟩ := result
  -- The words of the callers change the answer alone, not the session beside it.
  · obtain ⟨rfl, rfl⟩ := h.of_error rfl
    exact .refused _ _ _
  · obtain ⟨hrolled, hrolls⟩ := h.of_ok rfl
    exact .granted ((hkept a).trans hrolled) hrolls

theorem settles_startExtended (s : Session σ κ) (text : String) (target : Nat)
    (maxRounds : Option Nat) :
    Settles s [] (fun _ => []) (s.startExtended text target maxRounds) := by
  unfold startExtended
  split
  · exact .refused _ _ _
  · dsimp only
    split
    · exact .refused _ _ _
    · exact .granted rfl ((Rolls.nothing.identify _).log _)

theorem settles_abandonExtended (s : Session σ κ) (c : ExtendedCheck) :
    Settles s [] (fun _ => []) (s.abandonExtended c) := by
  unfold abandonExtended
  split
  · exact .refused _ _ _
  · exact .granted rfl (Rolls.nothing.log _)

end Settles

theorem settles_roll (s : Session σ κ) (text : String) (context : Option String) :
    Settles s (Throw.ofText text .normal context) (fun r => [⟨r, context⟩])
      (s.roll text context) := by
  unfold roll Throw.ofText
  cases Pool.parse text with
  | error e => exact .refused s _ _
  | ok pool => exact .granted rfl (s.rolls_rollPool pool context)

theorem settles_rollWith (s : Session σ κ) (text : String) (mode : RollMode)
    (context : Option String) :
    Settles s (Throw.ofText text mode context) (fun r => [⟨r.kept, context⟩])
      (s.rollWith text mode context) := by
  unfold rollWith Throw.ofText
  cases Pool.parse text with
  | error e => exact .refused s _ _
  | ok pool => exact .granted rfl (s.rolls_rollPoolWith pool mode context)

theorem settles_check (s : Session σ κ) (text : String) (difficulty : Int) (mode : RollMode)
    (context : Option String) :
    Settles s (Throw.ofText text mode context) (fun r => [⟨r.roll, context⟩])
      (s.check text difficulty mode context) := by
  have hroll := s.settles_rollWith text mode context
  unfold check
  split
  · next hanswer =>
    rw [hanswer] at hroll
    obtain ⟨hthrows, rfl⟩ := hroll.of_error rfl
    rw [hthrows]
    exact .refused _ _ _
  · next hanswer =>
    rw [hanswer] at hroll
    obtain ⟨hkept, hrolls⟩ := hroll.of_ok rfl
    exact .granted hkept (hrolls.log _)

/-- Both notations of a contest are read before either side rolls. -/
theorem settles_contest (s : Session σ κ) (initiator defender : String)
    (context : Option String) :
    Settles s (Throw.ofTexts initiator defender context)
      (fun c => [⟨c.initiator, context⟩, ⟨c.defender, context⟩])
      (s.contest initiator defender context) := by
  unfold contest Throw.ofTexts
  cases Pool.parse initiator with
  | error e => exact .refused s _ _
  | ok first =>
    cases Pool.parse defender with
    -- The pool of the initiator could be read, but it has not been rolled yet.
    | error e => exact .refused s _ _
    | ok second =>
      have hfirst := s.rolls_rollPool first context
      have hsecond := (s.rollPool first context).2.rolls_rollPool second context
      exact .granted rfl ((hfirst.trans hsecond).log _)

/-- A check that goes on takes the round, so that nothing is rolled in vain. -/
theorem settles_extendedRound (s : Session σ κ) (c : ExtendedCheck) (mode : RollMode)
    (context : Option String) :
    Settles s (Throw.ofCheck c mode context) (fun x => [⟨x.1, context⟩])
      (s.extendedRound c mode context) := by
  unfold Throw.ofCheck
  cases hactive : c.isActive with
  | false =>
    rw [extendedRound_of_ended hactive]
    exact .refused s _ _
  | true =>
    rw [extendedRound_of_active hactive]
    exact .granted rfl ((s.rolls_rollPoolWith c.pool mode context).log _)

/-- Whatever a caller asks for, what the call was to roll is rolled, and the rolls that the answer
names are kept, or there was nothing to roll and nothing is changed. -/
theorem settles_ask (s : Session σ κ) (checks : Nat → ExtendedCheck) (c : Call) :
    Settles s (c.throws checks) (fun r => c.kept (.ok r)) (c.ask checks s) := by
  cases c with
  | roll text context => exact (s.settles_roll text context).answer fun _ => rfl
  | rollPool pool context => exact .granted rfl (s.rolls_rollPool pool context)
  | rollWith text mode context => exact (s.settles_rollWith text mode context).answer fun _ => rfl
  | rollPoolWith pool mode context => exact .granted rfl (s.rolls_rollPoolWith pool mode context)
  | check text difficulty context =>
    exact (s.settles_check text difficulty .normal context).answer fun _ => rfl
  | checkWith text difficulty mode context =>
    exact (s.settles_check text difficulty mode context).answer fun _ => rfl
  | contest initiator defender context =>
    exact (s.settles_contest initiator defender context).answer fun _ => rfl
  | start place text target maxRounds =>
    exact (s.settles_startExtended text target maxRounds).answer fun _ => rfl
  | round place mode context =>
    exact (s.settles_extendedRound (checks place) mode context).answer fun _ => rfl
  | abandon place => exact (s.settles_abandonExtended (checks place)).answer fun _ => rfl

end Session

namespace Game

variable {σ κ : Type} [Source σ] [Clock κ] {g : Game σ κ} {c : Call}

/-- What a list of calls rolls, in order. -/
def throws (g : Game σ κ) : List Call → List Throw
  | [] => []
  | c :: calls => c.throws g.checks ++ (g.call c).2.throws calls

/-- The rolls that a list of calls keeps, by their answers. -/
def keptRolls (g : Game σ κ) : List Call → List KeptRoll
  | [] => []
  | c :: calls => c.kept (g.call c).1 ++ (g.call c).2.keptRolls calls

theorem settles_call (g : Game σ κ) (c : Call) :
    g.session.Settles (c.throws g.checks) (fun r => c.kept (.ok r))
      ((g.call c).1, (g.call c).2.session) :=
  g.session.settles_ask g.checks c

/-- A refused call was to roll nothing, and it leaves the session and every extended check as they
were. -/
theorem call_of_error {e : SessionError} (h : (g.call c).1 = .error e) :
    c.throws g.checks = [] ∧ (g.call c).2 = g := by
  obtain ⟨hthrows, hsession⟩ := (g.settles_call c).of_error h
  have hchecks : (g.call c).2.checks = g.checks := by
    rw [checks_call, h]
    rfl
  refine ⟨hthrows, ?_⟩
  cases hafter : (g.call c).2 with
  | mk session checks =>
    rw [hafter] at hsession hchecks
    subst hsession hchecks
    rfl

/-- A call rolls what it was to roll, and its answer names the rolls that were kept. -/
theorem rolls_call (g : Game σ κ) (c : Call) :
    c.kept (g.call c).1 =
        (rollThrows g.session.convention (c.throws g.checks) g.session.source).1 ∧
      g.session.Rolls (c.throws g.checks) (g.call c).2.session := by
  cases hanswer : (g.call c).1 with
  | error e =>
    obtain ⟨hthrows, hafter⟩ := call_of_error hanswer
    rw [hthrows, hafter]
    exact ⟨rfl, .nothing⟩
  | ok reply => exact (g.settles_call c).of_ok hanswer

/-- Calls roll one after the other what they were to roll. -/
theorem rolls_run (g : Game σ κ) (calls : List Call) :
    g.session.Rolls (g.throws calls) (g.run calls).session := by
  induction calls generalizing g with
  | nil => exact .nothing
  | cons c calls ih => exact (g.rolls_call c).2.trans (ih (g.call c).2)

/-- The answers name the rolls that the pools give from the first state of the source. -/
theorem keptRolls_eq (g : Game σ κ) (calls : List Call) :
    g.keptRolls calls =
      (rollThrows g.session.convention (g.throws calls) g.session.source).1 := by
  induction calls generalizing g with
  | nil => rfl
  | cons c calls ih =>
    -- The further calls roll from the source that this one has left, and under its convention.
    obtain ⟨hkept, hrolls⟩ := g.rolls_call c
    rw [keptRolls, ih, throws, rollThrows_append, hkept, hrolls.convention_eq, hrolls.records.1]

theorem records_run (g : Game σ κ) (calls : List Call) :
    g.session.Records (g.keptRolls calls) (g.run calls).session := by
  rw [keptRolls_eq]
  exact (g.rolls_run calls).records.2

/-- The history after any calls is the history before them with the records of the kept rolls, each
with what its call was made for and with the reading of the clock that was due. These are the rolls
that the pools of the calls give when they are rolled one after the other, under the convention of
the session and from the first state of its source, which is asked for nothing else; and they are
the rolls that the answers name. A call that comes after them is refused when a notation on either
side cannot be read, when a check would begin without target or rounds, or when a check has ended;
it was then to roll nothing, and it leaves the source, the clock, the history and every extended
check as they were. -/
theorem history_run (g : Game σ κ) (calls : List Call) :
    let after := g.run calls
    let rolled := rollThrows g.session.convention (g.throws calls) g.session.source
    (after.session.convention = g.session.convention ∧ after.session.source = rolled.2 ∧
      g.keptRolls calls = rolled.1 ∧
      ∃ records, Stamped g.session.clock rolled.1 records after.session.clock ∧
        after.session.history = records.foldl RollHistory.record g.session.history) ∧
    ∀ c : Call,
      ((∃ reply, (after.call c).1 = .ok reply) ↔ c.IsValid after.checks) ∧
      ∀ e, (after.call c).1 = .error e →
        c.throws after.checks = [] ∧ (after.call c).2 = after := by
  intro after rolled
  have hrolls := g.rolls_run calls
  obtain ⟨hsource, hrecords⟩ := hrolls.records
  exact ⟨⟨hrolls.convention_eq, hsource, g.keptRolls_eq calls, hrecords⟩,
    fun c => ⟨after.exists_call_eq_ok_iff c, fun _ => call_of_error⟩⟩

/-- A contest is recorded for both sides. A notation that cannot be read, a check that has ended and
a discarded roll leave no record. -/
example :
    let pool : Pool := ⟨1, .d10, 0, none, by decide⟩
    let g : Game Scripted SteadyClock :=
      ⟨.start {} ⟨[9, 1, 8, 3], []⟩ ⟨⟨0, 0⟩, 60⟩,
        fun _ => ⟨⟨0⟩, pool, 1, 1, 1, 0, .succeeded, []⟩⟩
    let after := g.run [.contest "1d10" "d8" (some "duel"), .roll "1d7" none, .round 0 .normal none,
      .rollPoolWith pool .advantage none]
    after.session.source.integers = [] ∧
      after.session.history.recent.map (fun r => (r.written, r.context, r.rawRolls, r.rolledAt)) =
        [("1d10", some "duel", [9], ⟨0, 0⟩), ("1d8", some "duel", [1], ⟨60, 0⟩),
          ("1d10", none, [8], ⟨120, 0⟩)] := by
  decide

end Game

end Tabletop
