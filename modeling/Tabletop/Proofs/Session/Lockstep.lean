import Mathlib.Data.List.Forall2
import Tabletop.Proofs.History.Latest
import Tabletop.Proofs.Session.Ledger

/-!
# Extended checks beside the history

A round of an extended check is written down twice, in the rounds of the check and in the history of
the session. The roll is drawn and recorded before the check takes it. Were the check to refuse it
then, the history would be a roll ahead; but the round has been asked for only because the check
goes on, and a check that goes on takes any roll.

So the two stay together. A round is refused by a check that has ended, and nothing is rolled; or it
adds one entry to either side, and both tell the same of the roll that was kept. Since a call is
about one check at most, this makes the rounds of each check a part of the history, in the same
order, however the rounds of several checks and other rolls follow each other.
-/

namespace Tabletop

/-- The call begins a check at the place, where it replaces the one before. -/
def Call.Begins (c : Call) (place : Nat) : Prop :=
  match c with
  | start place' .. => place' = place
  | _ => False

/-- A call touches no check but the one at its own place. -/
theorem Call.store_of_ne {c : Call} {place : Nat} (h : c.place? ≠ some place)
    (checks : Nat → ExtendedCheck) (answer : Except SessionError Reply) :
    c.store checks answer place = checks place := by
  cases answer with
  | error e => rfl
  | ok reply =>
    rw [store]
    cases hplace : c.place? with
    | none => rfl
    | some place' =>
      have hne : place ≠ place' := fun heq => h (heq ▸ hplace)
      cases reply.check? with
      | none => rfl
      | some latest => exact Function.update_of_ne hne latest checks

/-! ### Two ways of writing a roll down -/

/-- A round of a check and a record of the history tell the same net successes and the same of a
fumble. -/
def CheckRound.Matches (x : CheckRound) (record : RollRecord) : Prop :=
  x.netSuccesses = record.netSuccesses ∧ x.isFumble = record.isFumble

/-- The records that belong to the check at a place. -/
def recordsOf (place : Nat) (entries : List (Option Nat × RollRecord)) : List RollRecord :=
  (entries.filter (·.1 == some place)).map Prod.snd

theorem recordsOf_append (place : Nat) (entries entries' : List (Option Nat × RollRecord)) :
    recordsOf place (entries ++ entries') =
      recordsOf place entries ++ recordsOf place entries' := by
  rw [recordsOf, List.filter_append, List.map_append]
  rfl

namespace Game

variable {σ κ : Type} {g g' g'' : Game σ κ} {c : Call} {place : Nat}

/-! ### A round of a check -/

/-- A round of the check at a place was granted with a roll: the check has taken the roll and has
one round more, the history has counted one record more and keeps it last if it keeps any, both tell
of the roll, and no other check has changed. -/
structure Advances (g : Game σ κ) (place : Nat) (roll : Roll) (round : CheckRound)
    (record : RollRecord) (g' : Game σ κ) : Prop where
  processed : (g.checks place).processRound roll = .ok (g'.checks place)
  rounds : (g'.checks place).rounds = (g.checks place).rounds ++ [round]
  history : g'.session.history = g.session.history.record record
  totalRolls : g'.session.history.totalRolls = g.session.history.totalRolls + 1
  last? (h : g.session.history.maxRecent ≠ 0) : g'.session.history.last? = some record
  others (other : Nat) (h : other ≠ place) : g'.checks other = g.checks other
  round_eq : round.netSuccesses = roll.netSuccesses ∧ round.isFumble = roll.isFumble
  record_eq : record.netSuccesses = roll.netSuccesses ∧ record.isFumble = roll.isFumble

theorem Advances.matches {roll : Roll} {round : CheckRound} {record : RollRecord}
    (h : g.Advances place roll round record g') : round.Matches record :=
  ⟨h.round_eq.1.trans h.record_eq.1.symm, h.round_eq.2.trans h.record_eq.2.symm⟩

section Round

variable [Source σ] [Clock κ]

/-- A check that has ended refuses a round, and nothing is changed. -/
theorem call_round_of_ended (h : (g.checks place).status ≠ .inProgress) (mode : RollMode)
    (context : Option String) :
    g.call (.round place mode context) =
      (.error (.extendedCheck (.notInProgress (g.checks place).status)), g) := by
  have hended : (g.checks place).isActive = false := by
    rw [← Bool.not_eq_true, ExtendedCheck.isActive, CheckStatus.isActive_iff]
    exact h
  simp only [call, Call.ask, Session.extendedRound_of_ended hended, Call.answer]
  rfl

/-- A check that goes on takes the roll that has been kept and recorded for it. -/
theorem call_round_of_active (h : (g.checks place).status = .inProgress) (mode : RollMode)
    (context : Option String) :
    let rolled := g.session.rollPoolWith (g.checks place).pool mode context
    let next := (g.checks place).addRound rolled.1.kept
    g.call (.round place mode context) =
      (.ok (.advanced rolled.1.kept next),
        ⟨rolled.2.log (Session.roundEvents next rolled.1.kept),
          Function.update g.checks place next⟩) := by
  have hactive : (g.checks place).isActive = true := CheckStatus.isActive_iff.mpr h
  simp only [call, Call.ask, Session.extendedRound_of_active hactive, Call.answer]
  rfl

/-- A round of a check that goes on is granted, and it is written down on both sides. -/
theorem exists_advances (h : (g.checks place).status = .inProgress) (mode : RollMode)
    (context : Option String) :
    let roll := (g.session.rollPoolWith (g.checks place).pool mode context).1.kept
    let result := g.call (.round place mode context)
    result.1 = .ok (.advanced roll (result.2.checks place)) ∧
      ∃ round record, g.Advances place roll round record result.2 := by
  intro roll result
  have hresult : result = _ := call_round_of_active h mode context
  have hcheck : result.2.checks place = (g.checks place).addRound roll := by
    rw [hresult]
    exact Function.update_self ..
  have hanswer : result.1 = .ok (.advanced roll (result.2.checks place)) := by
    rw [hcheck, hresult]
  let record := RollRecord.ofRoll g.session.supply.fresh.1 roll context
    (Clock.now g.session.clock).1
  -- The roll was recorded before the check took it; the events that follow leave the history be.
  have hhistory : result.2.session.history = g.session.history.record record := by
    rw [hresult]
    rfl
  refine ⟨hanswer, _, record,
    { processed := ?processed
      rounds := hcheck ▸ ExtendedCheck.rounds_addRound ..
      history := hhistory
      totalRolls := hhistory ▸ RollHistory.totalRolls_record ..
      last? := ?last
      others := ?others
      round_eq := ⟨rfl, rfl⟩
      record_eq := ⟨rfl, rfl⟩ }⟩
  case processed =>
    rw [hcheck]
    exact ExtendedCheck.processRound_eq_ok_iff.mpr ⟨h, rfl⟩
  case last =>
    intro hlimit
    rw [hhistory, RollHistory.last?_record, if_neg hlimit]
  case others =>
    intro other hother
    rw [hresult]
    exact Function.update_of_ne hother ..

end Round

/-! ### What calls add -/

/-- Just these records were added to the history, and to each check, unless a new one has begun at
its place, the rounds that match the records that belong to it. -/
structure Adds (begun : Nat → Prop) (g : Game σ κ) (entries : List (Option Nat × RollRecord))
    (g' : Game σ κ) : Prop where
  history :
    g'.session.history = (entries.map Prod.snd).foldl RollHistory.record g.session.history
  rounds (place : Nat) (h : ¬ begun place) : ∃ rounds,
    (g'.checks place).rounds = (g.checks place).rounds ++ rounds ∧
      List.Forall₂ CheckRound.Matches rounds (recordsOf place entries)

theorem Adds.refl (begun : Nat → Prop) (g : Game σ κ) : Adds begun g [] g where
  history := rfl
  rounds _ _ := ⟨[], (List.append_nil _).symm, .nil⟩

theorem Adds.trans {begun begun' : Nat → Prop} {entries entries' : List (Option Nat × RollRecord)}
    (h : Adds begun g entries g') (h' : Adds begun' g' entries' g'') :
    Adds (fun place => begun place ∨ begun' place) g (entries ++ entries') g'' where
  history := by rw [h'.history, h.history, List.map_append, List.foldl_append]
  rounds place hplace := by
    obtain ⟨hbegun, hbegun'⟩ := not_or.mp hplace
    obtain ⟨rounds, hrounds, hmatch⟩ := h.rounds place hbegun
    obtain ⟨rounds', hrounds', hmatch'⟩ := h'.rounds place hbegun'
    refine ⟨rounds ++ rounds', ?_, ?_⟩
    · rw [hrounds', hrounds, List.append_assoc]
    · rw [recordsOf_append]
      exact List.rel_append hmatch hmatch'

/-- A round that is granted adds its record to the history, where it belongs to the check. -/
theorem Advances.adds {roll : Roll} {round : CheckRound} {record : RollRecord}
    (h : g.Advances place roll round record g') (begun : Nat → Prop) :
    Adds begun g [(some place, record)] g' where
  history := h.history
  rounds place' _ := by
    by_cases hplace : place' = place
    · subst hplace
      have hrecords : recordsOf place' [(some place', record)] = [record] := by simp [recordsOf]
      refine ⟨[round], h.rounds, ?_⟩
      rw [hrecords]
      exact .cons h.matches .nil
    · have hrecords : recordsOf place' [(some place, record)] = [] := by
        simp [recordsOf, Ne.symm hplace]
      refine ⟨[], ?_, ?_⟩
      · rw [h.others place' hplace, List.append_nil]
      · rw [hrecords]
        exact .nil

variable [Source σ] [Clock κ]

/-- A call that leaves the rounds of the checks alone adds records that belong to none of them. -/
theorem exists_adds_of_rounds_eq
    (h : ∀ place, ¬ c.Begins place →
      ((g.call c).2.checks place).rounds = (g.checks place).rounds) :
    ∃ entries, Adds c.Begins g entries (g.call c).2 := by
  obtain ⟨records, -, hhistory⟩ := (g.rolls_call c).2.records.2
  refine ⟨records.map (none, ·), ?_, fun place hplace => ⟨[], ?_, ?_⟩⟩
  · rw [hhistory, List.map_map]
    exact congrArg (List.foldl _ _) (List.map_id records).symm
  · rw [h place hplace, List.append_nil]
  · have hnone : recordsOf place (records.map (none, ·)) = [] := by simp [recordsOf]
    rw [hnone]
    exact .nil

theorem rounds_call_abandon (g : Game σ κ) (place : Nat) :
    ((g.call (.abandon place)).2.checks place).rounds = (g.checks place).rounds := by
  by_cases h : (g.checks place).status = .inProgress
  · have habandon := ExtendedCheck.abandon_eq_ok_iff.mpr ⟨h, rfl⟩
    simp only [call, Call.ask, Session.abandonExtended, habandon, Call.answer]
    simp [Call.store, Call.place?, Reply.check?, Except.map]
  · have habandon := ExtendedCheck.abandon_eq_error_iff.mpr ⟨h, rfl⟩
    simp only [call, Call.ask, Session.abandonExtended, habandon, Call.answer]
    rfl

/-- One call. A round is the only call that adds to a check, and it is recorded for its place. -/
theorem exists_adds_call (g : Game σ κ) (c : Call) :
    ∃ entries, Adds c.Begins g entries (g.call c).2 := by
  -- A call without a place touches no check at all; the other three are taken one by one.
  cases hplace : c.place? with
  | none =>
    refine exists_adds_of_rounds_eq fun place _ => ?_
    rw [checks_call, Call.store_of_ne (by simp [hplace])]
  | some place =>
    cases c with
    | start place text target maxRounds =>
      -- At its own place a new check begins, for which nothing is said.
      refine exists_adds_of_rounds_eq fun place' hbegins => ?_
      have hne : (Call.start place text target maxRounds).place? ≠ some place' :=
        fun h => hbegins (Option.some.inj h)
      rw [checks_call, Call.store_of_ne hne]
    | round place mode context =>
      by_cases hactive : (g.checks place).status = .inProgress
      · obtain ⟨-, round, record, hadvances⟩ := exists_advances hactive mode context
        exact ⟨_, hadvances.adds _⟩
      · rw [call_round_of_ended hactive]
        exact ⟨[], .refl _ g⟩
    | abandon place =>
      refine exists_adds_of_rounds_eq fun place' _ => ?_
      by_cases hsame : place = place'
      · subst hsame
        exact g.rounds_call_abandon place
      · have hne : (Call.abandon place).place? ≠ some place' :=
          fun h => hsame (Option.some.inj h)
        rw [checks_call, Call.store_of_ne hne]
    | _ => cases hplace

/-- Any calls, one after the other. -/
theorem exists_adds_run (g : Game σ κ) (calls : List Call) :
    ∃ entries, Adds (fun place => ∃ c ∈ calls, c.Begins place) g entries (g.run calls) := by
  induction calls generalizing g with
  | nil => exact ⟨[], .refl _ g⟩
  | cons c calls ih =>
    obtain ⟨entries, hcall⟩ := g.exists_adds_call c
    obtain ⟨entries', hrun⟩ := ih (g.call c).2
    have hboth := hcall.trans hrun
    refine ⟨entries ++ entries', hboth.history, fun place hplace => hboth.rounds place ?_⟩
    rintro (hbegins | ⟨c', hmem, hbegins⟩)
    · exact hplace ⟨c, List.mem_cons_self, hbegins⟩
    · exact hplace ⟨c', List.mem_cons_of_mem c hmem, hbegins⟩

/-- The extended checks of a session and its history stay together under any calls. What the calls
add to the history contains, for each check that is not replaced by a new one, the records of just
the rounds that the check is given, in their order. After the calls a round of a check that has
ended is refused with its status and changes nothing; a round of any other check is granted with the
roll that was kept, which the check does not refuse, adds one round to that check and one record to
the history, both of which tell of that roll, and leaves all other checks as they were. -/
theorem rounds_in_lockstep (g : Game σ κ) (calls : List Call) :
    (∃ entries : List (Option Nat × RollRecord),
      (g.run calls).session.history =
        (entries.map Prod.snd).foldl RollHistory.record g.session.history ∧
      ∀ place, (∀ c ∈ calls, ¬ c.Begins place) → ∃ rounds,
        ((g.run calls).checks place).rounds = (g.checks place).rounds ++ rounds ∧
        List.Forall₂ CheckRound.Matches rounds (recordsOf place entries)) ∧
    ∀ place mode context,
      let before := g.run calls
      let status := (before.checks place).status
      let roll := (before.session.rollPoolWith (before.checks place).pool mode context).1.kept
      let result := before.call (.round place mode context)
      (status ≠ .inProgress ∧
        result = (.error (.extendedCheck (.notInProgress status)), before)) ∨
      (status = .inProgress ∧ result.1 = .ok (.advanced roll (result.2.checks place)) ∧
        ∃ round record, before.Advances place roll round record result.2) := by
  refine ⟨?_, fun place mode context => ?_⟩
  · obtain ⟨entries, hadds⟩ := g.exists_adds_run calls
    refine ⟨entries, hadds.history, fun place hplace => hadds.rounds place ?_⟩
    rintro ⟨c, hmem, hbegins⟩
    exact hplace c hmem hbegins
  · intro before status roll result
    by_cases hactive : status = .inProgress
    · exact .inr ⟨hactive, exists_advances hactive mode context⟩
    · exact .inl ⟨hactive, call_round_of_ended hactive mode context⟩

end Game

end Tabletop
