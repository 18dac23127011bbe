import Tabletop.Proofs.ExtendedCheck.Dominance
import Tabletop.Proofs.ExtendedCheck.Invariant
import Tabletop.Proofs.History.WholeLog
import Tabletop.Proofs.Saved.Values

/-!
# Saving and resuming loses nothing

A run may be broken off between any two requests, as often as one likes: the state is saved, and
the run goes on with what is loaded from the saved form. Extended checks and histories do not notice
it. Every state on the way is loaded as it was saved, since its numbers never leave the words they
are stored in: those of a check are held down by its settings, and those of a history by the words
of its counters.

Identifiers and times are saved in a written form. Nothing depends on this form but that every
identifier and every time in whole seconds is read back from it.
-/

namespace Tabletop

/-! ### Runs with breaks -/

section Resumed

variable {σ μ ρ : Type}

/-- What happens in a run: a request, or a break, in which the state is saved and loaded again. -/
inductive Turn (μ : Type) where
  | ask (request : μ)
  | reload

/-- The request that is made in a turn. -/
def Turn.request? : Turn μ → Option μ
  | ask m => some m
  | reload => none

/-- The requests of a run, without its breaks. -/
def requests (turns : List (Turn μ)) : List μ := turns.filterMap Turn.request?

/-- The answers to requests that are made one after the other. -/
def answers (answer : σ → μ → ρ) (next : σ → μ → σ) (s : σ) : List μ → List ρ
  | [] => []
  | m :: ms => answer s m :: answers answer next (next s m) ms

/-- The answers and the last state of a run with breaks. The run fails at a break where nothing can
be loaded. -/
def resumed (answer : σ → μ → ρ) (next : σ → μ → σ) (reload : σ → Except LoadError σ) (s : σ) :
    List (Turn μ) → Except LoadError (List ρ × σ)
  | [] => .ok ([], s)
  | .ask m :: turns => (resumed answer next reload (next s m) turns).map fun (rs, last) =>
      (answer s m :: rs, last)
  | .reload :: turns => (reload s).bind fun loaded => resumed answer next reload loaded turns

/-- When every state on the way is loaded as it was saved, breaks change neither the answers nor the
last state. -/
theorem resumed_eq {answer : σ → μ → ρ} {next : σ → μ → σ} {reload : σ → Except LoadError σ} {s : σ}
    {turns : List (Turn μ)}
    (h : ∀ before, before <+: requests turns →
      reload (before.foldl next s) = .ok (before.foldl next s)) :
    resumed answer next reload s turns =
      .ok (answers answer next s (requests turns), (requests turns).foldl next s) := by
  induction turns generalizing s with
  | nil => rfl
  | cons turn turns ih =>
    cases turn with
    | ask m =>
      -- The states after the request are those after longer beginnings of the run.
      have hrest := @ih (next s m) fun before hbefore =>
        h (m :: before) (List.cons_prefix_cons.mpr ⟨rfl, hbefore⟩)
      rw [resumed, hrest]
      rfl
    | reload =>
      have hnow : reload s = .ok s := h [] List.nil_prefix
      rw [resumed, hnow]
      exact ih h

end Resumed

/-! ### Extended checks -/

namespace ExtendedCheck

variable {c : ExtendedCheck} {r : Roll} {moves : List Move}

/-- What a check answers to a move: its status after it, or why the move is refused. -/
def answer (c : ExtendedCheck) : Move → Except ExtendedCheckError CheckStatus
  | .round r => (c.processRound r).map status
  | .abandon => c.abandon.map status

/-- The net successes of a round fit the word they are logged in. -/
def Move.Storable : Move → Prop
  | round r => r.netSuccesses ≤ uint32Max
  | abandon => True

/-- A check that goes on has rounds left, so that the number of the next round is within its
limit. -/
theorem Storable.addRound (h : c.Storable) (hc : c.Valid) (hactive : c.status = .inProgress)
    (hr : r.netSuccesses ≤ uint32Max) : (c.addRound r).Storable where
  target_le := h.target_le
  maxRounds_le := h.maxRounds_le
  accumulated_le := progress_le_uint32Max h.accumulated_le r
  consecutiveFumbles_le := by
    have hthree := (hc.addRound hactive r).fits.decided.2.1
    exact hthree.trans (by decide)
  rounds := by
    have hround : c.roundsCompleted + 1 ≤ uint32Max := by
      rw [hc.roundsCompleted_eq hactive]
      exact Nat.le_trans (hc.fits_inProgress hactive).1 h.maxRounds_le
    rw [rounds_addRound, List.forall_mem_append, List.forall_mem_singleton]
    exact ⟨h.rounds, hround, hr, progress_le_uint32Max h.accumulated_le r⟩

theorem Storable.move (h : c.Storable) (hc : c.Valid) {m : Move} (hm : m.Storable) :
    (c.move m).Storable := by
  rcases c.move_cases m with ⟨-, heq⟩ | ⟨hactive, r, rfl, heq⟩ | ⟨-, -, heq⟩ <;> rw [heq]
  · exact h
  · exact h.addRound hc hactive hm
  -- Giving up changes no number.
  · exact { h with }

theorem Storable.run (h : c.Storable) (hc : c.Valid) (hmoves : ∀ m ∈ moves, m.Storable) :
    (c.run moves).Storable := by
  induction moves using List.reverseRecOn with
  | nil => exact h
  | append_singleton moves m ih =>
    rw [List.forall_mem_append, List.forall_mem_singleton] at hmoves
    rw [run_append_singleton]
    exact (ih hmoves.1).move (hc.run moves) hmoves.2

theorem Storable.start {id : Identifier} {pool : Pool} {target maxRounds : Nat}
    (htarget : target ≤ uint32Max) (hrounds : maxRounds ≤ uint32Max)
    (h : start id pool target maxRounds = .ok c) : c.Storable := by
  obtain ⟨-, -, rfl⟩ := start_eq_ok_iff.mp h
  exact ⟨htarget, hrounds, Nat.zero_le _, Nat.zero_le _, List.forall_mem_nil _⟩

/-- A check that may be saved goes through any breaks unchanged. -/
theorem resumed_run [TextForm Identifier] (hid : ∀ id : Identifier, ReadsBack id)
    (h : c.Storable) (hc : c.Valid) {turns : List (Turn Move)}
    (hturns : ∀ m ∈ requests turns, m.Storable) :
    resumed answer move (fun c => load c.save) c turns =
      .ok (answers answer move c (requests turns), c.run (requests turns)) := by
  apply resumed_eq
  intro before hbefore
  exact load_save hid (h.run hc fun m hm => hturns m (hbefore.subset hm))

/-- A row of fumbles is not broken by the breaks within it. -/
example :
    let pool : Pool := ⟨2, .d10, 0, none, by decide⟩
    let fumble := Roll.ofDice pool [⟨[1]⟩, ⟨[4]⟩] {}
    let new : ExtendedCheck := ⟨⟨0⟩, pool, 3, 4, 0, 0, .inProgress, []⟩
    (resumed answer move (fun c => load c.save) new [.ask (.round fumble), .reload,
      .ask (.round fumble), .reload, .ask (.round fumble)]).map (fun run => run.2.status) =
      .ok .catastrophicFailure := by
  cbv

end ExtendedCheck

/-! ### Histories -/

namespace RollHistory

variable {h : RollHistory} {log : List RollRecord}

/-- No counter of a history has left the word it is kept in. -/
structure CountersFit (h : RollHistory) : Prop where
  totalRolls_le : h.totalRolls ≤ uint64Max
  netSuccessSum_le : h.netSuccessSum ≤ uint64Max
  le_currentStreak : int64Min ≤ h.currentStreak
  currentStreak_le : h.currentStreak ≤ int64Max

theorem Summarizes.length_le (hs : h.Summarizes log) (hfit : h.CountersFit) :
    log.length ≤ uint64Max := hs.totalRolls ▸ hfit.totalRolls_le

/-- The number of rolls bounds the other counts, as each of them counts some of the rolls. -/
theorem Summarizes.storable (hs : h.Summarizes log) (hmax : h.maxRecent ≤ uint64Max)
    (hlog : ∀ r ∈ log, r.Storable) (hfit : h.CountersFit) : h.Storable where
  maxRecent_le := hmax
  recent r hr := by
    rw [hs.recent] at hr
    exact hlog r ((keepLast_suffix _ log).subset hr)
  totalRolls_le := hfit.totalRolls_le
  totalFumbles_le := by
    rw [hs.totalFumbles]
    exact List.countP_le_length.trans (hs.length_le hfit)
  totalCriticals_le := by
    rw [hs.totalCriticals]
    exact List.countP_le_length.trans (hs.length_le hfit)
  netSuccessSum_le := hfit.netSuccessSum_le
  le_currentStreak := hfit.le_currentStreak
  currentStreak_le := hfit.currentStreak_le
  longestLuckyStreak_le :=
    (le_length_of_mem_runLengths hs.longestLuckyStreak.1).trans (hs.length_le hfit)
  longestUnluckyStreak_le :=
    (le_length_of_mem_runLengths hs.longestUnluckyStreak.1).trans (hs.length_le hfit)

section Loaded

variable [TextForm Identifier] [TextForm Timestamp] (hid : ∀ id : Identifier, ReadsBack id)
  (htime : ∀ t : Timestamp, t.IsWholeSecond → ReadsBack t)

include hid htime

/-- Whatever a new history has recorded, it is read back while its counters fit. -/
theorem load_save_foldl_record (id : Identifier) {limit : Nat} (hlimit : limit ≤ uint64Max)
    (hlog : ∀ r ∈ log, r.Storable) (hfit : (log.foldl record (ofLimit id limit)).CountersFit) :
    load (log.foldl record (ofLimit id limit)).save =
      .ok (log.foldl record (ofLimit id limit)) := by
  have hs := summarizes_foldl_record id limit log
  refine load_save hid htime (hs.storable ?_ hlog hfit)
  rw [maxRecent_foldl_record]
  exact Nat.max_le.mpr ⟨hlimit, by decide⟩

/-- A history goes through any breaks unchanged while its counters fit. -/
theorem resumed_record (id : Identifier) {limit : Nat} (hlimit : limit ≤ uint64Max)
    (hlog : ∀ r ∈ log, r.Storable) {turns : List (Turn RollRecord)}
    (hturns : ∀ r ∈ requests turns, r.Storable)
    (hfits : ∀ before, before <+: requests turns →
      (before.foldl record (log.foldl record (ofLimit id limit))).CountersFit) :
    resumed record record (fun h => load h.save) (log.foldl record (ofLimit id limit)) turns =
      .ok (answers record record (log.foldl record (ofLimit id limit)) (requests turns),
        (requests turns).foldl record (log.foldl record (ofLimit id limit))) := by
  apply resumed_eq
  intro before hbefore
  -- A state on the way is the one that the longer log makes of the new history.
  have hwhole : ∀ r ∈ log ++ before, r.Storable :=
    List.forall_mem_append.mpr ⟨hlog, fun r hr => hturns r (hbefore.subset hr)⟩
  have hcounters := hfits before hbefore
  rw [← List.foldl_append] at hcounters ⊢
  exact load_save_foldl_record hid htime id hlimit hwhole hcounters

end Loaded

end RollHistory

/-! ### Every saved value -/

/-- What has been saved is loaded as it was. This holds of rolls, of contests, of outcomes, and of
records with a time in whole seconds, when their numbers fit the words they are stored in; it holds
of every state that an extended check reaches, and of every state that a history reaches before one
of its counters overflows. So a check or a history may be saved and loaded between any two of its
further requests, and neither the answers nor the last state show it. What a history answers is the
history after the record, from which all statistics are read. Identifiers and times may be written
in any form from which they are read back. -/
theorem saving_loses_nothing [TextForm Identifier] [TextForm Timestamp]
    (hid : ∀ id : Identifier, ReadsBack id)
    (htime : ∀ t : Timestamp, t.IsWholeSecond → ReadsBack t) :
    (∀ r : Roll, r.Storable → Roll.load r.save = .ok r) ∧
    (∀ c : Contest, c.Storable → Contest.load c.save = .ok c) ∧
    (∀ a b : Roll, a.Storable → b.Storable → (Contest.resolve a b).Storable) ∧
    (∀ o : Outcome, o.Storable → Outcome.load o.save = .ok o) ∧
    (∀ (r : Roll) (difficulty : Int), (Outcome.ofRoll r difficulty).Storable) ∧
    (∀ r : RollRecord, r.Storable → RollRecord.load r.save = .ok r) ∧
    (∀ (id : Identifier) (pool : Pool) (target maxRounds : Nat) (new : ExtendedCheck)
        (moves : List ExtendedCheck.Move),
      target ≤ uint32Max → maxRounds ≤ uint32Max →
      ExtendedCheck.start id pool target maxRounds = .ok new → (∀ m ∈ moves, m.Storable) →
      let c := new.run moves
      ExtendedCheck.load c.save = .ok c ∧
      ∀ turns : List (Turn ExtendedCheck.Move), (∀ m ∈ requests turns, m.Storable) →
        resumed ExtendedCheck.answer ExtendedCheck.move (fun c => ExtendedCheck.load c.save) c
            turns =
          .ok (answers ExtendedCheck.answer ExtendedCheck.move c (requests turns),
            c.run (requests turns))) ∧
    (∀ (id : Identifier) (limit : Nat) (log : List RollRecord),
      limit ≤ uint64Max → (∀ r ∈ log, r.Storable) →
      let h := log.foldl RollHistory.record (RollHistory.ofLimit id limit)
      h.CountersFit →
      RollHistory.load h.save = .ok h ∧
      ∀ turns : List (Turn RollRecord), (∀ r ∈ requests turns, r.Storable) →
        (∀ before, before <+: requests turns →
          (before.foldl RollHistory.record h).CountersFit) →
        resumed RollHistory.record RollHistory.record (fun h => RollHistory.load h.save) h turns =
          .ok (answers RollHistory.record RollHistory.record h (requests turns),
            (requests turns).foldl RollHistory.record h)) := by
  refine ⟨fun r => Roll.load_save, fun c => Contest.load_save, fun a b => Contest.Storable.resolve,
    fun o => Outcome.load_save, Outcome.storable_ofRoll, fun r => RollRecord.load_save hid htime,
    ?_, ?_⟩
  · intro id pool target maxRounds new moves htarget hrounds hstart hmoves c
    have hvalid : new.Valid := .start hrounds hstart
    have hc : c.Storable :=
      (ExtendedCheck.Storable.start htarget hrounds hstart).run hvalid hmoves
    exact ⟨ExtendedCheck.load_save hid hc,
      fun turns => ExtendedCheck.resumed_run hid hc (hvalid.run moves)⟩
  · intro id limit log hlimit hlog h hfit
    exact ⟨RollHistory.load_save_foldl_record hid htime id hlimit hlog hfit,
      fun turns => RollHistory.resumed_record hid htime id hlimit hlog⟩

/-- A check that is saved after a fumble and again before it is given up, and a history that is
saved with a streak behind it and drops a roll between two breaks. -/
theorem saving_loses_nothing_between_breaks :
    let pool : Pool := ⟨2, .d6, -1, some 1, by decide⟩
    let fumble := Roll.ofDice pool [⟨[1]⟩, ⟨[4]⟩] {}
    let exploded := Roll.ofDice pool [⟨[6, 6]⟩, ⟨[3]⟩] ⟨6, 1, 2⟩
    let check : ExtendedCheck := ⟨⟨7⟩, pool, 5, 4, 0, 0, .inProgress, []⟩
    let turns : List (Turn ExtendedCheck.Move) :=
      [.reload, .ask (.round exploded), .reload, .ask .abandon, .reload]
    let unlucky := RollRecord.ofRoll ⟨1⟩ fumble (some "lock") ⟨1714847400, 0⟩
    let lucky := RollRecord.ofRoll ⟨2⟩ exploded none ⟨-1, 0⟩
    let history := [unlucky, unlucky].foldl RollHistory.record (.ofLimit ⟨3⟩ 2)
    (∀ id : Identifier, ReadsBack id) ∧ (∀ t : Timestamp, t.IsWholeSecond → ReadsBack t) ∧
    Roll.load exploded.save = .ok exploded ∧
    RollRecord.load lucky.save = .ok lucky ∧
    resumed ExtendedCheck.answer ExtendedCheck.move (fun c => ExtendedCheck.load c.save)
        (check.run [.round fumble]) turns =
      .ok (answers ExtendedCheck.answer ExtendedCheck.move (check.run [.round fumble])
          [.round exploded, .abandon],
        check.run [.round fumble, .round exploded, .abandon]) ∧
    resumed RollHistory.record RollHistory.record (fun h => RollHistory.load h.save) history
        [.reload, .ask lucky, .reload] =
      .ok ([history.record lucky], history.record lucky) ∧
    (history.record lucky).recent = [unlucky, lucky] := by
  intro pool fumble exploded check turns unlucky lucky history
  have htime : ∀ t : Timestamp, t.IsWholeSecond → ReadsBack t := fun _ => Timestamp.readsBack
  obtain ⟨hroll, -, -, -, -, hrecord, hcheck, hhistory⟩ :=
    saving_loses_nothing Identifier.readsBack htime
  have hexploded : exploded.Storable := ⟨by decide, by decide, by decide, by decide⟩
  have hunlucky : unlucky.Storable := ⟨by decide, by decide, ⟨rfl, by decide, by decide⟩⟩
  have hlucky : lucky.Storable := ⟨by decide, by decide, ⟨rfl, by decide, by decide⟩⟩
  refine ⟨Identifier.readsBack, htime, hroll _ hexploded, hrecord _ hlucky, ?check, ?history,
    by decide⟩
  case check =>
    have hmoves : ∀ m ∈ [ExtendedCheck.Move.round fumble], m.Storable := by
      rw [List.forall_mem_singleton]
      exact Nat.zero_le _
    have hturns : ∀ m ∈ requests turns, m.Storable := by
      change ∀ m ∈ [ExtendedCheck.Move.round exploded, .abandon], m.Storable
      rw [List.forall_mem_cons, List.forall_mem_singleton]
      exact ⟨hexploded.netSuccesses_le, trivial⟩
    exact (hcheck ⟨7⟩ pool 5 4 check [.round fumble] (by decide) (by decide) rfl hmoves).2
      turns hturns
  case history =>
    have hlog : ∀ r ∈ [unlucky, unlucky], r.Storable := by simpa using hunlucky
    have hfits : ∀ before, before <+: [lucky] →
        (before.foldl RollHistory.record history).CountersFit := by
      intro before hbefore
      obtain rfl | ⟨_, rfl, hnil⟩ := List.prefix_cons_iff.mp hbefore
      · exact ⟨by decide, by decide, by decide, by decide⟩
      · obtain rfl := List.prefix_nil.mp hnil
        exact ⟨by decide, by decide, by decide, by decide⟩
    exact (hhistory ⟨3⟩ 2 [unlucky, unlucky] (by decide) hlog
      ⟨by decide, by decide, by decide, by decide⟩).2 [.reload, .ask lucky, .reload]
      (by simpa [requests, Turn.request?] using hlucky) hfits

end Tabletop
