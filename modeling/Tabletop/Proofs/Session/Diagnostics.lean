import Tabletop.Proofs.History.WholeLog
import Tabletop.Proofs.Session.Statistics

/-!
# The log and the statistics

A session tells of every kept roll twice: in the events of its log and in the totals of its history.
The events are chosen one after the other, a critical roll being told of only if it is no fumble,
while the history counts both flags for themselves. What is counted is nevertheless the same, since
no scored roll has both flags.

Any call adds events that tell of rolls exactly for the rolls that it keeps; a discarded roll, the
result of a check and a refused call add none of them. So the events of rolls that any calls leave
in the log are those of the kept rolls one after the other, and counting them is counting rolls.
-/

namespace Tabletop

/-! ### The events of a roll -/

namespace Event

/-- Whether the event is one of those that tell of a kept roll. -/
def isOfRoll : Event → Bool
  | rolled .. | exploded .. | fumble .. | critical .. => true
  | _ => false

/-- The messages of these events. -/
def rollMessages : List String :=
  ["Rolled dice pool", "Die exploded", "Fumble", "Critical success"]

/-- The number of explosions that the event tells of. -/
def explosions : Event → Nat
  | exploded _ _ explosions => explosions
  | _ => 0

/-- How many of the events have the message. -/
def count (text : String) (events : List Event) : Nat := events.countP (·.message == text)

/-- The number of explosions that the events tell of together. -/
def totalExplosions (events : List Event) : Nat := (events.map explosions).sum

variable {e : Event} {text : String} {events events' : List Event} {place : Nat}
  {dice : List DieRoll} {r : Roll} {context : Option String}

/-- No other event has one of these messages. -/
theorem isOfRoll_iff : e.isOfRoll = true ↔ e.message ∈ rollMessages := by
  cases e <;> simp [isOfRoll, rollMessages, message]

@[simp] theorem count_nil : count text [] = 0 := rfl

@[simp] theorem count_cons :
    count text (e :: events) = count text events + if e.message = text then 1 else 0 := by
  simp [count, List.countP_cons]

@[simp] theorem count_append :
    count text (events ++ events') = count text events + count text events' :=
  List.countP_append

@[simp] theorem totalExplosions_nil : totalExplosions [] = 0 := rfl

@[simp] theorem totalExplosions_cons :
    totalExplosions (e :: events) = e.explosions + totalExplosions events :=
  List.sum_cons

@[simp] theorem totalExplosions_append :
    totalExplosions (events ++ events') = totalExplosions events + totalExplosions events' := by
  simp [totalExplosions]

/-- An explosion that is told of belongs to the die at its place, which shows more than one face. -/
theorem exists_die_of_mem (h : e ∈ ofExplosions place dice) :
    ∃ i d, dice[i]? = some d ∧ 0 < d.explosions ∧
      e = exploded (place + i) d.faces d.explosions := by
  induction dice generalizing place with
  | nil => cases h
  | cons d dice ih =>
    have hrest (h : e ∈ ofExplosions (place + 1) dice) :
        ∃ i d', (d :: dice)[i]? = some d' ∧ 0 < d'.explosions ∧
          e = exploded (place + i) d'.faces d'.explosions := by
      obtain ⟨i, d', hd', hpos, rfl⟩ := ih h
      exact ⟨i + 1, d', hd', hpos, by rw [Nat.add_right_comm, Nat.add_assoc]⟩
    unfold ofExplosions at h
    split at h
    · next hpos =>
      rcases List.mem_cons.mp h with rfl | h
      · exact ⟨0, d, rfl, hpos, rfl⟩
      · exact hrest h
    · exact hrest h

theorem totalExplosions_ofExplosions (place : Nat) (dice : List DieRoll) :
    totalExplosions (ofExplosions place dice) =
      dice.foldr (fun d sum => d.explosions + sum) 0 := by
  induction dice generalizing place with
  | nil => rfl
  | cons d dice ih =>
    unfold ofExplosions
    split
    · simp [explosions, ih]
    · next hpos => simp [ih, Nat.eq_zero_of_not_pos hpos]

theorem count_ofExplosions (h : "Die exploded" ≠ text) :
    count text (ofExplosions place dice) = 0 := by
  rw [count, List.countP_eq_zero]
  intro e he
  obtain ⟨i, d, -, -, rfl⟩ := exists_die_of_mem he
  simpa [message] using h

theorem isOfRoll_of_mem_ofRoll (h : e ∈ ofRoll r context) : e.isOfRoll = true := by
  simp only [ofRoll, List.mem_cons, List.mem_append] at h
  rcases h with (rfl | h) | h
  · rfl
  · obtain ⟨i, d, -, -, rfl⟩ := exists_die_of_mem h
    rfl
  · split at h
    · rw [List.mem_singleton.mp h]; rfl
    · split at h
      · rw [List.mem_singleton.mp h]; rfl
      · cases h

theorem exploded_mem_ofRoll {die n : Nat} {faces : List Nat}
    (h : exploded die faces n ∈ ofRoll r context) :
    exploded die faces n ∈ ofExplosions 0 r.dice := by
  cases hfumble : r.isFumble <;> cases hcritical : r.isCritical <;>
    simpa [ofRoll, hfumble, hcritical] using h

theorem count_rolled_ofRoll : count "Rolled dice pool" (ofRoll r context) = 1 := by
  cases hfumble : r.isFumble <;> cases hcritical : r.isCritical <;>
    simp [ofRoll, count_ofExplosions, hfumble, hcritical, message]

theorem count_fumble_ofRoll : count "Fumble" (ofRoll r context) = r.isFumble.toNat := by
  cases hfumble : r.isFumble <;> cases hcritical : r.isCritical <;>
    simp [ofRoll, count_ofExplosions, hfumble, hcritical, message]

/-- A fumble is never told to be critical. -/
theorem count_critical_ofRoll :
    count "Critical success" (ofRoll r context) = (!r.isFumble && r.isCritical).toNat := by
  cases hfumble : r.isFumble <;> cases hcritical : r.isCritical <;>
    simp [ofRoll, count_ofExplosions, hfumble, hcritical, message]

/-- The two flags of a scored roll exclude each other, so that every critical one is told of. -/
theorem count_critical_ofRoll_of_isScored {c : Convention} (hr : r.IsScored c) :
    count "Critical success" (ofRoll r context) = r.isCritical.toNat := by
  have hboth := hr.not_fumble_and_critical
  rw [count_critical_ofRoll]
  cases hfumble : r.isFumble with
  | false => rfl
  | true =>
    have hcritical : r.isCritical = false := Bool.eq_false_iff.mpr fun h => hboth ⟨hfumble, h⟩
    rw [hcritical]
    rfl

theorem totalExplosions_ofRoll : totalExplosions (ofRoll r context) = r.explosionCount := by
  cases hfumble : r.isFumble <;> cases hcritical : r.isCritical <;>
    simp [ofRoll, totalExplosions_ofExplosions, hfumble, hcritical, explosions, Roll.explosionCount]

end Event

/-- The events of a roll that was kept. -/
def KeptRoll.events (x : KeptRoll) : List Event := Event.ofRoll x.roll x.context

namespace Session

variable {σ κ : Type} {s s' s'' : Session σ κ} {kept kept' : List KeptRoll} {events : List Event}

/-! ### What is told of rolls -/

/-- Between two states of a session events were logged, and those of them that tell of rolls are
just the events of the rolls that were kept, in their order. -/
def Tells (s : Session σ κ) (kept : List KeptRoll) (s' : Session σ κ) : Prop :=
  ∃ told, s'.events = s.events ++ told ∧
    told.filter Event.isOfRoll = kept.flatMap KeptRoll.events

theorem Tells.refl (s : Session σ κ) : Tells s [] s := ⟨[], by simp, rfl⟩

theorem Tells.trans (h : Tells s kept s') (h' : Tells s' kept' s'') :
    Tells s (kept ++ kept') s'' := by
  obtain ⟨told, hevents, htold⟩ := h
  obtain ⟨told', hevents', htold'⟩ := h'
  refine ⟨told ++ told', ?_, ?_⟩
  · rw [hevents', hevents, List.append_assoc]
  · rw [List.filter_append, List.flatMap_append, htold, htold']

/-- Events that tell of no roll may be added. -/
theorem Tells.log (h : Tells s kept s') (hquiet : ∀ e ∈ events, e.isOfRoll = false) :
    Tells s kept (s'.log events) := by
  obtain ⟨told, hevents, htold⟩ := h
  have hnone : events.filter Event.isOfRoll = [] := by simpa using hquiet
  refine ⟨told ++ events, ?_, ?_⟩
  · rw [Session.log, hevents, List.append_assoc]
  · rw [List.filter_append, hnone, List.append_nil, htold]

theorem tells_startExtended (s : Session σ κ) (text : String) (target : Nat)
    (maxRounds : Option Nat) : Tells s [] (s.startExtended text target maxRounds).2 := by
  unfold startExtended
  split
  · exact .refl s
  · dsimp only
    split
    · exact .refl s
    · have hidentified : Tells s [] { s with supply := s.supply.fresh.2 } := Tells.refl s
      exact hidentified.log (by simp [Event.isOfRoll])

theorem tells_abandonExtended (s : Session σ κ) (c : ExtendedCheck) :
    Tells s [] (s.abandonExtended c).2 := by
  unfold abandonExtended
  split
  · exact .refl s
  · exact (Tells.refl s).log (by simp [Event.isOfRoll])

theorem isOfRoll_of_mem_roundEvents {c : ExtendedCheck} {r : Roll} :
    ∀ e ∈ roundEvents c r, e.isOfRoll = false := by
  unfold roundEvents
  split <;> simp [Event.isOfRoll]

section Rolls

variable [Clock κ]

theorem tells_keep (s : Session σ κ) (r : Roll) (context : Option String) :
    Tells s [⟨r, context⟩] (s.keep r context) := by
  refine ⟨Event.ofRoll r context, rfl, ?_⟩
  simpa [KeptRoll.events] using fun e he => Event.isOfRoll_of_mem_ofRoll he

variable [Source σ]

/-- That two rolls were made is told, but of the roll that is not kept nothing else. -/
theorem tells_rollPoolWith (s : Session σ κ) (pool : Pool) (mode : RollMode)
    (context : Option String) :
    Tells s [⟨(s.rollPoolWith pool mode context).1.kept, context⟩]
      (s.rollPoolWith pool mode context).2 := by
  let rolled := pool.rollWith mode s.convention s.source
  have hquiet : ∀ e ∈ twiceEvents pool rolled.1, e.isOfRoll = false := by
    unfold twiceEvents
    split <;> simp [Event.isOfRoll]
  have hrolled : Tells s [] { s with source := rolled.2 } := Tells.refl s
  exact (hrolled.log hquiet).trans (tells_keep _ rolled.1.kept context)

theorem tells_rollPool (s : Session σ κ) (pool : Pool) (context : Option String) :
    Tells s [⟨(s.rollPool pool context).1, context⟩] (s.rollPool pool context).2 := by
  have h := s.tells_rollPoolWith pool .normal context
  rw [rollPoolWith_normal] at h
  exact h

end Rolls

end Session

/-- Replies without rolls leave nothing that was kept, whether the call is granted or not. -/
theorem Call.kept_answer {σ κ α : Type} {reply : α → Reply} (h : ∀ a, (reply a).kept = [])
    (c : Call) (result : Except SessionError α × Session σ κ) :
    c.kept (Call.answer reply result).1 = [] := by
  obtain ⟨_ | a, s⟩ := result
  · rfl
  · simp [Call.answer, Except.map, Call.kept, h]

namespace Game

variable {σ κ : Type} [Source σ] [Clock κ]

/-- A call that is granted tells of the rolls that it keeps, and one that is refused of none. -/
theorem tells_call (g : Game σ κ) (c : Call) :
    g.session.Tells (c.kept (g.call c).1) (g.call c).2.session := by
  by_cases hvalid : c.IsValid g.checks
  · cases c with
    | roll text context =>
      obtain ⟨pool, hparse⟩ := hvalid
      simp only [call, Call.ask, Session.roll_of_parse hparse]
      exact g.session.tells_rollPool pool context
    | rollPool pool context => exact g.session.tells_rollPool pool context
    | rollWith text mode context =>
      obtain ⟨pool, hparse⟩ := hvalid
      simp only [call, Call.ask, Session.rollWith_of_parse hparse]
      exact g.session.tells_rollPoolWith pool mode context
    | rollPoolWith pool mode context => exact g.session.tells_rollPoolWith pool mode context
    | check text difficulty context =>
      obtain ⟨pool, hparse⟩ := hvalid
      simp only [call, Call.ask, Session.check_of_parse hparse]
      exact (g.session.tells_rollPoolWith pool .normal context).log (by simp [Event.isOfRoll])
    | checkWith text difficulty mode context =>
      obtain ⟨pool, hparse⟩ := hvalid
      simp only [call, Call.ask, Session.check_of_parse hparse]
      exact (g.session.tells_rollPoolWith pool mode context).log (by simp [Event.isOfRoll])
    | contest initiator defender context =>
      obtain ⟨⟨first, hfirst⟩, second, hsecond⟩ := hvalid
      simp only [call, Call.ask, Session.contest_of_parse hfirst hsecond]
      have hrolls := (g.session.tells_rollPool first context).trans
        ((g.session.rollPool first context).2.tells_rollPool second context)
      exact hrolls.log (by simp [Event.isOfRoll])
    | start place text target maxRounds =>
      have hkept : Call.kept (.start place text target maxRounds)
          (g.call (.start place text target maxRounds)).1 = [] :=
        Call.kept_answer (fun _ => rfl) _ _
      rw [hkept]
      exact g.session.tells_startExtended text target maxRounds
    | round place mode context =>
      have hactive : (g.checks place).isActive = true := CheckStatus.isActive_iff.mpr hvalid
      simp only [call, Call.ask, Session.extendedRound_of_active hactive]
      exact (g.session.tells_rollPoolWith (g.checks place).pool mode context).log
        Session.isOfRoll_of_mem_roundEvents
    | abandon place =>
      have hkept : Call.kept (.abandon place) (g.call (.abandon place)).1 = [] :=
        Call.kept_answer (fun _ => rfl) _ _
      rw [hkept]
      exact g.session.tells_abandonExtended (g.checks place)
  · -- A call that is not valid is refused, and a refused call changes nothing.
    cases hanswer : (g.call c).1 with
    | error e =>
      rw [(call_of_error hanswer).2]
      exact .refl g.session
    | ok reply => exact absurd ((g.exists_call_eq_ok_iff c).mp ⟨reply, hanswer⟩) hvalid

/-- Any calls, one after the other. -/
theorem tells_run (g : Game σ κ) (calls : List Call) :
    g.session.Tells (g.keptRolls calls) (g.run calls).session := by
  induction calls generalizing g with
  | nil => exact .refl g.session
  | cons c calls ih => exact (g.tells_call c).trans (ih (g.call c).2)

end Game

/-! ### Counting -/

/-- What is counted of the records is counted of the rolls that they were made of. -/
theorem Stamped.countP_eq {κ : Type} [Clock κ] {k k' : κ} {kept : List KeptRoll}
    {records : List RollRecord} {p : RollRecord → Bool} {q : KeptRoll → Bool}
    (h : Stamped k kept records k')
    (hpq : ∀ id x time, p (.ofRoll id x.roll x.context time) = q x) :
    records.countP p = kept.countP q := by
  induction h with
  | nil => rfl
  | cons hx _ ih =>
    obtain ⟨id, rfl⟩ := RollRecord.describes_iff.mp hx
    rw [List.countP_cons, List.countP_cons, ih, hpq]

namespace Event

variable {e : Event} {text : String} {told : List Event} {kept : List KeptRoll}

theorem explosions_of_not_isOfRoll (h : e.isOfRoll = false) : e.explosions = 0 := by
  cases e with
  | exploded => cases h
  | _ => rfl

theorem totalExplosions_filter (told : List Event) :
    totalExplosions (told.filter isOfRoll) = totalExplosions told := by
  induction told with
  | nil => rfl
  | cons e told ih =>
    cases h : e.isOfRoll with
    | true => simp [h, ih]
    | false => simp [h, ih, explosions_of_not_isOfRoll h]

theorem count_flatMap_events {q : KeptRoll → Bool}
    (h : ∀ x ∈ kept, count text x.events = (q x).toNat) :
    count text (kept.flatMap KeptRoll.events) = kept.countP q := by
  induction kept with
  | nil => rfl
  | cons x kept ih =>
    have hfirst := h x List.mem_cons_self
    have hrest := ih fun y hy => h y (List.mem_cons_of_mem x hy)
    rw [List.flatMap_cons, count_append, hfirst, hrest, List.countP_cons]
    cases q x <;> simp [Nat.add_comm]

/-- A message that only the events of rolls have is counted in the rolls. -/
theorem count_eq_countP (htold : told.filter isOfRoll = kept.flatMap KeptRoll.events)
    (htext : text ∈ rollMessages) {q : KeptRoll → Bool}
    (h : ∀ x ∈ kept, count text x.events = (q x).toNat) : count text told = kept.countP q := by
  have hroll (e : Event) (he : e.message = text) : e.isOfRoll = true :=
    isOfRoll_iff.mpr (he ▸ htext)
  -- Leaving the other events out removes none that has the message.
  have hfilter : count text (told.filter isOfRoll) = count text told := by
    rw [count, List.countP_filter, count]
    exact List.countP_congr fun e _ => by simpa using hroll e
  rw [← hfilter, htold, count_flatMap_events h]

theorem totalExplosions_eq_sum (htold : told.filter isOfRoll = kept.flatMap KeptRoll.events) :
    totalExplosions told = (kept.map (·.roll.explosionCount)).sum := by
  rw [← totalExplosions_filter, htold]
  clear htold
  -- What is left is about the kept rolls alone.
  induction kept with
  | nil => rfl
  | cons x kept ih => simp [KeptRoll.events, totalExplosions_ofRoll, ih]

/-- An explosion that is told of belongs to a die of a kept roll. -/
theorem exists_kept_of_exploded_mem (htold : told.filter isOfRoll = kept.flatMap KeptRoll.events)
    {die n : Nat} {faces : List Nat} (h : exploded die faces n ∈ told) :
    ∃ x ∈ kept, x.roll.dice[die]? = some ⟨faces⟩ ∧ n + 1 = faces.length ∧ 1 < faces.length := by
  have hkept : exploded die faces n ∈ kept.flatMap KeptRoll.events :=
    htold ▸ List.mem_filter.mpr ⟨h, rfl⟩
  obtain ⟨x, hx, hmem⟩ := List.mem_flatMap.mp hkept
  obtain ⟨i, d, hd, hpos, heq⟩ := exists_die_of_mem (exploded_mem_ofRoll hmem)
  obtain ⟨hi, hfaces, hn⟩ := exploded.inj heq
  rw [Nat.zero_add] at hi
  subst hi hfaces hn
  refine ⟨x, hx, hd, ?_, ?_⟩
  all_goals
    unfold DieRoll.explosions at *
    omega

end Event

/-- From an empty history, under any convention and with any source, the log and the history agree
after any calls: on the number of rolls, of fumbles and of critical rolls. The explosions in the log
are those of the kept rolls, each of them told of a die that shows more than one face. -/
theorem Game.events_count_rolls {σ κ : Type} [Source σ] [Clock κ] (s : Session σ κ)
    (id : Identifier) (limit : Nat) (checks : Nat → ExtendedCheck) (calls : List Call) :
    let g : Game σ κ := ⟨{ s with history := .ofLimit id limit }, checks⟩
    let history := (g.run calls).session.history
    ∃ told, (g.run calls).session.events = s.events ++ told ∧
      Event.count "Rolled dice pool" told = history.totalRolls ∧
      Event.count "Fumble" told = history.totalFumbles ∧
      Event.count "Critical success" told = history.totalCriticals ∧
      Event.totalExplosions told = ((g.keptRolls calls).map (·.roll.explosionCount)).sum ∧
      ∀ die faces n, .exploded die faces n ∈ told → ∃ x ∈ g.keptRolls calls,
        x.roll.dice[die]? = some ⟨faces⟩ ∧ n + 1 = faces.length ∧ 1 < faces.length := by
  intro g history
  -- The log and the history both follow the list of kept rolls, on which they are compared.
  obtain ⟨told, hevents, htold⟩ := g.tells_run calls
  obtain ⟨records, hstamped, hhistory⟩ := g.records_run calls
  have hsummary : history.Summarizes records := by
    rw [show history = _ from hhistory]
    exact RollHistory.summarizes_foldl_record id limit records
  have hscored := g.isScored_of_mem_keptRolls calls
  refine ⟨told, hevents, ?_, ?_, ?_, Event.totalExplosions_eq_sum htold,
    fun die faces n => Event.exists_kept_of_exploded_mem htold⟩
  · have hrolls : records.countP (fun _ => true) = (g.keptRolls calls).countP (fun _ => true) :=
      hstamped.countP_eq fun _ _ _ => rfl
    rw [List.countP_true] at hrolls
    rw [hsummary.totalRolls, hrolls]
    exact Event.count_eq_countP htold (by decide) fun x _ => Event.count_rolled_ofRoll
  · rw [hsummary.totalFumbles, hstamped.countP_eq fun _ _ _ => rfl]
    exact Event.count_eq_countP htold (by decide) fun x _ => Event.count_fumble_ofRoll
  · -- Only here does it matter how the rolls were scored.
    rw [hsummary.totalCriticals, hstamped.countP_eq fun _ _ _ => rfl]
    exact Event.count_eq_countP htold (by decide) fun x hx =>
      Event.count_critical_ofRoll_of_isScored (hscored x hx)

end Tabletop
