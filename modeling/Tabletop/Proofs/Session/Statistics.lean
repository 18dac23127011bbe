import Tabletop.Proofs.History.WholeLog
import Tabletop.Proofs.Rolling.Advantage
import Tabletop.Proofs.Session.Ledger
import Tabletop.Proofs.Settings.Reading
import Tabletop.Random.Scripted

/-!
# From settings to statistics

The settings of a session decide what its statistics can be. Settings that are accepted ask for at
least one net success before a roll is critical, so that a critical roll is a lucky one, and a
fumble, which has no net successes, is none. Every roll that a session keeps is scored under the
convention of its settings, and its record repeats that score; the totals of the history count each
record once. So fumbles and critical rolls are told apart in the totals too, and each critical roll
brings its threshold to the sum of the net successes.

None of this depends on the other two thresholds. With a botch face at or above the success
threshold no roll is a fumble, and what is said of fumbles holds of none.
-/

namespace Tabletop

/-! ### Scored rolls -/

/-- The score of the roll is the one that the convention gives its dice. -/
def Roll.IsScored (c : Convention) (r : Roll) : Prop := r = .ofDice r.pool r.dice c

/-- A scored roll is never a fumble and critical at once. -/
theorem Roll.IsScored.not_fumble_and_critical {c : Convention} {r : Roll} (hr : r.IsScored c) :
    ¬ (r.isFumble = true ∧ r.isCritical = true) := by
  rw [hr]
  exact ofDice_not_fumble_and_critical r.pool r.dice c

theorem Pool.isScored_roll {σ : Type} [Source σ] (p : Pool) (c : Convention) (s : σ) :
    (p.roll c s).1.IsScored c := rfl

/-- Of two rolls either one may be kept, and both are scored. -/
theorem Pool.isScored_rollWith {σ : Type} [Source σ] (p : Pool) (mode : RollMode) (c : Convention)
    (s : σ) : (p.rollWith mode c s).1.kept.IsScored c := by
  have hmem : (p.rollWith mode c s).1.kept ∈ (p.rollWith mode c s).1.rolls := List.mem_cons_self
  obtain ⟨s', hkept⟩ := p.exists_roll_of_mem_rolls hmem
  rw [hkept]
  exact p.isScored_roll c s'

section Rolled

variable {σ κ : Type} [Source σ] [Clock κ]

/-- Every roll that is kept is scored under the convention that it is rolled under. -/
theorem isScored_of_mem_rollThrows (c : Convention) (throws : List Throw) (source : σ) :
    ∀ x ∈ (rollThrows c throws source).1, x.roll.IsScored c := by
  induction throws generalizing source with
  | nil => exact fun x hx => by cases hx
  | cons t throws ih =>
    intro x hx
    rcases List.mem_cons.mp hx with rfl | hx
    · exact t.pool.isScored_rollWith t.mode c source
    · exact ih (t.roll c source).2 x hx

/-- Whatever calls keep is scored under the convention of the session. -/
theorem Game.isScored_of_mem_keptRolls (g : Game σ κ) (calls : List Call) :
    ∀ x ∈ g.keptRolls calls, x.roll.IsScored g.session.convention := by
  rw [g.keptRolls_eq calls]
  exact isScored_of_mem_rollThrows _ _ _

end Rolled

/-! ### Consistent records -/

/-- The flags of the record fit its net successes: it is not a fumble and critical at once, a fumble
is unlucky without net successes, and a critical roll is lucky and reaches the threshold. -/
structure RollRecord.Consistent (threshold : Nat) (x : RollRecord) : Prop where
  not_both : ¬ (x.isFumble = true ∧ x.isCritical = true)
  of_fumble (h : x.isFumble = true) : x.netSuccesses = 0 ∧ x.isLucky = false
  of_critical (h : x.isCritical = true) : threshold ≤ x.netSuccesses ∧ x.isLucky = true

namespace RollRecord

variable {threshold : Nat} {x : RollRecord}

/-- A consistent record counts for one of the two flags at most. -/
theorem Consistent.toNat_add_toNat_le (hx : x.Consistent threshold) :
    x.isFumble.toNat + x.isCritical.toNat ≤ 1 := by
  have hboth := hx.not_both
  cases hfumble : x.isFumble with
  | false => exact (Nat.zero_add _).trans_le x.isCritical.toNat_le
  | true =>
    have hcritical : x.isCritical = false := Bool.eq_false_iff.mpr fun h => hboth ⟨hfumble, h⟩
    rw [hcritical]
    exact Nat.le_refl 1

/-- A consistent record brings the threshold to the sum when it is counted as critical. -/
theorem Consistent.mul_toNat_le (hx : x.Consistent threshold) :
    threshold * x.isCritical.toNat ≤ x.netSuccesses := by
  cases hcritical : x.isCritical with
  | false => exact Nat.zero_le _
  | true => exact (Nat.mul_one threshold).trans_le (hx.of_critical hcritical).1

end RollRecord

/-- A scored roll is recorded consistently, if it needs a net success to be critical. -/
theorem RollRecord.consistent_ofRoll {c : Convention} {r : Roll} (hr : r.IsScored c)
    (hpos : 0 < c.criticalThreshold) (id : Identifier) (context : Option String)
    (time : Timestamp) : (ofRoll id r context time).Consistent c.criticalThreshold where
  not_both := hr.not_fumble_and_critical
  of_fumble h := by
    rw [hr] at h ⊢
    have hnet := Roll.netSuccesses_eq_zero_of_isFumble r.pool r.dice c h
    exact ⟨hnet, decide_eq_false (Nat.not_lt.mpr hnet.le)⟩
  of_critical h := by
    rw [hr] at h ⊢
    have hnet := Roll.criticalThreshold_le_of_isCritical r.pool r.dice c h
    exact ⟨hnet, decide_eq_true (hpos.trans_le hnet)⟩

/-- What holds of the record of each kept roll holds of all records that were made of them. -/
theorem Stamped.forall_mem {κ : Type} [Clock κ] {k k' : κ} {kept : List KeptRoll}
    {records : List RollRecord} {P : RollRecord → Prop} (h : Stamped k kept records k')
    (hP : ∀ x ∈ kept, ∀ id time, P (.ofRoll id x.roll x.context time)) : ∀ r ∈ records, P r := by
  induction h with
  | nil => exact fun r hr => by cases hr
  | @cons _ _ x kept record records hx _ ih =>
    intro r hr
    rcases List.mem_cons.mp hr with rfl | hr
    · obtain ⟨id, rfl⟩ := RollRecord.describes_iff.mp hx
      exact hP x List.mem_cons_self id _
    · exact ih (fun y hy => hP y (List.mem_cons_of_mem x hy)) r hr

/-! ### Consistent histories -/

namespace RollHistory

variable {threshold : Nat} {h : RollHistory} {r : RollRecord}

/-- The kept rolls of the history are consistent, no roll was counted both as a fumble and as
critical, and every critical one has added the threshold to the sum of the net successes. -/
structure Consistent (threshold : Nat) (h : RollHistory) : Prop where
  recent : ∀ r ∈ h.recent, r.Consistent threshold
  fumbles_add_criticals_le : h.totalFumbles + h.totalCriticals ≤ h.totalRolls
  mul_criticals_le : threshold * h.totalCriticals ≤ h.netSuccessSum

theorem Consistent.ofLimit (threshold : Nat) (id : Identifier) (limit : Nat) :
    (ofLimit id limit).Consistent threshold where
  recent _ hr := by cases hr
  fumbles_add_criticals_le := Nat.le_refl 0
  mul_criticals_le := Nat.le_refl 0

/-- A consistent record keeps a history consistent. -/
theorem Consistent.record (hh : h.Consistent threshold) (hr : r.Consistent threshold) :
    (h.record r).Consistent threshold where
  recent x hx := by
    rw [recent_record] at hx
    rcases List.mem_append.mp ((keepLast_suffix _ _).subset hx) with hold | hnew
    · exact hh.recent x hold
    · exact List.mem_singleton.mp hnew ▸ hr
  fumbles_add_criticals_le := by
    have hold := hh.fumbles_add_criticals_le
    have hnew := hr.toNat_add_toNat_le
    rw [totalFumbles_record, totalCriticals_record, totalRolls_record]
    omega
  mul_criticals_le := by
    rw [totalCriticals_record, netSuccessSum_record, Nat.mul_add]
    exact Nat.add_le_add hh.mul_criticals_le hr.mul_toNat_le

theorem Consistent.foldl_record {log : List RollRecord} (hh : h.Consistent threshold)
    (hlog : ∀ r ∈ log, r.Consistent threshold) :
    (log.foldl RollHistory.record h).Consistent threshold := by
  induction log generalizing h with
  | nil => exact hh
  | cons r log ih =>
    have hr := hlog r List.mem_cons_self
    exact ih (hh.record hr) fun x hx => hlog x (List.mem_cons_of_mem r hx)

end RollHistory

/-! ### Sessions under accepted settings -/

/-- What accepted settings promise of a session, whatever its source answers and whatever it is
called for. The threshold of critical rolls is positive. The history is the one that the records of
the kept rolls make of an empty one, and in each record, whether the history still keeps it or not,
the two flags exclude each other, a fumble is unlucky without net successes, and a critical roll is
lucky and reaches the threshold. So fumbles and critical rolls together are no more than the rolls,
and the net successes add up to the threshold at least for every critical roll. -/
theorem Game.statistics_of_read {σ κ : Type} [Source σ] [Clock κ] {env : Environment}
    {settings : Settings} (h : (Settings.read env).1 = .ok settings) (source : σ) (clock : κ)
    (checks : Nat → ExtendedCheck) (calls : List Call) :
    let g : Game σ κ := ⟨.start settings source clock, checks⟩
    let threshold := settings.convention.criticalThreshold
    let history := (g.run calls).session.history
    1 ≤ threshold ∧
    (∃ records,
      Stamped clock (g.keptRolls calls) records (g.run calls).session.clock ∧
      history = records.foldl RollHistory.record g.session.history ∧
      ∀ r ∈ records,
        ¬ (r.isFumble = true ∧ r.isCritical = true) ∧
        (r.isFumble = true → r.netSuccesses = 0 ∧ r.isLucky = false) ∧
        (r.isCritical = true → threshold ≤ r.netSuccesses ∧ r.isLucky = true)) ∧
    history.totalFumbles + history.totalCriticals ≤ history.totalRolls ∧
    threshold * history.totalCriticals ≤ history.netSuccessSum := by
  intro g threshold history
  have hpos : 0 < threshold :=
    (Settings.readConvention_pos (Settings.readConvention_of_read h)).2.2
  have hscored := g.isScored_of_mem_keptRolls calls
  obtain ⟨records, hstamped, hhistory⟩ := g.records_run calls
  have hrecords : ∀ r ∈ records, r.Consistent threshold :=
    hstamped.forall_mem fun x hx id time =>
      RollRecord.consistent_ofRoll (hscored x hx) hpos id x.context time
  have hconsistent : history.Consistent threshold := by
    have hstart : g.session.history.Consistent threshold := .ofLimit threshold _ _
    rw [show history = _ from hhistory]
    exact hstart.foldl_record hrecords
  refine ⟨hpos, ⟨records, hstamped, hhistory, fun r hr => ?_⟩,
    hconsistent.fumbles_add_criticals_le, hconsistent.mul_criticals_le⟩
  have hr := hrecords r hr
  exact ⟨hr.not_both, hr.of_fumble, hr.of_critical⟩

/-- Both bounds are reached. Of two rolls one is a fumble, and the other is critical with just the
two net successes that the environment asks for. -/
theorem Game.statistics_of_read_reached :
    let env : Environment := fun key =>
      if key = Setting.criticalThreshold.key then some " +2 " else none
    let settings : Settings := { convention := ⟨8, 1, 2⟩ }
    let pool : Pool := ⟨2, .d10, 0, none, by decide⟩
    let g : Game Scripted SteadyClock :=
      ⟨.start settings ⟨[1, 5, 10, 8], []⟩ ⟨⟨0, 0⟩, 60⟩,
        fun _ => ⟨⟨0⟩, pool, 1, 1, 0, 0, .inProgress, []⟩⟩
    let history := (g.run [.rollPool pool none, .round 0 .normal none]).session.history
    (Settings.read env).1 = .ok settings ∧
    history.totalFumbles = 1 ∧ history.totalCriticals = 1 ∧
    1 + 1 ≤ history.totalRolls ∧ 2 * 1 ≤ history.netSuccessSum ∧
    history.totalRolls = 2 ∧ history.netSuccessSum = 2 := by
  intro env settings pool g history
  have hread : (Settings.read env).1 = .ok settings := by decide
  obtain ⟨-, -, hcount, hsum⟩ := statistics_of_read hread (⟨[1, 5, 10, 8], []⟩ : Scripted)
    (⟨⟨0, 0⟩, 60⟩ : SteadyClock) g.checks [.rollPool pool none, .round 0 .normal none]
  exact ⟨hread, by decide, by decide, hcount, hsum, by decide, by decide⟩

end Tabletop
