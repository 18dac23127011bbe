import Tabletop.Proofs.Rolling.Advantage
import Tabletop.Proofs.Scoring.Faces
import Tabletop.Proofs.Settings.Reading
import Tabletop.Random.Scripted

/-!
# Rolls that can never botch

Reading the settings warns of a convention when its botch face is not below its success threshold.
A face is a success before it can be a botch, so that no face from the threshold on is one. The
botch face, a number that a die may show, is then a botch just when it lies below the threshold, and
the warning is given exactly when no face is a botch. Whatever is rolled under such a convention has
no botches. A fumble takes one, and only a fumble is classified as a critical failure.

The warning depends on the thresholds alone. It is given as soon as they are read, and it stands
when a later variable is rejected.
-/

namespace Tabletop

/-! ### Conventions without botches -/

/-- Where the botch face is within a bound, the faces up to this bound show whether there are
botches. -/
theorem Convention.forall_score_ne_neg_one_iff {c : Convention} {bound : Nat}
    (h : c.botchFace ≤ bound) :
    (∀ face ≤ bound, c.score face ≠ -1) ↔ c.successThreshold ≤ c.botchFace := by
  simp only [ne_eq, score_eq_neg_one_iff, not_and, Nat.not_lt]
  constructor
  · exact fun hnone => hnone c.botchFace h rfl
  · rintro hle face - rfl
    exact hle

section Rolls

variable {pool : Pool} {dice : List DieRoll} {c : Convention}

theorem Roll.botches_ofDice_eq_zero (h : c.successThreshold ≤ c.botchFace) :
    (ofDice pool dice c).botches = 0 := by
  -- No face is counted, so that it does not matter how many the counter holds.
  have hnone : (allFaces dice).countP (c.score · == -1) = 0 := by
    rw [List.countP_eq_zero]
    intro face _ hbotch
    obtain ⟨rfl, hlt⟩ := Convention.score_eq_neg_one_iff.mp (beq_iff_eq.mp hbotch)
    exact absurd hlt (Nat.not_lt.mpr h)
  rw [ofDice_botches, tally_eq, hnone]

/-- A fumble takes a botch. -/
theorem Roll.isFumble_ofDice_eq_false (h : (ofDice pool dice c).botches = 0) :
    (ofDice pool dice c).isFumble = false := by
  rw [← Bool.not_eq_true, isFumble_ofDice_iff, h]
  exact fun hfumble => absurd hfumble.2 (Nat.lt_irrefl 0)

/-- Under a convention without botches no pool rolls any, whatever the source answers. -/
theorem Pool.roll_without_botches {σ : Type} [Source σ] (p : Pool)
    (h : c.successThreshold ≤ c.botchFace) (s : σ) :
    (p.roll c s).1.botches = 0 ∧ (p.roll c s).1.isFumble = false := by
  have hbotches : (p.roll c s).1.botches = 0 := Roll.botches_ofDice_eq_zero h
  exact ⟨hbotches, Roll.isFumble_ofDice_eq_false hbotches⟩

end Rolls

theorem OutcomeTier.ofMargin_ne_criticalFailure (margin : Int) :
    ofMargin margin ≠ .criticalFailure := by
  intro h
  have habove := criticalFailure_lt_ofMargin margin
  rw [h] at habove
  exact absurd habove (by decide)

/-- Only a fumble is a critical failure. -/
theorem Outcome.tier_ofRoll_ne_criticalFailure {r : Roll} (h : r.isFumble = false)
    (difficulty : Int) : (ofRoll r difficulty).tier ≠ .criticalFailure := by
  rw [ofRoll_tier difficulty h]
  exact OutcomeTier.ofMargin_ne_criticalFailure _

/-! ### The warning -/

/-- The message of the warning that rolls can never botch. -/
def Event.noBotchesMessage : String :=
  "Botch face is scored as a success, so rolls can never botch"

namespace Settings

variable {env : Environment} {c : Convention} {e : Event}

/-- The warning that rolls can never botch is given while the environment is read. -/
def WarnsOfNoBotches (env : Environment) : Prop :=
  ∃ e ∈ (read env).2, e.message = Event.noBotchesMessage

/-- What is warned of after the convention has been read is the history limit. -/
theorem message_of_mem_readRest (h : e ∈ (readRest env c).2) :
    e.message ≠ Event.noBotchesMessage := by
  unfold readRest at h
  split at h
  · cases h
  · split at h
    · cases h
    · obtain rfl := List.mem_singleton.mp h
      simp [Event.message, Event.noBotchesMessage]
    · cases h

theorem warnsOfNoBotches_iff (h : readConvention env = .ok c) :
    WarnsOfNoBotches env ↔ c.successThreshold ≤ c.botchFace := by
  have hread : (read env).2 = botchWarnings c ++ (readRest env c).2 := by rw [read, h]
  rw [WarnsOfNoBotches, hread]
  constructor
  · rintro ⟨e, he, hmessage⟩
    rcases List.mem_append.mp he with hwarning | hrest
    · -- Nothing is warned of unless the comparison of the two thresholds says so.
      by_contra hlt
      rw [botchWarnings, if_neg hlt] at hwarning
      cases hwarning
    · exact absurd hmessage (message_of_mem_readRest hrest)
  · intro hle
    refine ⟨.botchesImpossible c.botchFace c.successThreshold, ?_, rfl⟩
    rw [botchWarnings, if_pos hle]
    exact List.mem_append_left _ (List.mem_singleton_self _)

/-- The warning tells the truth. When no threshold is rejected, a convention is read, which is that
of the settings if the other variables are not rejected either. The warning that rolls can never
botch is then given just when none of the numbers that a face can be is scored as a botch. If it is
given, then whatever is rolled under the convention, of any pool and from any source, once or twice,
and kept or discarded, has no botches and is no fumble, and no difficulty makes it a critical
failure. -/
theorem warning_tells_truth
    (haccepted : ∀ s : Setting, s.isThreshold = true → s.IsUnset env ∨ s.IsValid env) :
    ∃ c, readConvention env = .ok c ∧
      (∀ settings, (read env).1 = .ok settings → settings.convention = c) ∧
      (WarnsOfNoBotches env ↔ ∀ face ≤ uint32Max, c.score face ≠ -1) ∧
      (WarnsOfNoBotches env →
        ∀ {σ : Type} [Source σ] (p : Pool) (mode : RollMode) (s : σ),
          ∀ r ∈ (p.rollWith mode c s).1.rolls,
            r.botches = 0 ∧ r.isFumble = false ∧
              ∀ difficulty, (Outcome.ofRoll r difficulty).tier ≠ .criticalFailure) := by
  simp only [← Setting.exists_gives_iff] at haccepted
  choose! value hvalue using haccepted
  have hread : readConvention env = .ok (ofValues value).convention :=
    readConvention_eq_ok_iff.mpr ⟨value, hvalue, rfl⟩
  refine ⟨_, hread, fun settings hsettings => ?_, ?_, fun hwarns σ _ p mode s r hr => ?_⟩
  · exact Except.ok.inj ((readConvention_of_read hsettings).symm.trans hread)
  · rw [warnsOfNoBotches_iff hread,
      Convention.forall_score_ne_neg_one_iff (botchFace_le_of_readConvention hread)]
  · obtain ⟨s', rfl⟩ := p.exists_roll_of_mem_rolls hr
    obtain ⟨hbotches, hfumble⟩ :=
      p.roll_without_botches ((warnsOfNoBotches_iff hread).mp hwarns) s'
    exact ⟨hbotches, hfumble, Outcome.tier_ofRoll_ne_criticalFailure hfumble⟩

/-- A botch face that is just the success threshold, in settings that are rejected for their seed.
The warning is given nevertheless, and a script of that face alone makes no botches. -/
theorem warning_tells_truth_despite_seed :
    let env : Environment := fun key =>
      if key = Setting.botchFace.key then some " +8 "
      else if key = Setting.seed.key then some "-3" else none
    let c : Convention := ⟨8, 8, 5⟩
    let p : Pool := ⟨3, .d10, 0, none, by decide⟩
    let s : Scripted := ⟨[8, 8, 8, 8, 8, 8], []⟩
    (∀ s : Setting, s.isThreshold = true → s.IsUnset env ∨ s.IsValid env) ∧
      (read env).1 = .error (.notAnInteger Setting.seed.key "-3") ∧
      readConvention env = .ok c ∧ WarnsOfNoBotches env ∧ (∀ face ≤ uint32Max, c.score face ≠ -1) ∧
      ∀ r ∈ (p.rollWith .disadvantage c s).1.rolls, r.botches = 0 ∧
        (Outcome.ofRoll r int32Max).tier ≠ .criticalFailure := by
  intro env c p s
  have haccepted : ∀ s : Setting, s.isThreshold = true → s.IsUnset env ∨ s.IsValid env := by
    intro s hs
    refine Setting.exists_gives_iff.mp ?_
    cases s with
    | successThreshold | criticalThreshold => exact ⟨none, reading_eq_ok_iff.mp (by decide)⟩
    | botchFace => exact ⟨some 8, reading_eq_ok_iff.mp (by decide)⟩
    | seed | historyLimit => cases hs
  obtain ⟨c', hread, -, hwarns, hrolls⟩ := warning_tells_truth haccepted
  have hc : readConvention env = .ok c := by decide
  obtain rfl : c' = c := Except.ok.inj (hread.symm.trans hc)
  have hwarned : WarnsOfNoBotches env := (warnsOfNoBotches_iff hc).mpr (by decide)
  refine ⟨haccepted, by decide, hc, hwarned, hwarns.mp hwarned, fun r hr => ?_⟩
  obtain ⟨hbotches, -, htier⟩ := hrolls hwarned p .disadvantage s r hr
  exact ⟨hbotches, htier int32Max⟩

end Settings

end Tabletop
