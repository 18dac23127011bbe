import Tabletop.Proofs.Rolling.Advantage

/-!
# Which of two rolls is kept

Whether one of two rolls is kept or the other depends on their net successes. How a check ends
depends on the fumble too, so that the roll that is kept may end worse than the one that is
discarded, and may do so under advantage. This takes two rolls without net successes, since a roll
that has any is no fumble, and of two such rolls the first stays. If the first is a fumble and the
second is none, advantage keeps the fumble; if only the second is a fumble, disadvantage lets it go.
In every other case the mode and the outcome agree, and the difficulty does not matter in any.
-/

namespace Tabletop

variable {σ : Type} [Source σ] {mode : RollMode} {a b kept discarded : Roll}

/-! ### The kept and the discarded roll -/

namespace RollMode

/-- Of the rolls `a` and `b`, in this order, the mode keeps one and discards the other. -/
structure Sorts (mode : RollMode) (a b kept discarded : Roll) : Prop where
  eq_or_eq : kept = a ∧ discarded = b ∨ kept = b ∧ discarded = a
  /-- The roll that is kept would be kept as the first, too. -/
  keepsFirst : mode.keepsFirst kept discarded = true
  of_level : a.netSuccesses = b.netSuccesses → kept = a ∧ discarded = b

theorem keepsFirst_of_level (mode : RollMode) (h : a.netSuccesses = b.netSuccesses) :
    mode.keepsFirst a b = true := by
  cases mode with
  | normal => rfl
  | advantage => exact decide_eq_true h.ge
  | disadvantage => exact decide_eq_true h.le

theorem keepsFirst_swap (h : mode.keepsFirst a b = false) : mode.keepsFirst b a = true := by
  cases mode with
  | normal => rfl
  | advantage | disadvantage => exact decide_eq_true (Nat.le_of_not_le (of_decide_eq_false h))

/-- Every mode tells two rolls apart. -/
theorem exists_sorts (mode : RollMode) (a b : Roll) :
    ∃ kept discarded, mode.choose a b = ⟨mode, kept, some discarded⟩ ∧
      mode.Sorts a b kept discarded := by
  rcases mode.choose_cases a b with ⟨hfirst, hchoose⟩ | ⟨hsecond, hchoose⟩
  · exact ⟨a, b, hchoose, .inl ⟨rfl, rfl⟩, hfirst, fun _ => ⟨rfl, rfl⟩⟩
  · refine ⟨b, a, hchoose, .inr ⟨rfl, rfl⟩, keepsFirst_swap hsecond, fun hlevel => ?_⟩
    -- Level rolls are not exchanged.
    rw [mode.keepsFirst_of_level hlevel] at hsecond
    cases hsecond

theorem Sorts.netSuccesses_eq_zero (h : mode.Sorts a b kept discarded)
    (ha : a.isFumble = true → a.netSuccesses = 0) (hb : b.isFumble = true → b.netSuccesses = 0) :
    (kept.isFumble = true → kept.netSuccesses = 0) ∧
      (discarded.isFumble = true → discarded.netSuccesses = 0) := by
  rcases h.eq_or_eq with ⟨rfl, rfl⟩ | ⟨rfl, rfl⟩
  · exact ⟨ha, hb⟩
  · exact ⟨hb, ha⟩

/-- Two rolls without net successes are kept and discarded in the order in which they were made. -/
theorem Sorts.of_zero_iff (h : mode.Sorts a b kept discarded) (P : Roll → Roll → Prop) :
    (kept.netSuccesses = 0 ∧ discarded.netSuccesses = 0) ∧ P kept discarded ↔
      (a.netSuccesses = 0 ∧ b.netSuccesses = 0) ∧ P a b := by
  have hzero : kept.netSuccesses = 0 ∧ discarded.netSuccesses = 0 ↔
      a.netSuccesses = 0 ∧ b.netSuccesses = 0 := by
    rcases h.eq_or_eq with ⟨rfl, rfl⟩ | ⟨rfl, rfl⟩
    · exact Iff.rfl
    · exact and_comm
  rw [hzero, and_congr_right_iff]
  rintro ⟨ha, hb⟩
  obtain ⟨rfl, rfl⟩ := h.of_level (ha.trans hb.symm)
  exact Iff.rfl

end RollMode

/-- With no fewer net successes a scored roll ends worse than another one only as a fumble against
a plain failure: neither has any net successes. -/
theorem Outcome.tier_ofRoll_lt_iff_of_zero (ha : a.isFumble = true → a.netSuccesses = 0)
    (h : b.netSuccesses ≤ a.netSuccesses) (difficulty : Int) :
    (ofRoll a difficulty).tier < (ofRoll b difficulty).tier ↔
      (a.netSuccesses = 0 ∧ b.netSuccesses = 0) ∧ a.isFumble = true ∧ b.isFumble = false := by
  rw [tier_ofRoll_lt_iff h]
  constructor
  · rintro ⟨hfumble, hnone⟩
    have hzero := ha hfumble
    exact ⟨⟨hzero, Nat.le_zero.mp (hzero ▸ h)⟩, hfumble, hnone⟩
  · exact And.right

/-! ### Rolls of a pool -/

/-- A roll that is made twice is two rolls in a row from the same source, told apart by the mode. -/
theorem Pool.exists_rollWith_eq (p : Pool) (hmode : mode ≠ .normal) (c : Convention) (s : σ) :
    ∃ kept discarded,
      p.rollWith mode c s = (⟨mode, kept, some discarded⟩, (p.roll c (p.roll c s).2).2) ∧
      mode.Sorts (p.roll c s).1 (p.roll c (p.roll c s).2).1 kept discarded ∧
      (kept.isFumble = true → kept.netSuccesses = 0) ∧
      (discarded.isFumble = true → discarded.netSuccesses = 0) := by
  obtain ⟨kept, discarded, hchoose, hsorts⟩ :=
    mode.exists_sorts (p.roll c s).1 (p.roll c (p.roll c s).2).1
  refine ⟨kept, discarded, ?_, hsorts, hsorts.netSuccesses_eq_zero
    (p.netSuccesses_roll_of_isFumble c s) (p.netSuccesses_roll_of_isFumble c _)⟩
  rw [rollWith_of_ne_normal p hmode, hchoose]

/-- A roll with advantage or disadvantage is two rolls in a row from the same source, one kept and
the other discarded. Advantage keeps one with no fewer net successes, disadvantage one with no more,
and both keep the first when they are level. Against any difficulty, the roll that advantage keeps
ends worse than the other one just when neither has net successes and only the first is a fumble;
the roll that disadvantage keeps ends better just when neither has and only the second is. -/
theorem Pool.rollWith_keeps (p : Pool) (c : Convention) (s : σ) :
    let first := p.roll c s
    let second := p.roll c first.2
    let a := first.1
    let b := second.1
    let tier (r : Roll) (difficulty : Int) := (Outcome.ofRoll r difficulty).tier
    (∃ kept discarded,
      p.rollWith .advantage c s = (⟨.advantage, kept, some discarded⟩, second.2) ∧
      (kept = a ∧ discarded = b ∨ kept = b ∧ discarded = a) ∧
      discarded.netSuccesses ≤ kept.netSuccesses ∧
      (a.netSuccesses = b.netSuccesses → kept = a ∧ discarded = b) ∧
      ∀ difficulty, tier kept difficulty < tier discarded difficulty ↔
        (a.netSuccesses = 0 ∧ b.netSuccesses = 0) ∧ a.isFumble = true ∧ b.isFumble = false) ∧
    (∃ kept discarded,
      p.rollWith .disadvantage c s = (⟨.disadvantage, kept, some discarded⟩, second.2) ∧
      (kept = a ∧ discarded = b ∨ kept = b ∧ discarded = a) ∧
      kept.netSuccesses ≤ discarded.netSuccesses ∧
      (a.netSuccesses = b.netSuccesses → kept = a ∧ discarded = b) ∧
      ∀ difficulty, tier discarded difficulty < tier kept difficulty ↔
        (a.netSuccesses = 0 ∧ b.netSuccesses = 0) ∧ a.isFumble = false ∧ b.isFumble = true) := by
  intro first second a b tier
  have hup : RollMode.advantage ≠ .normal := by decide
  have hdown : RollMode.disadvantage ≠ .normal := by decide
  constructor
  · obtain ⟨kept, discarded, hroll, hsorts, hkept, -⟩ := p.exists_rollWith_eq hup c s
    have hle : discarded.netSuccesses ≤ kept.netSuccesses := of_decide_eq_true hsorts.keepsFirst
    refine ⟨kept, discarded, hroll, hsorts.eq_or_eq, hle, hsorts.of_level, fun difficulty => ?_⟩
    exact (Outcome.tier_ofRoll_lt_iff_of_zero hkept hle difficulty).trans
      (hsorts.of_zero_iff fun x y => x.isFumble = true ∧ y.isFumble = false)
  · obtain ⟨kept, discarded, hroll, hsorts, -, hdiscarded⟩ := p.exists_rollWith_eq hdown c s
    have hle : kept.netSuccesses ≤ discarded.netSuccesses := of_decide_eq_true hsorts.keepsFirst
    refine ⟨kept, discarded, hroll, hsorts.eq_or_eq, hle, hsorts.of_level, fun difficulty => ?_⟩
    -- Here it is the discarded roll that has no fewer net successes, and that may end worse.
    refine Iff.trans ?_ (hsorts.of_zero_iff fun x y => x.isFumble = false ∧ y.isFumble = true)
    rw [and_comm (a := kept.netSuccesses = 0), and_comm (a := kept.isFumble = false)]
    exact Outcome.tier_ofRoll_lt_iff_of_zero hdiscarded hle difficulty

/-- A fumble and then a plain failure: advantage keeps the fumble, which ends worse at every
difficulty, and so does disadvantage. -/
theorem Pool.rollWith_keeps_fumble :
    let p : Pool := ⟨2, .d10, 0, none, by decide⟩
    let s : Scripted := ⟨[1, 4, 2, 3], []⟩
    let fumble := Roll.ofDice p [⟨[1]⟩, ⟨[4]⟩] {}
    let failure := Roll.ofDice p [⟨[2]⟩, ⟨[3]⟩] {}
    (p.rollWith .advantage {} s).1 = ⟨.advantage, fumble, some failure⟩ ∧
      (p.rollWith .disadvantage {} s).1 = ⟨.disadvantage, fumble, some failure⟩ ∧
      ∀ difficulty,
        (Outcome.ofRoll fumble difficulty).tier < (Outcome.ofRoll failure difficulty).tier := by
  intro p s fumble failure
  obtain ⟨⟨kept, discarded, hup, -, -, hlevel, htier⟩,
    kept', discarded', hdown, -, -, hlevel', -⟩ := p.rollWith_keeps {} s
  obtain ⟨rfl, rfl⟩ := hlevel (by decide)
  obtain ⟨rfl, rfl⟩ := hlevel' (by decide)
  exact ⟨congrArg Prod.fst hup, congrArg Prod.fst hdown,
    fun difficulty => (htier difficulty).mpr (by decide)⟩

end Tabletop
