import Tabletop.Proofs.Outcome.Order
import Tabletop.Proofs.Rolling.Draws

/-!
# What advantage is worth

Of two rolls, advantage keeps the one with more net successes and disadvantage the one with fewer,
and on equal nets the first stays. How a check ends depends on the fumble as well, which the choice
does not look at. But a fumble leaves no net successes, so that a roll which beats another one is no
fumble; and two rolls with equal nets, of which only one may be a fumble, are never exchanged. Hence
advantage makes no check end worse than the first roll alone, and disadvantage makes none end
better.
-/

namespace Tabletop

variable {σ : Type} [Source σ] {a b : Roll}

/-! ### Better rolls -/

/-- The first roll counts for no more than the second, neither by its net successes nor by how it is
classified, whatever the difficulty. -/
structure Roll.CountsAtMost (a b : Roll) : Prop where
  netSuccesses_le : a.netSuccesses ≤ b.netSuccesses
  tier_le (difficulty : Int) :
    (Outcome.ofRoll a difficulty).tier ≤ (Outcome.ofRoll b difficulty).tier

theorem Roll.CountsAtMost.refl (a : Roll) : a.CountsAtMost a :=
  ⟨Nat.le_refl _, fun _ => OutcomeTier.le_refl _⟩

theorem Roll.CountsAtMost.of_noBetter (h : a.NoBetter b) : a.CountsAtMost b :=
  ⟨h.netSuccesses_le, h.tier_le⟩

/-- A roll with more net successes counts for no less, if it is scored as fumbles are. -/
theorem Roll.CountsAtMost.of_lt (hb : b.isFumble = true → b.netSuccesses = 0)
    (h : a.netSuccesses < b.netSuccesses) : a.CountsAtMost b :=
  .of_noBetter (.of_lt hb h)

theorem Pool.netSuccesses_roll_of_isFumble (p : Pool) (c : Convention) (s : σ)
    (h : (p.roll c s).1.isFumble = true) : (p.roll c s).1.netSuccesses = 0 :=
  Roll.netSuccesses_eq_zero_of_isFumble _ _ _ h

/-! ### The choice between two rolls -/

/-- The second roll is kept only when the mode does not keep the first. -/
theorem RollMode.choose_cases (mode : RollMode) (a b : Roll) :
    mode.keepsFirst a b = true ∧ mode.choose a b = ⟨mode, a, some b⟩ ∨
      mode.keepsFirst a b = false ∧ mode.choose a b = ⟨mode, b, some a⟩ := by
  cases h : mode.keepsFirst a b with
  | true => exact .inl ⟨rfl, if_pos h⟩
  | false => exact .inr ⟨rfl, if_neg (Bool.eq_false_iff.mp h)⟩

/-- What advantage keeps counts for no less than the first roll. -/
theorem RollMode.countsAtMost_choose_advantage (hb : b.isFumble = true → b.netSuccesses = 0) :
    a.CountsAtMost (advantage.choose a b).kept := by
  rcases choose_cases advantage a b with ⟨-, h⟩ | ⟨hfirst, h⟩
  · rw [h]
    exact .refl a
  · rw [h]
    exact .of_lt hb (Nat.lt_of_not_le (of_decide_eq_false hfirst))

/-- What disadvantage keeps counts for no more than the first roll. -/
theorem RollMode.choose_disadvantage_countsAtMost (ha : a.isFumble = true → a.netSuccesses = 0) :
    (disadvantage.choose a b).kept.CountsAtMost a := by
  rcases choose_cases disadvantage a b with ⟨-, h⟩ | ⟨hfirst, h⟩
  · rw [h]
    exact .refl a
  · rw [h]
    exact .of_lt ha (Nat.lt_of_not_le (of_decide_eq_false hfirst))

/-- The rolls that were made: the kept one, and the discarded one if there is any. -/
def AdvantageRoll.rolls (r : AdvantageRoll) : List Roll := r.kept :: r.discarded.toList

/-- Whatever the mode, a roll that is kept or discarded is a plain roll from some state. -/
theorem Pool.exists_roll_of_mem_rolls (p : Pool) {mode : RollMode} {c : Convention} {s : σ}
    {r : Roll} (h : r ∈ (p.rollWith mode c s).1.rolls) : ∃ s' : σ, r = (p.roll c s').1 := by
  by_cases hmode : mode = .normal
  · subst hmode
    exact ⟨s, List.mem_singleton.mp h⟩
  · rw [rollWith_of_ne_normal p hmode] at h
    have hmade : r = (p.roll c s).1 ∨ r = (p.roll c (p.roll c s).2).1 := by
      rcases mode.choose_cases (p.roll c s).1 (p.roll c (p.roll c s).2).1 with ⟨-, hc⟩ | ⟨-, hc⟩
      · rw [hc] at h
        simpa [AdvantageRoll.rolls] using h
      · rw [hc] at h
        simpa [AdvantageRoll.rolls, or_comm] using h
    rcases hmade with rfl | rfl
    · exact ⟨s, rfl⟩
    · exact ⟨(p.roll c s).2, rfl⟩

/-! ### Three modes on one source -/

/-- Taking down what is drawn does not change a roll that is made twice. Its draws begin with those
of the first roll, and the mode has no influence on them. -/
theorem Pool.rollWith_transcript (p : Pool) (c : Convention) (s : σ) (log : List Exchange) :
    ∃ first second : List Exchange,
      p.rollWith .normal c (⟨s, log⟩ : Transcript σ) =
        ((p.rollWith .normal c s).1, ⟨(p.rollWith .normal c s).2, log ++ first⟩) ∧
      ∀ mode ≠ .normal, p.rollWith mode c (⟨s, log⟩ : Transcript σ) =
        ((p.rollWith mode c s).1, ⟨(p.rollWith mode c s).2, log ++ first ++ second⟩) := by
  obtain ⟨first, -, -, hfirst⟩ := p.roll_transcript c s log
  obtain ⟨second, -, -, hsecond⟩ := p.roll_transcript c (p.roll c s).2
    (log ++ first.map (.integer 1 p.faces))
  refine ⟨first.map (.integer 1 p.faces), second.map (.integer 1 p.faces), ?_, ?_⟩
  · rw [rollWith_normal, rollWith_normal, hfirst]
  · intro mode hmode
    rw [rollWith_of_ne_normal p hmode, rollWith_of_ne_normal p hmode, hfirst, hsecond]

/-- The three modes compared on one source. Disadvantage is never better than the single roll and
advantage never worse, in the net successes that are kept as well as in how they are classified
against any difficulty. Advantage and disadvantage ask the source for the same, are answered the
same and leave it in the same state, and all that they draw begins with what the single roll draws.
-/
theorem Pool.rollWith_ordered (p : Pool) (c : Convention) (s : σ) (difficulty : Int) :
    let kept (mode : RollMode) := (p.rollWith mode c s).1.kept
    let tier (mode : RollMode) := (Outcome.ofRoll (kept mode) difficulty).tier
    let watched (mode : RollMode) := p.rollWith mode c (Transcript.begin s)
    (tier .disadvantage ≤ tier .normal ∧ tier .normal ≤ tier .advantage) ∧
    ((kept .disadvantage).netSuccesses ≤ (kept .normal).netSuccesses ∧
      (kept .normal).netSuccesses ≤ (kept .advantage).netSuccesses) ∧
    (∀ mode, (watched mode).1 = (p.rollWith mode c s).1) ∧
    (watched .advantage).2 = (watched .disadvantage).2 ∧
    (watched .normal).2.exchanges <+: (watched .advantage).2.exchanges := by
  intro kept tier watched
  have hup : (kept .normal).CountsAtMost (kept .advantage) :=
    RollMode.countsAtMost_choose_advantage (p.netSuccesses_roll_of_isFumble c _)
  have hdown : (kept .disadvantage).CountsAtMost (kept .normal) :=
    RollMode.choose_disadvantage_countsAtMost (p.netSuccesses_roll_of_isFumble c s)
  obtain ⟨first, second, hone, htwo⟩ := p.rollWith_transcript c s []
  refine ⟨⟨hdown.tier_le difficulty, hup.tier_le difficulty⟩,
    ⟨hdown.netSuccesses_le, hup.netSuccesses_le⟩, ?_, ?_, ?_⟩
  · intro mode
    by_cases hmode : mode = .normal
    · subst hmode
      exact congrArg Prod.fst hone
    · exact congrArg Prod.fst (htwo mode hmode)
  · have hadvantage := congrArg Prod.snd (htwo .advantage (by decide))
    have hdisadvantage := congrArg Prod.snd (htwo .disadvantage (by decide))
    exact hadvantage.trans hdisadvantage.symm
  · have hnormal := congrArg (Transcript.exchanges ∘ Prod.snd) hone
    have hadvantage := congrArg (Transcript.exchanges ∘ Prod.snd) (htwo .advantage (by decide))
    exact ⟨second, (congrArg (· ++ second) hnormal).trans hadvantage.symm⟩

end Tabletop
