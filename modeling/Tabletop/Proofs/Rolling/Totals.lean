import Mathlib.Algebra.Order.BigOperators.Group.List
import Mathlib.Algebra.Order.Ring.Nat
import Mathlib.Tactic.Ring
import Tabletop.Proofs.Rolling.Draws

/-!
# The range of totals

The statistics of a pool are told from its count, its dice and its modifier alone. A roll adds up
every face of every die, further rolls included, so that its total depends on how many faces there
are as well as on what they show. Both ends come together at the extremes: a die that shows nothing
but ones is never rolled again, so the lowest faces are also the fewest; and a die that shows
nothing but its highest face is rolled again as often as its cap allows, so the highest faces are
also the most. Hence the least total is that of the minimum, the greatest is that of the maximum
with one more set of highest faces for each of the further rolls, and no other faces reach either.

## Main definitions

* `Pool.ceiling` — the greatest total, explosions included

## Main results

* `Roll.rawTotal_eq_sum` — the total of the dice is the sum of the faces
* `Pool.total_eq_minimum_iff`, `Pool.total_eq_ceiling_iff` — which faces reach the ends of the range
* `Pool.total_range` — the statistics of a pool bound every roll of it, and the bounds are reached
-/

namespace Tabletop

variable {σ : Type} [Source σ] {faces limit : Nat} {shown : List Nat} {dice : List DieRoll}

/-! ### Sums of bounded numbers -/

theorem sum_eq_length_iff {l : List Nat} (h : ∀ x ∈ l, 1 ≤ x) :
    l.sum = l.length ↔ ∀ x ∈ l, x = 1 := by
  induction l with
  | nil => simp
  | cons x l ih =>
    obtain ⟨hx, hl⟩ := List.forall_mem_cons.mp h
    have hle : l.length ≤ l.sum := List.length_le_sum_of_one_le l hl
    rw [List.forall_mem_cons, ← ih hl, List.sum_cons, List.length_cons]
    omega

theorem sum_eq_length_mul_iff {m : Nat} {l : List Nat} (h : ∀ x ∈ l, x ≤ m) :
    l.sum = l.length * m ↔ ∀ x ∈ l, x = m := by
  induction l with
  | nil => simp
  | cons x l ih =>
    obtain ⟨hx, hl⟩ := List.forall_mem_cons.mp h
    have hle : l.sum ≤ l.length * m := List.sum_le_card_nsmul l m hl
    rw [List.forall_mem_cons, ← ih hl, List.sum_cons, List.length_cons, Nat.succ_mul]
    omega

/-- The total of dice is the sum of the faces that they show. -/
theorem sum_allFaces (dice : List DieRoll) :
    (allFaces dice).sum = dice.foldr (fun d sum => d.total + sum) 0 := by
  induction dice with
  | nil => rfl
  | cons d dice ih =>
    rw [allFaces, List.flatMap_cons, List.sum_append, List.foldr_cons, ← ih]
    rfl

theorem Roll.rawTotal_eq_sum (r : Roll) : r.rawTotal = r.rawRolls.sum := (sum_allFaces r.dice).symm

/-! ### How many faces there are at the extremes -/

theorem le_length_allFaces {m : Nat} (h : ∀ d ∈ dice, m ≤ d.faces.length) :
    dice.length * m ≤ (allFaces dice).length := by
  rw [allFaces, List.length_flatMap, ← List.length_map (fun d : DieRoll => d.faces.length)]
  refine List.card_nsmul_le_sum _ m fun n hn => ?_
  obtain ⟨d, hd, rfl⟩ := List.mem_map.mp hn
  exact h d hd

/-- A die that never shows its highest face is rolled once. -/
theorem FaceChain.length_eq_one (h : FaceChain faces limit shown)
    (hlow : ∀ face ∈ shown, face ≠ faces) : shown.length = 1 := by
  cases h with
  | last => rfl
  | again => exact absurd rfl (hlow faces List.mem_cons_self)

/-- A die that shows nothing but its highest face is rolled until its limit is used up. -/
theorem FaceChain.length_eq_limit (h : FaceChain faces limit shown)
    (hhigh : ∀ face ∈ shown, face = faces) : shown.length = limit + 1 := by
  induction h with
  | last hlast => rw [hlast (hhigh _ (List.mem_singleton_self _))]; rfl
  | again _ ih =>
    rw [List.length_cons, ih fun face hface => hhigh face (List.mem_cons_of_mem _ hface)]

namespace Pool

/-- The greatest total of a pool: each die shows its highest face as often as it may be rolled. -/
def ceiling (p : Pool) : Int := p.maximum + p.count.toNat * p.faces * p.explosionLimit

theorem ceiling_eq (p : Pool) :
    p.ceiling = (p.count.toNat * (p.explosionLimit + 1) * p.faces : Nat) + p.modifier.toInt := by
  rw [ceiling, maximum]
  push_cast
  ring

theorem explosionLimit_eq (p : Pool) :
    p.explosionLimit = if p.isExploding then p.cap.toNat else 0 := by
  unfold explosionLimit isExploding cap
  cases p.explosions <;> rfl

/-! ### The faces of a roll -/

section Roll

variable (hσ : Source.KeepsRange σ) (p : Pool) (c : Convention) (s : σ)

theorem count_le_length_rawRolls :
    p.count.toNat ≤ (p.roll c s).1.rawRolls.length := by
  have hlong := le_length_allFaces (m := 1) fun d hd =>
    (faceChain_of_mem_rollDice p p.count.toNat s d hd).length_pos
  rwa [length_rollDice, Nat.mul_one] at hlong

theorem length_rawRolls_le :
    (p.roll c s).1.rawRolls.length ≤ p.count.toNat * (p.explosionLimit + 1) := by
  have hlong := length_allFaces_le fun d hd =>
    (faceChain_of_mem_rollDice p p.count.toNat s d hd).length_le
  rwa [length_rollDice] at hlong

theorem length_rawRolls_of_ones (h : ∀ face ∈ (p.roll c s).1.rawRolls, face = 1) :
    (p.roll c s).1.rawRolls.length = p.count.toNat := by
  have hfaces : p.faces ≠ 1 := by
    unfold faces
    cases p.die <;> decide
  refine Nat.le_antisymm ?_ (p.count_le_length_rawRolls c s)
  have hshort := length_allFaces_le (m := 1) fun d hd =>
    ((faceChain_of_mem_rollDice p p.count.toNat s d hd).length_eq_one fun face hface heq =>
      hfaces (heq ▸ h face (List.mem_flatMap.mpr ⟨d, hd, hface⟩))).le
  rwa [length_rollDice, Nat.mul_one] at hshort

theorem length_rawRolls_of_highest (h : ∀ face ∈ (p.roll c s).1.rawRolls, face = p.faces) :
    (p.roll c s).1.rawRolls.length = p.count.toNat * (p.explosionLimit + 1) := by
  refine Nat.le_antisymm (p.length_rawRolls_le c s) ?_
  have hlong := le_length_allFaces fun d hd =>
    ((faceChain_of_mem_rollDice p p.count.toNat s d hd).length_eq_limit fun face hface =>
      h face (List.mem_flatMap.mpr ⟨d, hd, hface⟩)).ge
  rwa [length_rollDice] at hlong

include hσ

theorem mem_rawRolls : ∀ face ∈ (p.roll c s).1.rawRolls, 1 ≤ face ∧ face ≤ p.faces := by
  intro face hface
  obtain ⟨d, hd, hface⟩ := List.mem_flatMap.mp hface
  exact (canShow_of_mem_rollDice hσ p p.count.toNat s d hd).range face hface

/-! ### The ends of the range -/

theorem minimum_le_total : p.minimum ≤ (p.roll c s).1.total := by
  have hcount := p.count_le_length_rawRolls c s
  have hsum : (p.roll c s).1.rawRolls.length ≤ (p.roll c s).1.rawRolls.sum :=
    List.length_le_sum_of_one_le _ fun face hface => (mem_rawRolls hσ p c s face hface).1
  rw [total_roll, Roll.rawTotal_eq_sum, minimum]
  omega

theorem total_eq_minimum_iff :
    (p.roll c s).1.total = p.minimum ↔ ∀ face ∈ (p.roll c s).1.rawRolls, face = 1 := by
  have hpos := fun face hface => (mem_rawRolls hσ p c s face hface).1
  have hcount := p.count_le_length_rawRolls c s
  have hsum : (p.roll c s).1.rawRolls.length ≤ (p.roll c s).1.rawRolls.sum :=
    List.length_le_sum_of_one_le _ hpos
  rw [total_roll, Roll.rawTotal_eq_sum, minimum]
  constructor
  · -- From the count to the number of faces and on to their sum, neither step may add anything.
    intro htotal
    refine (sum_eq_length_iff hpos).mp ?_
    omega
  · intro hones
    rw [(sum_eq_length_iff hpos).mpr hones, p.length_rawRolls_of_ones c s hones]

theorem sum_rawRolls_le : (p.roll c s).1.rawRolls.sum ≤
    (p.roll c s).1.rawRolls.length * p.faces :=
  List.sum_le_card_nsmul _ _ fun face hface => (mem_rawRolls hσ p c s face hface).2

theorem total_le_ceiling : (p.roll c s).1.total ≤ p.ceiling := by
  have hsum : (p.roll c s).1.rawRolls.sum ≤ p.count.toNat * (p.explosionLimit + 1) * p.faces :=
    (sum_rawRolls_le hσ p c s).trans (Nat.mul_le_mul_right _ (p.length_rawRolls_le c s))
  rw [total_roll, Roll.rawTotal_eq_sum, ceiling_eq]
  exact Int.add_le_add_right (Int.ofNat_le.mpr hsum) _

theorem total_eq_ceiling_iff :
    (p.roll c s).1.total = p.ceiling ↔ ∀ face ∈ (p.roll c s).1.rawRolls, face = p.faces := by
  have hle := fun face hface => (mem_rawRolls hσ p c s face hface).2
  have hsum := sum_rawRolls_le hσ p c s
  have hlong := Nat.mul_le_mul_right p.faces (p.length_rawRolls_le c s)
  rw [total_roll, Roll.rawTotal_eq_sum, ceiling_eq]
  constructor
  · -- Fewer faces than the limits allow would fall short of the ceiling even at their highest.
    intro htotal
    refine (sum_eq_length_mul_iff hle).mp ?_
    omega
  · intro hhigh
    rw [(sum_eq_length_mul_iff hle).mpr hhigh, p.length_rawRolls_of_highest c s hhigh]

end Roll

end Pool

/-! ### Sources that give one answer only -/

/-- However often the source is asked for a face, it gives this answer. -/
def AlwaysAnswers (faces : Nat) (s : σ) (answer : Int) : Prop :=
  ∀ answers s', Answers faces s answers s' → ∀ given ∈ answers, given = answer

/-- A source that an answer leaves as it was gives the same answer again. -/
theorem alwaysAnswers_of_fixed {s : σ} {answer : Int}
    (h : Source.integer 1 faces s = (answer, s)) : AlwaysAnswers faces s answer := by
  intro answers s' hanswers
  induction hanswers with
  | done => exact fun given hgiven => absurd hgiven List.not_mem_nil
  | next _ ih =>
    rw [h] at ih
    rw [h]
    exact List.forall_mem_cons.mpr ⟨rfl, ih h⟩

/-- A script that has run dry shows ones. -/
theorem Scripted.alwaysAnswers_dry (faces : Nat) (units : List Float) :
    AlwaysAnswers faces (⟨[], units⟩ : Scripted) 1 :=
  alwaysAnswers_of_fixed rfl

theorem Highest.alwaysAnswers (faces : Nat) (s : Highest) : AlwaysAnswers faces s faces :=
  alwaysAnswers_of_fixed rfl

namespace Pool

theorem eq_of_alwaysAnswers {p : Pool} {s : σ} {answer : Int}
    (h : AlwaysAnswers p.faces s answer) (c : Convention) :
    ∀ face ∈ (p.roll c s).1.rawRolls, face = faceOf answer := by
  obtain ⟨answers, hanswers, hshown, -⟩ := p.roll_transcript c s []
  intro face hface
  rw [hshown] at hface
  obtain ⟨given, hgiven, rfl⟩ := List.mem_map.mp hface
  rw [h answers _ hanswers given hgiven]

/-! ### The statistics of a pool -/

/-- The statistics of a pool are numbers of 64 bits, and so is what they are computed from. -/
theorem minimum_maximum_fit (p : Pool) :
    int64Min ≤ p.minimum ∧ p.minimum ≤ p.maximum ∧
      (p.count.toNat * p.faces : Int) ≤ int64Max ∧ p.maximum ≤ int64Max := by
  have hrange := p.minimum_le_maximum
  have hcount : p.count.toNat < 4294967296 := p.count.toNat_lt
  have hten : p.faces ≤ 10 := p.die.faces_le_ten
  have hlo : int32Min ≤ p.modifier.toInt := p.modifier.minValue_le_toInt
  have hhi : p.modifier.toInt < 2147483648 := p.modifier.toInt_lt
  have hproduct : p.count.toNat * p.faces ≤ 4294967296 * 10 := Nat.mul_le_mul hcount.le hten
  unfold int32Min at hlo
  unfold minimum maximum at hrange ⊢
  unfold int64Min int64Max
  omega

/-- The statistics of a pool bound every roll of it, and nothing narrower would. The total of the
dice is the sum of all faces, and the total of the roll adds the modifier. From a source that keeps
to the range it lies between the minimum and the maximum, with one more set of highest faces for
each further roll that the dice are allowed. It is the one exactly if every face is a one, and the
other exactly if every face is the highest; the first comes of a source that always answers one, the
second of a source that always answers the highest face. The statistics themselves are numbers of 64
bits for every pool. -/
theorem total_range (hσ : Source.KeepsRange σ) (p : Pool) (c : Convention) (s : σ) :
    let r := (p.roll c s).1
    let extra := if p.isExploding then p.cap.toNat else 0
    let highest := p.maximum + p.count.toNat * p.faces * extra
    (r.rawTotal = r.rawRolls.sum ∧ r.total = r.rawTotal + p.modifier.toInt) ∧
    (p.minimum ≤ r.total ∧ r.total ≤ highest) ∧
    (r.total = p.minimum ↔ ∀ face ∈ r.rawRolls, face = 1) ∧
    (r.total = highest ↔ ∀ face ∈ r.rawRolls, face = p.faces) ∧
    (AlwaysAnswers p.faces s 1 → r.total = p.minimum) ∧
    (AlwaysAnswers p.faces s p.faces → r.total = highest) ∧
    int64Min ≤ p.minimum ∧ p.minimum ≤ p.maximum ∧
      (p.count.toNat * p.faces : Int) ≤ int64Max ∧ p.maximum ≤ int64Max := by
  intro r extra highest
  have hextra : p.explosionLimit = extra := p.explosionLimit_eq
  have hceiling : p.ceiling = highest := by rw [ceiling, hextra]
  have hlow : r.total = p.minimum ↔ ∀ face ∈ r.rawRolls, face = 1 := total_eq_minimum_iff hσ p c s
  have hhigh : r.total = p.ceiling ↔ ∀ face ∈ r.rawRolls, face = p.faces :=
    total_eq_ceiling_iff hσ p c s
  rw [← hceiling]
  exact ⟨⟨r.rawTotal_eq_sum, rfl⟩, ⟨minimum_le_total hσ p c s, total_le_ceiling hσ p c s⟩,
    hlow, hhigh, fun h => hlow.mpr (eq_of_alwaysAnswers h c),
    fun h => hhigh.mpr (eq_of_alwaysAnswers h c), p.minimum_maximum_fit⟩

/-- Three dice that may each be rolled again twice: a script that has run dry and the source that
always answers with the top of the range reach the two ends. -/
theorem total_range_of_exploding :
    let p : Pool := ⟨3, .d6, -4, some 2, by decide⟩
    Source.KeepsRange Scripted ∧ Source.KeepsRange Highest ∧
      (p.roll {} (⟨[], []⟩ : Scripted)).1.total = -1 ∧ (p.roll {} Highest.mk).1.total = 50 := by
  intro p
  have hhighest : Source.KeepsRange Highest := fun _ _ _ _ h _ => ⟨h, Int.le_refl _⟩
  obtain ⟨-, -, -, -, hones, -⟩ := total_range Scripted.keepsRange p {} ⟨[], []⟩
  obtain ⟨-, -, -, -, -, htop, -⟩ := total_range hhighest p {} Highest.mk
  exact ⟨Scripted.keepsRange, hhighest, (hones (Scripted.alwaysAnswers_dry p.faces [])).trans rfl,
    (htop (Highest.alwaysAnswers p.faces _)).trans rfl⟩

end Pool

end Tabletop
