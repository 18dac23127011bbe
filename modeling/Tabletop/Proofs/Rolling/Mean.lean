import Tabletop.Proofs.Binary64.Exact
import Tabletop.Proofs.Rolling.Replay
import Tabletop.Proofs.Rolling.Totals

/-!
# The mean of the totals

The average that a pool tells is the mean of its totals over all the ways in which its dice can
fall, each of them counted once. To see it, turn every die over: a face is replaced by the one that
stands as far from the other end. This only permutes the ways in which the dice can fall, and the
totals of a way and of the way turned over add up to the minimum and the maximum, whatever the way.

The average itself is a floating-point number. Each step of its computation has an integer or half
an integer of at most 53 bits as its exact result, and so nothing is rounded.
-/

namespace Tabletop

/-- The ways in which the dice of a pool can fall: each of them shows one of its faces. The faces
are counted from zero here, and from one on the dice. -/
abbrev Pool.Draws (p : Pool) : Type := Fin p.count.toNat → Fin p.faces

/-- Every die is turned over: it shows the face that stands as far from the other end. -/
def Pool.Draws.turned {p : Pool} (draws : p.Draws) : p.Draws := fun i => (draws i).rev

/-- The script of one way for the dice to fall. -/
def Scripted.ofDraws {p : Pool} (draws : p.Draws) : Scripted :=
  ⟨List.ofFn fun i => ((draws i : Nat) : Int) + 1, []⟩

theorem allFaces_map_singleton (shown : List Nat) :
    allFaces (shown.map fun face => ⟨[face]⟩) = shown := by
  rw [allFaces, List.flatMap_map]
  exact List.flatMap_singleton' shown

namespace Pool

variable {p : Pool}

theorem explosionLimit_of_not_isExploding (hp : p.isExploding = false) : p.explosionLimit = 0 := by
  rw [explosionLimit_eq, hp]
  rfl

/-! ### One way for the dice to fall -/

/-- The dice of a pool that does not explode fall as a script of one face for each of them says. -/
theorem roll_script_of_not_isExploding (hp : p.isExploding = false) (c : Convention)
    {shown : List Nat} (hlength : shown.length = p.count.toNat)
    (hrange : ∀ face ∈ shown, 1 ≤ face ∧ face ≤ p.faces) :
    p.roll c (⟨shown.map Int.ofNat, []⟩ : Scripted) =
      (Roll.ofDice p (shown.map fun face => ⟨[face]⟩) c, ⟨[], []⟩) := by
  have hshow : ∀ d ∈ shown.map fun face => (⟨[face]⟩ : DieRoll), p.CanShow d := by
    intro d hd
    obtain ⟨face, hface, rfl⟩ := List.mem_map.mp hd
    refine ⟨.last fun _ => explosionLimit_of_not_isExploding hp, fun face' hface' => ?_⟩
    rw [List.mem_singleton.mp hface']
    exact hrange face hface
  have hdice := rollDice_script hshow [] []
  rw [allFaces_map_singleton, List.append_nil, List.length_map, hlength] at hdice
  rw [roll, hdice]

section Draws

variable (hp : p.isExploding = false) (c : Convention) (draws : p.Draws)

include hp

theorem roll_ofDraws :
    p.roll c (Scripted.ofDraws draws) =
      (Roll.ofDice p ((List.ofFn fun i => (draws i : Nat) + 1).map fun face => ⟨[face]⟩) c,
        ⟨[], []⟩) := by
  have hscript : Scripted.ofDraws draws =
      ⟨(List.ofFn fun i => (draws i : Nat) + 1).map Int.ofNat, []⟩ := by
    rw [List.map_ofFn]
    rfl
  rw [hscript]
  refine roll_script_of_not_isExploding hp c (List.length_ofFn) fun face hface => ?_
  obtain ⟨i, rfl⟩ := List.mem_ofFn.mp hface
  exact ⟨Nat.succ_pos _, (draws i).isLt⟩

theorem rawRolls_ofDraws :
    (p.roll c (Scripted.ofDraws draws)).1.rawRolls = List.ofFn fun i => (draws i : Nat) + 1 := by
  rw [roll_ofDraws hp, Roll.rawRolls, Roll.ofDice_dice, allFaces_map_singleton]

theorem total_ofDraws :
    (p.roll c (Scripted.ofDraws draws)).1.total =
      ∑ i, ((draws i : Int) + 1) + p.modifier.toInt := by
  rw [total_roll, Roll.rawTotal_eq_sum, rawRolls_ofDraws hp, List.sum_ofFn, Nat.cast_sum]
  rfl

/-! ### All ways for the dice to fall -/

/-- The totals of the dice and of the dice turned over add up to the two ends of the range. -/
theorem total_add_total_turned :
    (p.roll c (Scripted.ofDraws draws)).1.total +
        (p.roll c (Scripted.ofDraws draws.turned)).1.total = p.minimum + p.maximum := by
  have hface (i : Fin p.count.toNat) :
      ((draws i : Int) + 1) + ((draws.turned i : Int) + 1) = p.faces + 1 := by
    have hlt := (draws i).isLt
    rw [Draws.turned, Fin.val_rev]
    omega
  have hsum : ∑ i, ((draws i : Int) + 1) + ∑ i, ((draws.turned i : Int) + 1) =
      p.count.toNat * (p.faces + 1) := by
    rw [← Finset.sum_add_distrib, Finset.sum_congr rfl fun i _ => hface i, Finset.sum_const,
      Finset.card_univ, Fintype.card_fin, nsmul_eq_mul]
  rw [total_ofDraws hp, total_ofDraws hp, minimum, maximum]
  linarith

omit draws in
/-- Twice the sum of the totals over all ways in which the dice can fall. -/
theorem two_mul_sum_total :
    2 * ∑ draws : p.Draws, (p.roll c (Scripted.ofDraws draws)).1.total =
      p.faces ^ p.count.toNat * (p.minimum + p.maximum) := by
  let total (draws : p.Draws) : Int := (p.roll c (Scripted.ofDraws draws)).1.total
  -- Turning all dice over only permutes the ways.
  have hturned : ∑ draws : p.Draws, total draws.turned = ∑ draws, total draws :=
    Equiv.sum_comp (Equiv.piCongrRight fun _ => Fin.revPerm) total
  calc 2 * ∑ draws, total draws
      = ∑ draws : p.Draws, (total draws + total draws.turned) := by
        rw [Finset.sum_add_distrib, hturned, two_mul]
    _ = ∑ _ : p.Draws, (p.minimum + p.maximum) :=
        Finset.sum_congr rfl fun draws _ => total_add_total_turned hp c draws
    _ = p.faces ^ p.count.toNat * (p.minimum + p.maximum) := by
        rw [Finset.sum_const, Finset.card_univ, Fintype.card_fun, Fintype.card_fin,
          Fintype.card_fin, nsmul_eq_mul, Nat.cast_pow]

end Draws

/-! ### The average -/

open Binary64 in
/-- No step of the average is rounded. -/
theorem hasValue_average (p : Pool) :
    HasValue p.average (((p.minimum + p.maximum : Int) : ℚ) / 2) := by
  have hcount : p.count.toNat < 4294967296 := p.count.toNat_lt
  have hten : p.faces ≤ 10 := p.die.faces_le_ten
  have hlo : -2147483648 ≤ p.modifier.toInt := p.modifier.minValue_le_toInt
  have hhi : p.modifier.toInt < 2147483648 := p.modifier.toInt_lt
  have hword : (UInt32.ofNat (p.faces + 1)).toNat = p.faces + 1 := Nat.mod_eq_of_lt (by omega)
  obtain ⟨dice, hdice⟩ : ∃ dice, dice = p.count.toNat * (p.faces + 1) := ⟨_, rfl⟩
  have hbound : dice ≤ 4294967296 * 11 :=
    hdice.trans_le (Nat.mul_le_mul hcount.le (Nat.succ_le_succ hten))
  -- Twice the average of the dice is an integer, and so is twice the average with the modifier.
  have hends : p.minimum + p.maximum = dice + 2 * p.modifier.toInt := by
    rw [hdice, minimum, maximum]
    push_cast
    ring
  have hproduct : HasValue (p.count.toFloat * (UInt32.ofNat (p.faces + 1)).toFloat) (dice : ℤ) := by
    have hexact := hasValue_mul_toFloat (m := p.count) (n := UInt32.ofNat (p.faces + 1))
    rw [hword, ← hdice] at hexact
    exact hexact (by omega)
  have hhalf : HasValue (p.count.toFloat * (UInt32.ofNat (p.faces + 1)).toFloat / 2.0)
      ((dice : ℤ) / 2) :=
    hproduct.div hasValue_two two_ne_zero (isNumber_half (by omega))
  have hmodifier : HasValue (Float.ofInt p.modifier.toInt) p.modifier.toInt :=
    hasValue_ofInt (by omega)
  have hvalue : ((p.minimum + p.maximum : ℤ) : ℚ) / 2 = (dice : ℤ) / 2 + p.modifier.toInt := by
    rw [hends]
    push_cast
    ring
  have hnumber : IsNumber ((p.minimum + p.maximum : ℤ) / 2) := isNumber_half (by omega)
  rw [hvalue] at hnumber ⊢
  exact hhalf.add hmodifier hnumber

/-- The average is the mean of the totals. The dice of a pool that does not explode can fall in as
many ways as there are choices of a face for each of them; in each of them the roll draws and shows
just these faces. Twice the sum of the totals is the number of the ways times the sum of the minimum
and the maximum. The average stands for the sum divided by the number of the ways, exactly. -/
theorem average_eq_mean (p : Pool) (hp : p.isExploding = false) (c : Convention) :
    let roll (draws : p.Draws) := p.roll c (Scripted.ofDraws draws)
    (∀ draws, (roll draws).1.rawRolls = (List.ofFn fun i => (draws i : Nat) + 1) ∧
      (roll draws).2 = ⟨[], []⟩) ∧
    2 * ∑ draws, (roll draws).1.total = p.faces ^ p.count.toNat * (p.minimum + p.maximum) ∧
    Binary64.HasValue p.average
      ((∑ draws, ((roll draws).1.total : ℚ)) / (p.faces ^ p.count.toNat : ℕ)) := by
  intro roll
  have hsum : 2 * ∑ draws, (roll draws).1.total =
      p.faces ^ p.count.toNat * (p.minimum + p.maximum) := two_mul_sum_total hp c
  refine ⟨fun draws => ⟨rawRolls_ofDraws hp c draws, ?_⟩, hsum, ?_⟩
  · exact congrArg Prod.snd (roll_ofDraws hp c draws)
  · have hways : ((p.faces ^ p.count.toNat : ℕ) : ℚ) ≠ 0 :=
      Nat.cast_ne_zero.mpr (pow_pos p.die.faces_pos _).ne'
    have hmean : (∑ draws, ((roll draws).1.total : ℚ)) / (p.faces ^ p.count.toNat : ℕ) =
        ((p.minimum + p.maximum : Int) : ℚ) / 2 := by
      rw [div_eq_div_iff hways two_ne_zero, mul_comm _ (2 : ℚ), mul_comm _ (Nat.cast _),
        ← Int.cast_sum]
      exact_mod_cast hsum
    rw [hmean]
    exact hasValue_average p

/-- Three dice with six faces: the mean of the 216 totals lies between two integers. -/
theorem average_eq_mean_of_three :
    let p : Pool := ⟨3, .d6, 5, none, by decide⟩
    p.isExploding = false ∧
      ∑ draws : p.Draws, (p.roll {} (Scripted.ofDraws draws)).1.total = 3348 ∧
      Binary64.HasValue p.average (31 / 2) := by
  intro p
  obtain ⟨-, hsum, haverage⟩ := average_eq_mean p rfl {}
  have hends : (p.faces : Int) ^ p.count.toNat * (p.minimum + p.maximum) = 6696 := by decide
  have htotal : ∑ draws : p.Draws, (p.roll {} (Scripted.ofDraws draws)).1.total = 3348 := by
    have htwice := hsum.trans hends
    dsimp only at htwice
    omega
  have hmean : (∑ draws : p.Draws, ((p.roll {} (Scripted.ofDraws draws)).1.total : ℚ)) /
      (p.faces ^ p.count.toNat : ℕ) = 31 / 2 := by
    rw [← Int.cast_sum, htotal, show p.faces ^ p.count.toNat = 216 by decide]
    norm_num
  refine ⟨rfl, htotal, ?_⟩
  rw [← hmean]
  exact haverage

end Pool

end Tabletop
