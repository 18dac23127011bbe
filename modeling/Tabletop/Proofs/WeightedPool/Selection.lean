import Mathlib.Data.Rat.Cast.CharZero
import Mathlib.Order.Interval.Finset.Nat
import Tabletop.Proofs.WeightedPool.Invariant

/-!
# Selections are proportional

A selection draws one number below the total weight. In a pool that keeps the invariant the running
totals never decrease, so that the binary search finds what a scan from the left would find: the
first item whose running total exceeds the draw. The draws that select an item are therefore the
numbers from the sum of the weights before it up to, but without, the sum that includes it. An item
without weight owns no draw, although its running total repeats the one before it.

## Main definitions

* `WeightedPool.offset` — the sum of the weights before an item
* `WeightedPool.exactProbability` — the chance of an item as an exact quotient

## Main results

* `partitionPoint_eq_findIdx` — on a sorted array the search and the scan agree
* `WeightedPool.Valid.itemAt?_eq_some_iff` — the draws that select an item
* `WeightedPool.Reachable.select_proportional` — selections from any pool that can come about
-/

namespace Tabletop

/-! ### The search -/

/-- No entry is smaller than an earlier one. -/
def NeverDecreases (xs : Array Nat) : Prop :=
  ∀ (j k : Nat) (hj : j < xs.size) (hk : k < xs.size), j ≤ k → xs[j] ≤ xs[k]

section Search

variable {xs : Array Nat}

-- The search keeps between entries that are known not to exceed the bound and entries that are
-- known to exceed it; when nothing is left between them, it has found where the latter begin.
theorem partitionFrom_spec {bound lo hi : Nat} (hsorted : NeverDecreases xs) (h : hi ≤ xs.size)
    (hle : lo ≤ hi) (hlo : ∀ (j : Nat) (hj : j < xs.size), j < lo → xs[j] ≤ bound)
    (hhi : ∀ (j : Nat) (hj : j < xs.size), hi ≤ j → bound < xs[j]) :
    (∀ (j : Nat) (hj : j < xs.size), j < partitionFrom xs bound lo hi h → xs[j] ≤ bound) ∧
      (∀ (j : Nat) (hj : j < xs.size), partitionFrom xs bound lo hi h ≤ j → bound < xs[j]) := by
  fun_induction partitionFrom xs bound lo hi h with
  | case1 lo hi h hlt mid hmid ih =>
    refine ih (by omega) (fun j hj hjmid => ?_) hhi
    exact (hsorted j mid hj (by omega) (by omega)).trans hmid
  | case2 lo hi h hlt mid hmid ih =>
    refine ih (by omega) hlo (fun j hj hmidj => ?_)
    exact (Nat.lt_of_not_le hmid).trans_le (hsorted mid j (by omega) hj hmidj)
  | case3 lo hi h hlt =>
    obtain rfl : lo = hi := by omega
    exact ⟨hlo, hhi⟩

theorem partitionPoint_spec (hsorted : NeverDecreases xs) (bound : Nat) :
    (∀ (j : Nat) (hj : j < xs.size), j < partitionPoint xs bound → xs[j] ≤ bound) ∧
      (∀ (j : Nat) (hj : j < xs.size), partitionPoint xs bound ≤ j → bound < xs[j]) := by
  refine partitionFrom_spec hsorted le_rfl (Nat.zero_le _) ?_ ?_
  · intro j hj hzero
    exact absurd hzero (Nat.not_lt_zero j)
  · intro j hj hsize
    exact absurd hj (Nat.not_lt.mpr hsize)

/-- On an array that never decreases the search finds what a scan from the left finds. -/
theorem partitionPoint_eq_findIdx (hsorted : NeverDecreases xs) (bound : Nat) :
    partitionPoint xs bound = xs.findIdx (bound < ·) := by
  obtain ⟨hbelow, habove⟩ := partitionPoint_spec hsorted bound
  -- Either the search stops at an entry, or no entry exceeds the bound and both reach the end.
  rcases (partitionPoint_le xs bound).lt_or_eq with hlt | hend
  · refine ((Array.findIdx_eq hlt).mpr ⟨?_, ?_⟩).symm
    · exact decide_eq_true (habove _ hlt le_rfl)
    · intro j hj
      exact decide_eq_false (Nat.not_lt.mpr (hbelow j (hj.trans hlt) hj))
  · rw [hend]
    refine (Array.findIdx_eq_size_of_false fun x hx => ?_).symm
    obtain ⟨j, hj, rfl⟩ := Array.mem_iff_getElem.mp hx
    exact decide_eq_false (Nat.not_lt.mpr (hbelow j hj (hend ▸ hj)))

end Search

namespace WeightedPool

variable {α : Type} {p : WeightedPool α}

/-! ### Which draws select an item -/

/-- The sum of the weights of the items before the one with a given place. -/
def offset (p : WeightedPool α) (k : Nat) : Nat := weightSum (p.items.take k)

@[simp] theorem offset_zero (p : WeightedPool α) : p.offset 0 = 0 := rfl

@[simp] theorem offset_length (p : WeightedPool α) :
    p.offset p.items.length = p.totalWeight := by
  rw [offset, List.take_length, totalWeight]

theorem offset_succ {k : Nat} (hk : k < p.items.length) :
    p.offset (k + 1) = p.offset k + p.items[k].weight := by
  rw [offset, List.take_succ_eq_append_getElem hk, weightSum_append]
  rfl

theorem offset_mono {j k : Nat} (h : j ≤ k) : p.offset j ≤ p.offset k :=
  weightSum_le_of_sublist (List.take_sublist_take_left h)

theorem Valid.neverDecreases (hp : p.Valid) : NeverDecreases p.cumulative := by
  intro j k hj hk hjk
  rw [hp.getElem_cumulative j hj, hp.getElem_cumulative k hk]
  exact offset_mono (Nat.succ_le_succ hjk)

theorem Valid.offset_succ_le (hp : p.Valid) {k draw : Nat}
    (h : k < partitionPoint p.cumulative draw) : p.offset (k + 1) ≤ draw := by
  have hk : k < p.cumulative.size := h.trans_le (partitionPoint_le _ _)
  have hbelow := (partitionPoint_spec hp.neverDecreases draw).1 k hk h
  rwa [hp.getElem_cumulative k hk] at hbelow

theorem Valid.lt_offset_succ (hp : p.Valid) {k draw : Nat} (hk : k < p.items.length)
    (h : partitionPoint p.cumulative draw ≤ k) : draw < p.offset (k + 1) := by
  have hk' : k < p.cumulative.size := hp.size_cumulative ▸ hk
  have habove := (partitionPoint_spec hp.neverDecreases draw).2 k hk' h
  rwa [hp.getElem_cumulative k hk'] at habove

theorem Valid.offset_partitionPoint_le (hp : p.Valid) (draw : Nat) :
    p.offset (partitionPoint p.cumulative draw) ≤ draw := by
  cases hplace : partitionPoint p.cumulative draw with
  | zero => exact Nat.zero_le draw
  | succ k => exact hp.offset_succ_le (hplace ▸ Nat.lt_succ_self k)

/-- A draw leads to the item between whose offset and the next one it lies. -/
theorem Valid.partitionPoint_eq_iff (hp : p.Valid) {k draw : Nat} (hk : k < p.items.length) :
    partitionPoint p.cumulative draw = k ↔ p.offset k ≤ draw ∧ draw < p.offset (k + 1) := by
  constructor
  · rintro rfl
    exact ⟨hp.offset_partitionPoint_le draw, hp.lt_offset_succ hk le_rfl⟩
  · rintro ⟨hlo, hhi⟩
    rcases Nat.lt_trichotomy (partitionPoint p.cumulative draw) k with hlt | heq | hgt
    · -- The search would have stopped before the item, whose offset the draw has reached.
      have hlast : draw < p.offset (k - 1 + 1) := hp.lt_offset_succ (by omega) (by omega)
      rw [Nat.sub_add_cancel (by omega)] at hlast
      omega
    · exact heq
    · have hnext := hp.offset_succ_le hgt
      omega

/-- The draws that select an item are those from its offset up to the next one. -/
theorem Valid.itemAt?_eq_some_iff (hp : p.Valid) {k draw : Nat} (hk : k < p.items.length) :
    p.itemAt? draw = some p.items[k] ↔ p.offset k ≤ draw ∧ draw < p.offset (k + 1) := by
  rw [← hp.partitionPoint_eq_iff hk, itemAt?, ← List.getElem?_eq_getElem hk]
  -- Items with distinct names are distinct, so that an item is found in one place only.
  constructor
  · intro h
    exact ((List.getElem?_inj hk hp.nodup.of_map).mp h.symm).symm
  · intro h
    rw [h]

/-- Every draw below the total weight selects an item. -/
theorem Valid.exists_itemAt? (hp : p.Valid) {draw : Nat} (h : draw < p.totalWeight) :
    ∃ (k : Nat) (hk : k < p.items.length), p.itemAt? draw = some p.items[k] := by
  have hk : partitionPoint p.cumulative draw < p.items.length := by
    have hle : partitionPoint p.cumulative draw ≤ p.items.length :=
      hp.size_cumulative ▸ partitionPoint_le _ _
    -- At the end of the items the draw would have reached the total weight.
    refine lt_of_le_of_ne hle fun hend => ?_
    have htotal := hp.offset_partitionPoint_le draw
    rw [hend, offset_length] at htotal
    omega
  exact ⟨_, hk, List.getElem?_eq_getElem hk⟩

/-- Whatever is selected has weight. -/
theorem Valid.weight_pos_of_itemAt? (hp : p.Valid) {draw : Nat} {i : WeightedItem α}
    (h : p.itemAt? draw = some i) : 0 < i.weight := by
  obtain ⟨hk, rfl⟩ := List.getElem?_eq_some_iff.mp h
  have hblock := (hp.itemAt?_eq_some_iff hk).mp h
  rw [offset_succ hk] at hblock
  omega

/-! ### Counting draws -/

open Finset in
/-- The draws that select an item with a given name. -/
def drawsFor (p : WeightedPool α) (id : String) : Finset Nat :=
  {draw ∈ range p.totalWeight | (p.itemAt? draw).map WeightedItem.id = some id}

/-- The chance of an item as an exact quotient. -/
def exactProbability (p : WeightedPool α) (id : String) : ℚ :=
  p.shareBy (fun weight total => (weight : ℚ) / total) 0 id

theorem mem_drawsFor {id : String} {draw : Nat} :
    draw ∈ p.drawsFor id ↔
      draw < p.totalWeight ∧ ∃ i, p.itemAt? draw = some i ∧ i.id = id := by
  rw [drawsFor, Finset.mem_filter, Finset.mem_range, Option.map_eq_some_iff]

theorem mem_items_of_itemAt? {draw : Nat} {i : WeightedItem α} (h : p.itemAt? draw = some i) :
    i ∈ p.items :=
  List.mem_of_getElem? h

theorem Valid.eq_of_id_eq (hp : p.Valid) {i j : WeightedItem α} (hi : i ∈ p.items)
    (hj : j ∈ p.items) (h : i.id = j.id) : i = j :=
  List.inj_on_of_nodup_map hp.nodup hi hj h

/-- The draws for an item are one block of numbers. -/
theorem Valid.drawsFor_eq_Ico (hp : p.Valid) {k : Nat} (hk : k < p.items.length) :
    p.drawsFor p.items[k].id = Finset.Ico (p.offset k) (p.offset (k + 1)) := by
  ext draw
  rw [mem_drawsFor, Finset.mem_Ico, ← hp.itemAt?_eq_some_iff hk]
  constructor
  · rintro ⟨-, i, hi, hid⟩
    rw [hi, hp.eq_of_id_eq (mem_items_of_itemAt? hi) (List.getElem_mem hk) hid]
  · intro h
    -- The block ends before the total weight, since the offsets do.
    have hnext := ((hp.itemAt?_eq_some_iff hk).mp h).2
    have htotal : p.offset (k + 1) ≤ p.totalWeight := offset_length p ▸ offset_mono hk
    exact ⟨hnext.trans_le htotal, _, h, rfl⟩

theorem drawsFor_eq_empty {id : String} (h : p.get? id = none) : p.drawsFor id = ∅ := by
  refine Finset.eq_empty_of_forall_notMem fun draw hdraw => ?_
  obtain ⟨-, i, hi, rfl⟩ := mem_drawsFor.mp hdraw
  exact get?_eq_none_iff.mp h (List.mem_map_of_mem (mem_items_of_itemAt? hi))

/-- The share of an item times the total weight is the number of its draws. -/
theorem Valid.exactProbability_mul (hp : p.Valid) (id : String) :
    p.exactProbability id * p.totalWeight = (p.drawsFor id).card := by
  unfold exactProbability shareBy
  cases hget : p.get? id with
  | none => rw [drawsFor_eq_empty hget, Finset.card_empty, Nat.cast_zero, zero_mul]
  | some i =>
    obtain ⟨k, hk, rfl⟩ := List.getElem_of_mem (mem_of_get? hget)
    have hid := id_of_get? hget
    have hcard : (p.drawsFor id).card = p.items[k].weight := by
      rw [← hid, hp.drawsFor_eq_Ico hk, Nat.card_Ico, offset_succ hk, Nat.add_sub_cancel_left]
    dsimp only
    rw [hcard]
    -- In a pool without weight the share is zero by definition, and the item has no weight either.
    by_cases htotal : p.totalWeight = 0
    · have hweight := weight_le_weightSum (List.getElem_mem hk)
      have hzero : p.items[k].weight = 0 := Nat.le_zero.mp (htotal ▸ hweight)
      rw [if_pos htotal, hzero, Nat.cast_zero, zero_mul]
    · rw [if_neg htotal, div_mul_cancel₀]
      exact_mod_cast htotal

/-! ### Selecting -/

section Select

variable {σ : Type} [Source σ]

theorem Valid.select_snd (hp : p.Valid) (hpos : 0 < p.totalWeight) (s : σ) :
    (p.select s).2 = (Source.integer 0 (p.totalWeight - 1 : Nat) s).2 := by
  rw [hp.select_eq hpos]
  cases p.itemAt? (Source.integer 0 (p.totalWeight - 1 : Nat) s).1.toNat with
  | none => rfl
  | some i => rfl

/-- A draw below the total weight is never refused. -/
theorem Valid.exists_select_eq_ok (hp : p.Valid) {s : σ} {draw : Nat}
    (hdraw : draw < p.totalWeight)
    (hanswer : (Source.integer 0 (p.totalWeight - 1 : Nat) s).1 = draw) :
    ∃ i, p.select s = (.ok i, (Source.integer 0 (p.totalWeight - 1 : Nat) s).2) ∧
      p.itemAt? draw = some i := by
  obtain ⟨k, hk, hitem⟩ := hp.exists_itemAt? hdraw
  refine ⟨_, ?_, hitem⟩
  rw [hp.select_eq (Nat.zero_lt_of_lt hdraw), hanswer, Int.toNat_natCast, hitem]

end Select

/-- Selections are exactly proportional in every pool that can come about. Without weight nothing is
drawn. With weight there is one request, for the numbers below the total, and no answer among them
is refused: it selects the item that a scan of the running totals finds, which has weight. The draws
for an item are a block that is as long as its weight, the blocks follow each other in the order of
the items from zero up to the total weight, and the share of a name is the part of its draws. -/
theorem Reachable.select_proportional (h : Reachable p) :
    (p.totalWeight = 0 → ∀ (σ : Type) [Source σ] (s : σ),
      p.select s = (.error .noSelectableItems, s)) ∧
    (0 < p.totalWeight → ∀ (σ : Type) [Source σ] (s : Recorded σ),
      (p.select s).2.requests = s.requests ++ [.integer 0 (p.totalWeight - 1 : Nat)]) ∧
    (∀ (σ : Type) [Source σ] (s : σ) (draw : Nat), draw < p.totalWeight →
      (Source.integer 0 (p.totalWeight - 1 : Nat) s).1 = draw →
      ∃ i, p.select s = (.ok i, (Source.integer 0 (p.totalWeight - 1 : Nat) s).2) ∧
        p.itemAt? draw = some i ∧ p.items[p.cumulative.findIdx (draw < ·)]? = some i ∧
        0 < i.weight) ∧
    (∀ (k : Nat) (hk : k < p.items.length) (draw : Nat), p.itemAt? draw = some p.items[k] ↔
      p.offset k ≤ draw ∧ draw < p.offset k + p.items[k].weight) ∧
    (p.offset 0 = 0 ∧ p.offset p.items.length = p.totalWeight ∧
      ∀ (k : Nat) (hk : k < p.items.length),
        p.offset (k + 1) = p.offset k + p.items[k].weight) ∧
    (∀ id, p.exactProbability id * p.totalWeight = (p.drawsFor id).card) := by
  have hp := h.valid
  refine ⟨fun hzero σ _ s => select_of_totalWeight_eq_zero hzero s, ?_, ?_, ?_,
    ⟨offset_zero p, offset_length p, fun k hk => offset_succ hk⟩, hp.exactProbability_mul⟩
  · intro hpos σ _ s
    rw [hp.select_snd hpos, Recorded.integer_requests]
  · intro σ _ s draw hdraw hanswer
    obtain ⟨i, hselect, hitem⟩ := hp.exists_select_eq_ok hdraw hanswer
    refine ⟨i, hselect, hitem, ?_, hp.weight_pos_of_itemAt? hitem⟩
    rw [← partitionPoint_eq_findIdx hp.neverDecreases]
    exact hitem
  · intro k hk draw
    rw [hp.itemAt?_eq_some_iff hk, offset_succ hk]

/-- An item without weight between two others takes no draw from either. -/
theorem select_proportional_around_weightless :
    let p := ((empty.change (.add "sword" () 100)).change (.add "shield" () 0)).change
      (.add "relic" () 25)
    Reachable p ∧
      (∀ draw, p.itemAt? draw = some ⟨"relic", (), 25⟩ ↔ 100 ≤ draw ∧ draw < 125) ∧
      p.exactProbability "relic" * p.totalWeight = (p.drawsFor "relic").card := by
  intro p
  have hp : Reachable p := .change (.change (.change .empty _) _) _
  have hblocks := hp.select_proportional.2.2.2
  exact ⟨hp, fun draw => hblocks.1 2 (by decide) draw, hblocks.2.2 "relic"⟩

end WeightedPool

end Tabletop
