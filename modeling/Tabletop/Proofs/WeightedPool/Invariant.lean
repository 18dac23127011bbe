import Tabletop.Refusal
import Tabletop.Saved.Loot

/-!
# What every weighted pool keeps to

A pool holds its items twice over: as they are, and as the running totals that a selection searches.
Whatever requests a pool has been given, and whether they were granted or refused, the names of its
items are distinct, the running totals are those of the items, and the total weight is one that a
source can be asked for. These are just the conditions under which a list of items makes a pool, so
that every pool can be rebuilt from its items.
-/

namespace Tabletop

namespace WeightedPool

variable {α : Type} {p q : WeightedPool α} {items : List (WeightedItem α)} {id : String}
  {i new : WeightedItem α}

/-! ### Requests -/

/-- A request to change a pool. -/
inductive Change (α : Type) where
  | add (id : String) (item : α) (weight : Nat)
  | setWeight (id : String) (weight : Nat)
  | remove (id : String)
  | clear

/-- The pool that stands beside the answer to a request. -/
def change (p : WeightedPool α) : Change α → WeightedPool α
  | .add id item weight => (p.put id item weight).2
  | .setWeight id weight => (p.reweigh id weight).2
  | .remove id => (p.take id).2
  | .clear => p.clear

/-- The pools that can come about: the empty one, those that are built from items or loaded, and
what requests make of them. -/
inductive Reachable : WeightedPool α → Prop where
  | empty : Reachable empty
  | ofItems {items : List (WeightedItem α)} {p : WeightedPool α}
      (h : WeightedPool.ofItems items = .ok p) : Reachable p
  | load {loadItem : Reader α} {d : Document} {p : WeightedPool α}
      (h : WeightedPool.load loadItem d = .ok p) : Reachable p
  | change {p : WeightedPool α} (h : Reachable p) (c : Change α) : Reachable (p.change c)

/-! ### The invariant -/

/-- The names are distinct, the running totals belong to the items, and the total is bounded. -/
structure Valid (p : WeightedPool α) : Prop where
  nodup : (p.items.map WeightedItem.id).Nodup
  size_cumulative : p.cumulative.size = p.items.length
  getElem_cumulative (k : Nat) (hk : k < p.cumulative.size) :
    p.cumulative[k] = weightSum (p.items.take (k + 1))
  totalWeight_le : p.totalWeight ≤ maxTotalWeight

theorem valid_rebuild (hnodup : (items.map WeightedItem.id).Nodup)
    (hle : weightSum items ≤ maxTotalWeight) : Valid (rebuild items) where
  nodup := hnodup
  size_cumulative := size_cumulative_rebuild items
  getElem_cumulative k hk := by simp [cumulative_rebuild, getElem_runningWeights]
  totalWeight_le := hle

/-- The running totals are determined by the items. -/
theorem Valid.eq_rebuild (hp : p.Valid) : p = rebuild p.items := by
  obtain ⟨items, cumulative⟩ := p
  have hcumulative : cumulative = (rebuild items).cumulative := by
    apply Array.ext
    · rw [size_cumulative_rebuild]
      exact hp.size_cumulative
    · intro k hk hk'
      have hsum := hp.getElem_cumulative k hk
      simpa [cumulative_rebuild, getElem_runningWeights] using hsum
  rw [hcumulative]
  rfl

theorem firstDuplicate?_eq_none_iff {seen : List String} :
    firstDuplicate? seen items = none ↔
      (items.map WeightedItem.id).Nodup ∧ ∀ i ∈ items, i.id ∉ seen := by
  induction items generalizing seen with
  | nil => simp [firstDuplicate?]
  | cons i rest ih =>
    rw [firstDuplicate?]
    split
    · next hseen => simp [hseen]
    · next hseen =>
      rw [ih]
      -- An item whose name has been seen is either one of the earlier items or the present one.
      simp only [List.map_cons, List.nodup_cons, List.mem_map, List.mem_cons, forall_eq_or_imp,
        not_or, not_exists, not_and]
      constructor
      · rintro ⟨hnodup, hrest⟩
        exact ⟨⟨fun j hj => (hrest j hj).1, hnodup⟩, hseen, fun j hj => (hrest j hj).2⟩
      · rintro ⟨⟨hfresh, hnodup⟩, -, hrest⟩
        exact ⟨hnodup, fun j hj => ⟨hfresh j hj, hrest j hj⟩⟩

/-- A list of items makes a pool when the names are distinct and the total is bounded. -/
theorem ofItems_eq_ok_iff :
    ofItems items = .ok p ↔
      (items.map WeightedItem.id).Nodup ∧ weightSum items ≤ maxTotalWeight ∧
        p = rebuild items := by
  have hnodup : firstDuplicate? [] items = none ↔ (items.map WeightedItem.id).Nodup := by
    rw [firstDuplicate?_eq_none_iff]
    simp
  unfold ofItems
  split
  · next name hsome =>
    have hdup : ¬ (items.map WeightedItem.id).Nodup := by
      rw [← hnodup, hsome]
      simp
    simp [hdup]
  · next hnone =>
    have hdistinct := hnodup.mp hnone
    split
    · next hlt => simp [Nat.not_le.mpr hlt]
    · next hle => simp [hdistinct, Nat.le_of_not_lt hle, eq_comm]

/-- The invariant says that the items of the pool make this pool. -/
theorem valid_iff_ofItems : p.Valid ↔ ofItems p.items = .ok p := by
  rw [ofItems_eq_ok_iff]
  constructor
  · intro hp
    exact ⟨hp.nodup, hp.totalWeight_le, hp.eq_rebuild⟩
  · rintro ⟨hnodup, hle, hrebuild⟩
    rw [hrebuild]
    exact valid_rebuild hnodup hle

/-! ### Finding and replacing items -/

theorem get?_eq_none_iff : p.get? id = none ↔ id ∉ p.items.map WeightedItem.id := by
  simp only [get?, List.find?_eq_none, beq_iff_eq, List.mem_map, not_exists, not_and]

theorem id_of_get? (h : p.get? id = some i) : i.id = id := by
  have hfound := List.find?_some h
  exact beq_iff_eq.mp hfound

theorem mem_of_get? (h : p.get? id = some i) : i ∈ p.items := List.mem_of_find?_eq_some h

theorem contains_eq_false_iff : p.contains id = false ↔ p.get? id = none := by
  rw [contains, Option.isSome_eq_false_iff, Option.isNone_iff_eq_none]

theorem weightOf_of_get? (h : p.get? id = some i) : p.weightOf id = i.weight := by
  rw [weightOf, h]

theorem weight_le_weightSum (h : i ∈ items) : i.weight ≤ weightSum items := by
  induction items with
  | nil => cases h
  | cons j rest ih =>
    rw [weightSum_cons]
    rcases List.mem_cons.mp h with rfl | h
    · exact Nat.le_add_right _ _
    · exact Nat.le_trans (ih h) (Nat.le_add_left _ _)

theorem weightSum_le_of_sublist {items' : List (WeightedItem α)} (h : items'.Sublist items) :
    weightSum items' ≤ weightSum items := by
  induction h with
  | slnil => exact Nat.le_refl _
  | cons i _ ih => exact Nat.le_trans ih (Nat.le_add_left _ _)
  | cons_cons i _ ih => exact Nat.add_le_add_left ih _

theorem nodup_append_singleton (hnodup : (items.map WeightedItem.id).Nodup)
    (hfresh : i.id ∉ items.map WeightedItem.id) :
    ((items ++ [i]).map WeightedItem.id).Nodup := by
  rw [List.map_append, List.nodup_append]
  refine ⟨hnodup, List.pairwise_singleton _ _, ?_⟩
  intro name hname name' hname' heq
  obtain rfl : name' = i.id := List.mem_singleton.mp hname'
  exact hfresh (heq ▸ hname)

/-- An item is replaced under its own name. -/
@[simp] theorem map_id_replaceFirst (new : WeightedItem α) (items : List (WeightedItem α)) :
    (replaceFirst new items).map WeightedItem.id = items.map WeightedItem.id := by
  induction items with
  | nil => rfl
  | cons j rest ih =>
    rw [replaceFirst]
    split
    · next hid => simp [hid]
    · simp [ih]

/-- The weight of the replaced item is exchanged for the new one. -/
theorem weightSum_replaceFirst (h : items.find? (·.id == new.id) = some i) :
    weightSum (replaceFirst new items) + i.weight = weightSum items + new.weight := by
  induction items with
  | nil => cases h
  | cons j rest ih =>
    -- The item that is found first is also the one that is replaced.
    by_cases hid : j.id = new.id
    · simp only [List.find?_cons, hid, beq_self_eq_true, Option.some.injEq] at h
      subst h
      rw [replaceFirst, if_pos hid, weightSum_cons, weightSum_cons]
      omega
    · simp only [List.find?_cons, beq_false_of_ne hid] at h
      have hrest := ih h
      rw [replaceFirst, if_neg hid, weightSum_cons, weightSum_cons]
      omega

/-! ### Every request keeps the invariant -/

theorem Valid.empty : Valid (empty : WeightedPool α) := valid_iff_ofItems.mpr rfl

theorem Valid.clear (p : WeightedPool α) : p.clear.Valid := Valid.empty

/-- Replacing an item keeps the names, so that only the total is at stake. -/
theorem Valid.rebuild_replaceFirst (hp : p.Valid) (hget : p.get? new.id = some i)
    (hle : p.totalWeight - i.weight + new.weight ≤ maxTotalWeight) :
    (rebuild (replaceFirst new p.items)).Valid := by
  have hnodup : ((replaceFirst new p.items).map WeightedItem.id).Nodup := by
    rw [map_id_replaceFirst]
    exact hp.nodup
  have hsum : weightSum (replaceFirst new p.items) + i.weight = p.totalWeight + new.weight :=
    weightSum_replaceFirst hget
  have hweight : i.weight ≤ p.totalWeight := weight_le_weightSum (mem_of_get? hget)
  exact valid_rebuild hnodup (by omega)

theorem Valid.put (hp : p.Valid) (id : String) (item : α) (weight : Nat) :
    (p.put id item weight).2.Valid := by
  unfold WeightedPool.put
  split
  · exact hp
  · next hle =>
    dsimp only
    -- A new name goes to the end, a known one keeps its place.
    cases hget : p.get? id with
    | none =>
      have hfresh : id ∉ p.items.map WeightedItem.id := get?_eq_none_iff.mp hget
      rw [contains_eq_false_iff.mpr hget, if_neg Bool.false_ne_true]
      rw [weightOf, hget] at hle
      have hnodup := nodup_append_singleton hp.nodup (i := ⟨id, item, weight⟩) hfresh
      refine valid_rebuild hnodup ?_
      rw [weightSum_append]
      exact Nat.le_of_not_lt hle
    | some i =>
      have hcontains : p.contains id = true := by rw [contains, hget]; rfl
      rw [weightOf_of_get? hget] at hle
      rw [if_pos hcontains]
      exact hp.rebuild_replaceFirst hget (Nat.le_of_not_lt hle)

theorem Valid.reweigh (hp : p.Valid) (id : String) (weight : Nat) :
    (p.reweigh id weight).2.Valid := by
  unfold WeightedPool.reweigh
  split
  · exact hp
  · next i hget =>
    split
    · exact hp
    · next hle =>
      -- The item is put back under the name that it was found by.
      have hid : i.id = id := id_of_get? hget
      exact hp.rebuild_replaceFirst (hid.symm ▸ hget) (Nat.le_of_not_lt hle)

theorem Valid.take (hp : p.Valid) (id : String) : (p.take id).2.Valid := by
  unfold WeightedPool.take
  split
  · exact hp
  · have hsub : (p.items.eraseP (·.id == id)).Sublist p.items := List.eraseP_sublist
    exact valid_rebuild (hp.nodup.sublist (hsub.map WeightedItem.id))
      (Nat.le_trans (weightSum_le_of_sublist hsub) hp.totalWeight_le)

/-- One request, granted or refused, keeps the invariant. -/
theorem Valid.change (hp : p.Valid) (c : Change α) : (p.change c).Valid := by
  cases c with
  | add id item weight => exact hp.put id item weight
  | setWeight id weight => exact hp.reweigh id weight
  | remove id => exact hp.take id
  | clear => exact Valid.clear p

theorem Valid.ofItems (h : ofItems items = .ok p) : p.Valid := by
  obtain ⟨hnodup, hle, rfl⟩ := ofItems_eq_ok_iff.mp h
  exact valid_rebuild hnodup hle

theorem Valid.load {loadItem : Reader α} {d : Document} (h : load loadItem d = .ok p) :
    p.Valid := by
  obtain ⟨items, -, hitems⟩ := bind_eq_ok_iff.mp h
  exact Valid.ofItems (mapError_eq_ok_iff.mp hitems)

/-- Every pool that can come about keeps the invariant. -/
theorem Reachable.valid (h : Reachable p) : p.Valid := by
  induction h with
  | empty => exact Valid.empty
  | ofItems h => exact Valid.ofItems h
  | load h => exact Valid.load h
  | change _ c ih => exact ih.change c

/-! ### What a selection asks for -/

section Select

variable {σ : Type} [Source σ]

theorem select_of_totalWeight_eq_zero (h : p.totalWeight = 0) (s : σ) :
    p.select s = (.error .noSelectableItems, s) := by
  unfold select
  exact if_pos h

/-- A pool with weight asks once, and its answer depends on the draw alone. -/
theorem Valid.select_eq (hp : p.Valid) (hpos : 0 < p.totalWeight) (s : σ) :
    p.select s =
      match p.itemAt? (Source.integer 0 (p.totalWeight - 1 : Nat) s).1.toNat with
      | some i => (.ok i, (Source.integer 0 (p.totalWeight - 1 : Nat) s).2)
      | none => (.error .noSelectableItems, (Source.integer 0 (p.totalWeight - 1 : Nat) s).2) := by
  -- The bound on the total weight is the one that the request for a number is checked against.
  have hbound : ¬ int32Max < ((p.totalWeight - 1 : Nat) : Int) := by
    have hle := hp.totalWeight_le
    unfold maxTotalWeight at hle
    unfold int32Max
    omega
  unfold select
  exact (if_neg (Nat.ne_of_gt hpos)).trans (if_neg hbound)

/-- The check of the total weight before a draw is never what refuses a selection. -/
theorem Valid.select_ne_totalWeightOverflow (hp : p.Valid) (s : σ) :
    (p.select s).1 ≠ .error .totalWeightOverflow := by
  rcases Nat.eq_zero_or_pos p.totalWeight with hzero | hpos
  · rw [select_of_totalWeight_eq_zero hzero]
    simp
  · rw [hp.select_eq hpos]
    cases p.itemAt? (Source.integer 0 (p.totalWeight - 1 : Nat) s).1.toNat with
    | none => simp
    | some i => simp

end Select

/-- Every pool that can come about holds distinct names, keeps the running totals of its items, has
a total weight that a source can be asked for, and is what its items make. So no weight that is
taken off the total exceeds it, and no selection is refused for its range. -/
theorem Reachable.representation (h : Reachable p) :
    (p.items.map WeightedItem.id).Nodup ∧
    p.cumulative.size = p.items.length ∧
    (∀ (k : Nat) (hk : k < p.cumulative.size),
      p.cumulative[k] = weightSum (p.items.take (k + 1))) ∧
    p.totalWeight ≤ maxTotalWeight ∧
    WeightedPool.ofItems p.items = .ok p ∧
    (∀ id, p.weightOf id ≤ p.totalWeight) ∧
    (∀ id i, p.get? id = some i → i.weight ≤ p.totalWeight) ∧
    (∀ (σ : Type) [Source σ] (s : σ), (p.select s).1 ≠ .error .totalWeightOverflow) := by
  have hp := h.valid
  have hweight : ∀ id i, p.get? id = some i → i.weight ≤ p.totalWeight :=
    fun id i hget => weight_le_weightSum (mem_of_get? hget)
  refine ⟨hp.nodup, hp.size_cumulative, hp.getElem_cumulative, hp.totalWeight_le,
    valid_iff_ofItems.mp hp, ?_, hweight, fun σ _ s => hp.select_ne_totalWeightOverflow s⟩
  intro id
  cases hget : p.get? id with
  | none => rw [weightOf, hget]; exact Nat.zero_le _
  | some i => rw [weightOf_of_get? hget]; exact hweight id i hget

/-- A request beyond the bound is refused on the way to a pool of the greatest weight. -/
theorem representation_after_refusal :
    let p := (((empty.change (.add "sword" () 100)).change (.add "relic" () 2147483600)).change
      (.setWeight "sword" 2147483647)).change (.remove "relic")
    Reachable p ∧ WeightedPool.ofItems p.items = .ok p ∧ p.totalWeight = 2147483647 := by
  intro p
  have hp : Reachable p := .change (.change (.change (.change .empty _) _) _) _
  exact ⟨hp, hp.representation.2.2.2.2.1, by decide⟩

end WeightedPool

end Tabletop
