import Tabletop.Proofs.WeightedPool.Invariant

/-!
# Weighted pools as ordered maps

A pool maps names to items with weights, and it remembers the order in which the names came. A name
stands at one place of the list of items; a request about this name touches that place alone. It
writes a new item there, or a new weight, or takes the place out; and an item under a new name goes
to the end. Every other item keeps its weight, and its place among the others.

The bound on the total weight is that of the items as they would be. A request finds it out from the
total before it, less what is replaced, so that an item may always be exchanged for a lighter one. A
request that is refused leaves the pool as it was, with its running totals and whatever is selected
from it later on.
-/

namespace Tabletop

namespace WeightedPool

variable {α : Type} {p q : WeightedPool α} {items : List (WeightedItem α)} {id other : String}
  {i new : WeightedItem α} {j k : Nat}

/-- The pool of some items, unless their total weight is beyond the bound. -/
def bounded (items : List (WeightedItem α)) : Except WeightedPoolError (WeightedPool α) :=
  if maxTotalWeight < weightSum items then .error .totalWeightOverflow else .ok (rebuild items)

/-- A request that may be refused for the weight alone grants the pool of the items. -/
theorem map_snd_granted_bounded (items : List (WeightedItem α)) :
    (granted (if maxTotalWeight < weightSum items then (.error .totalWeightOverflow, p)
      else (.ok (), rebuild items))).map Prod.snd = bounded items := by
  unfold bounded
  split <;> rfl

/-- The items that do not bear a name, in their order. -/
def others (id : String) (items : List (WeightedItem α)) : List (WeightedItem α) :=
  items.filter (·.id != id)

/-- The name that a request is about. -/
def Change.name? : Change α → Option String
  | .add id _ _ | .setWeight id _ | .remove id => some id
  | .clear => none

/-- The answer to a request. -/
def answer (p : WeightedPool α) : Change α → Except WeightedPoolError (WeightedPool α)
  | .add id item weight => p.add id item weight
  | .setWeight id weight => p.setWeight id weight
  | .remove id => (p.remove id).map Prod.snd
  | .clear => .ok p.clear

/-- The pool that a list of requests leaves, whether they are granted or refused. -/
def changes (p : WeightedPool α) (cs : List (Change α)) : WeightedPool α := cs.foldl change p

/-! ### Refusals -/

section Refused

variable {e : WeightedPoolError} {item : α} {weight : Nat}

theorem put_of_error (h : (p.put id item weight).1 = .error e) :
    (p.put id item weight).2 = p := by
  unfold put at h ⊢
  split at h
  · rw [if_pos ‹_›]
  · cases h

theorem reweigh_of_error (h : (p.reweigh id weight).1 = .error e) :
    (p.reweigh id weight).2 = p := by
  unfold reweigh at h ⊢
  split at h
  · rfl
  · split at h
    · rw [if_pos ‹_›]
    · cases h

theorem take_of_error (h : (p.take id).1 = .error e) : (p.take id).2 = p := by
  unfold take at h ⊢
  split at h
  · rfl
  · cases h

/-- A request that is refused leaves the pool as it was. -/
theorem change_of_error {c : Change α} (h : p.answer c = .error e) : p.change c = p := by
  cases c with
  | add id item weight => exact put_of_error (map_snd_granted_eq_error_iff.mp h)
  | setWeight id weight => exact reweigh_of_error (map_snd_granted_eq_error_iff.mp h)
  | remove id => exact take_of_error (map_snd_granted_eq_error_iff.mp h)
  | clear => cases h

end Refused

/-! ### The place of a name -/

section Place

variable (hnodup : (items.map WeightedItem.id).Nodup) (hk : k < items.length)
include hnodup

theorem ne_id_of_lt (hid : items[k].id = id) (hj : j < k) : items[j].id ≠ id := by
  have hpairwise := List.pairwise_iff_getElem.mp (List.pairwise_map.mp hnodup)
  rw [← hid]
  exact hpairwise j k (Nat.lt_trans hj hk) hk hj

theorem findIdx?_id (hid : items[k].id = id) : items.findIdx? (·.id == id) = some k := by
  rw [List.findIdx?_eq_some_iff_getElem]
  refine ⟨hk, beq_iff_eq.mpr hid, fun j hj hsame => ?_⟩
  exact ne_id_of_lt hnodup hk hid hj (beq_iff_eq.mp hsame)

theorem find?_id (hid : items[k].id = id) : items.find? (·.id == id) = some items[k] := by
  rw [List.find?_eq_bind_findIdx?_getElem?, findIdx?_id hnodup hk hid]
  exact List.getElem?_eq_getElem hk

theorem eraseP_id (hid : items[k].id = id) : items.eraseP (·.id == id) = items.eraseIdx k := by
  rw [List.eraseP_eq_eraseIdx, findIdx?_id hnodup hk hid]

end Place

theorem replaceFirst_eq_set (hnodup : (items.map WeightedItem.id).Nodup) (hk : k < items.length)
    (hid : items[k].id = new.id) : replaceFirst new items = items.set k new := by
  induction items generalizing k with
  | nil => rfl
  | cons i rest ih =>
    cases k with
    | zero => exact if_pos hid
    | succ k =>
      have hfirst : i.id ≠ new.id := ne_id_of_lt hnodup hk hid (Nat.succ_pos k)
      rw [replaceFirst, if_neg hfirst, List.set_cons_succ,
        ih (List.nodup_cons.mp hnodup).2 (Nat.lt_of_succ_lt_succ hk) hid]

/-! ### Requests about one name -/

section Present

variable (hp : p.Valid) (hk : k < p.items.length)
include hp

theorem Valid.get?_present (hid : p.items[k].id = id) : p.get? id = some p.items[k] :=
  find?_id hp.nodup hk hid

/-- The total less the replaced weight, plus the new one, is the total afterwards. -/
theorem Valid.totalWeight_sub_add (new : WeightedItem α) (hid : p.items[k].id = new.id) :
    p.totalWeight - p.items[k].weight + new.weight = weightSum (p.items.set k new) := by
  have hget := hp.get?_present hk hid
  have hsum : weightSum (replaceFirst new p.items) + p.items[k].weight =
      p.totalWeight + new.weight := weightSum_replaceFirst hget
  have hle : p.items[k].weight ≤ p.totalWeight := weight_le_weightSum (mem_of_get? hget)
  rw [← replaceFirst_eq_set hp.nodup hk hid]
  omega

theorem Valid.add_present (hid : p.items[k].id = id) (item : α) (weight : Nat) :
    p.add id item weight = bounded (p.items.set k ⟨id, item, weight⟩) := by
  have hget := hp.get?_present hk hid
  have hcontains : p.contains id = true := by
    rw [contains, hget]
    rfl
  have htotal := hp.totalWeight_sub_add hk ⟨id, item, weight⟩ hid
  unfold WeightedPool.add WeightedPool.put
  dsimp only at htotal ⊢
  rw [weightOf_of_get? hget, htotal, if_pos hcontains, replaceFirst_eq_set hp.nodup hk hid]
  exact map_snd_granted_bounded _

theorem Valid.setWeight_present (hid : p.items[k].id = id) (weight : Nat) :
    p.setWeight id weight = bounded (p.items.set k { p.items[k] with weight }) := by
  -- The item goes back under its own name, which is the one that was asked for.
  have htotal := hp.totalWeight_sub_add hk { p.items[k] with weight } rfl
  have hset : replaceFirst { p.items[k] with weight } p.items =
      p.items.set k { p.items[k] with weight } := replaceFirst_eq_set hp.nodup hk rfl
  unfold WeightedPool.setWeight WeightedPool.reweigh
  rw [hp.get?_present hk hid]
  dsimp only at htotal hset ⊢
  rw [htotal, hset]
  exact map_snd_granted_bounded _

theorem Valid.remove_present (hid : p.items[k].id = id) :
    p.remove id = .ok (p.items[k], rebuild (p.items.eraseIdx k)) := by
  rw [WeightedPool.remove, WeightedPool.take, hp.get?_present hk hid, eraseP_id hp.nodup hk hid]
  rfl

end Present

section Absent

variable (h : id ∉ p.items.map WeightedItem.id)
include h

theorem add_absent (item : α) (weight : Nat) :
    p.add id item weight = bounded (p.items ++ [⟨id, item, weight⟩]) := by
  have hget := get?_eq_none_iff.mpr h
  have htotal : p.totalWeight - p.weightOf id + weight =
      weightSum (p.items ++ [⟨id, item, weight⟩]) := by
    rw [weightOf, hget, weightSum_append]
    rfl
  unfold add put
  dsimp only
  rw [htotal, contains_eq_false_iff.mpr hget, if_neg Bool.false_ne_true]
  exact map_snd_granted_bounded _

theorem setWeight_absent (weight : Nat) : p.setWeight id weight = .error (.itemNotFound id) := by
  rw [setWeight, reweigh, get?_eq_none_iff.mpr h]
  rfl

theorem remove_absent : p.remove id = .error (.itemNotFound id) := by
  rw [remove, take, get?_eq_none_iff.mpr h]
  rfl

end Absent

/-! ### Other names -/

theorem others_replaceFirst (new : WeightedItem α) (items : List (WeightedItem α)) :
    others new.id (replaceFirst new items) = others new.id items := by
  induction items with
  | nil => rfl
  | cons i rest ih =>
    unfold others at ih ⊢
    rw [replaceFirst]
    split
    · next hid => simp [hid]
    · simp only [List.filter_cons, ih]

theorem others_append_singleton (items : List (WeightedItem α)) (i : WeightedItem α) :
    others i.id (items ++ [i]) = others i.id items := by
  simp [others]

theorem others_eraseP (id : String) (items : List (WeightedItem α)) :
    others id (items.eraseP (·.id == id)) = others id items := by
  induction items with
  | nil => rfl
  | cons i rest ih =>
    unfold others at ih ⊢
    rw [List.eraseP_cons]
    cases hid : i.id == id with
    | true => simp [hid, bne]
    | false => simp only [cond_false, List.filter_cons, ih]

/-- An item that is not replaced keeps its place. -/
theorem getElem?_replaceFirst_of_ne (hj : items[j]? = some i) (hne : i.id ≠ new.id) :
    (replaceFirst new items)[j]? = some i := by
  induction items generalizing j with
  | nil => cases hj
  | cons first rest ih =>
    rw [replaceFirst]
    cases j with
    | zero =>
      obtain rfl := Option.some.inj hj
      rw [if_neg hne]
      rfl
    | succ j =>
      split
      · exact hj
      · exact ih hj

/-- The pool is as it was, or an item has been written under a name, in the place of another one or
at the end. -/
def Written (id : String) (p q : WeightedPool α) : Prop :=
  q = p ∨ ∃ new : WeightedItem α, new.id = id ∧
    (q.items = replaceFirst new p.items ∨ q.items = p.items ++ [new])

theorem written_put (p : WeightedPool α) (id : String) (item : α) (weight : Nat) :
    Written id p (p.put id item weight).2 := by
  unfold put
  split
  · exact .inl rfl
  · refine .inr ⟨⟨id, item, weight⟩, rfl, ?_⟩
    rw [items_rebuild]
    split
    · exact .inl rfl
    · exact .inr rfl

theorem written_reweigh (p : WeightedPool α) (id : String) (weight : Nat) :
    Written id p (p.reweigh id weight).2 := by
  unfold reweigh
  split
  · exact .inl rfl
  · next i hget =>
    split
    · exact .inl rfl
    · have hid : i.id = id := id_of_get? hget
      exact .inr ⟨{ i with weight }, hid, .inl rfl⟩

theorem Written.others_eq (h : Written id p q) : others id q.items = others id p.items := by
  obtain rfl | ⟨new, rfl, hitems | hitems⟩ := h
  · rfl
  · rw [hitems, others_replaceFirst]
  · rw [hitems, others_append_singleton]

theorem Written.getElem?_eq (h : Written id p q) (hj : p.items[j]? = some i) (hne : i.id ≠ id) :
    q.items[j]? = some i := by
  obtain rfl | ⟨new, rfl, hitems | hitems⟩ := h
  · exact hj
  · rw [hitems]
    exact getElem?_replaceFirst_of_ne hj hne
  · rw [hitems, List.getElem?_append_left (List.getElem?_eq_some_iff.mp hj).1]
    exact hj

theorem others_take (p : WeightedPool α) (id : String) :
    others id (p.take id).2.items = others id p.items := by
  unfold take
  split
  · rfl
  · exact others_eraseP id p.items

/-- No request, granted or refused, touches the items under other names. -/
theorem others_change {c : Change α} (h : c.name? = some id) :
    others id (p.change c).items = others id p.items := by
  cases c with
  | add id item weight =>
    obtain rfl := Option.some.inj h
    exact (p.written_put id item weight).others_eq
  | setWeight id weight =>
    obtain rfl := Option.some.inj h
    exact (p.written_reweigh id weight).others_eq
  | remove id =>
    obtain rfl := Option.some.inj h
    exact p.others_take id
  | clear => cases h

/-- What is found under a name depends on the items under it alone. -/
theorem get?_eq_of_others_eq (h : others id q.items = others id p.items) (hne : other ≠ id) :
    q.get? other = p.get? other := by
  have hfind (items : List (WeightedItem α)) :
      items.find? (·.id == other) = (others id items).find? (·.id == other) := by
    rw [others, List.find?_filter]
    congr 1
    funext i
    by_cases hother : i.id = other <;> simp [hother, hne]
  rw [get?, get?, hfind q.items, hfind p.items, h]

/-- Requests are about one name. In any pool that can come about, let a name stand at some place:
adding it anew writes its new item there, setting its weight writes the weight there, and removing
it takes the place out. A name that is absent is added to the end, and cannot be given a weight or
be removed. Adding and setting are refused just when the items would then weigh more than the bound.
Items under other names stay the same, in the same order, and keep their places unless one before
them is taken out. After a refusal the pool is what it was, whatever it is asked for next. -/
theorem Reachable.refines_ordered_map (h : Reachable p) (id : String) (item : α) (weight : Nat) :
    (∀ (k : Nat) (hk : k < p.items.length), p.items[k].id = id →
      p.add id item weight = bounded (p.items.set k ⟨id, item, weight⟩) ∧
      p.setWeight id weight = bounded (p.items.set k { p.items[k] with weight }) ∧
      p.remove id = .ok (p.items[k], rebuild (p.items.eraseIdx k))) ∧
    (id ∉ p.items.map WeightedItem.id →
      p.add id item weight = bounded (p.items ++ [⟨id, item, weight⟩]) ∧
      p.setWeight id weight = .error (.itemNotFound id) ∧
      p.remove id = .error (.itemNotFound id)) ∧
    (∀ c : Change α, c.name? = some id →
      others id (p.change c).items = others id p.items ∧
      ∀ other, other ≠ id → (p.change c).get? other = p.get? other) ∧
    (∀ (j : Nat) (i : WeightedItem α), p.items[j]? = some i → i.id ≠ id →
      (p.change (.add id item weight)).items[j]? = some i ∧
      (p.change (.setWeight id weight)).items[j]? = some i) ∧
    (∀ (c : Change α) (e : WeightedPoolError), p.answer c = .error e →
      p.change c = p ∧
      ∀ (cs : List (Change α)) (σ : Type) [Source σ] (s : σ),
        ((p.change c).changes cs).select s = (p.changes cs).select s) := by
  have hp := h.valid
  refine ⟨fun k hk hid => ?_, fun habsent => ?_, fun c hc => ?_, fun j i hj hne => ?_,
    fun c e herror => ?_⟩
  · exact ⟨hp.add_present hk hid item weight, hp.setWeight_present hk hid weight,
      hp.remove_present hk hid⟩
  · exact ⟨add_absent habsent item weight, setWeight_absent habsent weight, remove_absent habsent⟩
  · have hothers := others_change (p := p) hc
    exact ⟨hothers, fun other hne => get?_eq_of_others_eq hothers hne⟩
  · exact ⟨(p.written_put id item weight).getElem?_eq hj hne,
      (p.written_reweigh id weight).getElem?_eq hj hne⟩
  · have hsame := change_of_error herror
    refine ⟨hsame, fun cs σ _ s => ?_⟩
    rw [hsame]

/-- At a total just below the bound an item makes way for a heavier one, while there is no room for
a new one. -/
theorem refines_ordered_map_at_bound :
    let p := (empty.change (.add "sword" () 2147483600)).change (.add "relic" () 40)
    Reachable p ∧
      p.add "sword" () 2147483607 =
        .ok (rebuild [⟨"sword", (), 2147483607⟩, ⟨"relic", (), 40⟩]) ∧
      p.add "shield" () 8 = .error .totalWeightOverflow ∧
      p.change (.add "shield" () 8) = p := by
  intro p
  have hp : Reachable p := .change (.change .empty _) _
  have hitems : p.items = [⟨"sword", (), 2147483600⟩, ⟨"relic", (), 40⟩] := by decide
  have hsword := (hp.refines_ordered_map "sword" () 2147483607).1 0 (by decide) rfl
  obtain ⟨-, habsent, -, -, hrefused⟩ := hp.refines_ordered_map "shield" () 8
  have hshield : p.add "shield" () 8 = .error .totalWeightOverflow := by
    rw [(habsent (by decide)).1, hitems]
    exact if_pos (by decide)
  refine ⟨hp, ?_, hshield, (hrefused (.add "shield" () 8) _ hshield).1⟩
  rw [hsword.1, hitems]
  exact if_neg (by decide)

end WeightedPool

end Tabletop
