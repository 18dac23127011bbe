import Tabletop.Proofs.DropTable.Construction
import Tabletop.Proofs.Saved.Reading
import Tabletop.Proofs.WeightedPool.Invariant
import Tabletop.Saved.Loot

/-!
# Saved loot is built anew

A saved pool is a list of items, and a saved table a list of chances; loading hands either list to
the checks of a new pool or table. So a document is refused exactly when building would be, and for
the same reason. What has been built passes those checks again: the invariant of a pool says that
its items make it, and a table lists each tier once with the chance that it was given.

## Main definitions

* `WeightedPool.saveItems`, `DropTable.saveChances` — lists that may be good for nothing, as they
  would be saved
* `WeightedPool.IsFirstRepeated` — the item that a list is refused for

## Main results

* `WeightedPool.load_saveItems`, `DropTable.load_saveChances` — loading is reading and building
* `DropTable.create_entries` — the entries of a table make the table
* `loading_builds_anew` — what is loaded, what is refused, and what was saved
-/

namespace Tabletop

open RecordReader (finds_field)

/-! ### Weighted pools -/

namespace WeightedItem

variable {α : Type} {saveItem : α → Document} {loadItem : Reader α}

theorem load_save (hitem : ∀ a, loadItem (saveItem a) = .ok a) {i : WeightedItem α}
    (hweight : i.weight ≤ uint32Max) : load loadItem (i.save saveItem) = .ok i :=
  (finds_field (Reader.text_text i.id)).map mk
    |>.seq (finds_field (hitem i.item))
    |>.seq (finds_field (Reader.natural_of_le hweight))
    |>.read

end WeightedItem

namespace WeightedPool

variable {α : Type} {saveItem : α → Document} {loadItem : Reader α} {p : WeightedPool α}
  {items : List (WeightedItem α)}

/-- Any items, as the items of a pool are saved. -/
def saveItems (saveItem : α → Document) (items : List (WeightedItem α)) : Document :=
  .record [("items", .list (items.map (WeightedItem.save saveItem)))]

theorem save_eq (saveItem : α → Document) (p : WeightedPool α) :
    p.save saveItem = saveItems saveItem p.items := rfl

/-- Items that are read are handed to the checks of a new pool. -/
theorem load_saveItems (hitem : ∀ a, loadItem (saveItem a) = .ok a)
    (hweight : ∀ i ∈ items, i.weight ≤ uint32Max) :
    load loadItem (saveItems saveItem items) = (ofItems items).mapError .badItems := by
  have hread : loadItems loadItem (saveItems saveItem items) = .ok items :=
    (finds_field (Reader.list_map fun i hi => WeightedItem.load_save hitem (hweight i hi))).map id
      |>.read
  rw [load, hread]
  rfl

/-- The item is the first one whose name an earlier item bears. -/
def IsFirstRepeated (items : List (WeightedItem α)) (i : WeightedItem α) : Prop :=
  ∃ before after : List (WeightedItem α), items = before ++ i :: after ∧
    (before.map WeightedItem.id).Nodup ∧ i.id ∈ before.map WeightedItem.id

/-- The search stops at an item whose name is one of the names to avoid or of the names before it,
which are distinct and none to avoid. -/
theorem exists_of_firstDuplicate?_eq_some {seen : List String} {id : String}
    (h : firstDuplicate? seen items = some id) :
    ∃ (before : List (WeightedItem α)) (i : WeightedItem α) (after : List (WeightedItem α)),
      items = before ++ i :: after ∧ i.id = id ∧ (before.map WeightedItem.id).Nodup ∧
        (∀ j ∈ before, j.id ∉ seen) ∧ (id ∈ seen ∨ id ∈ before.map WeightedItem.id) := by
  induction items generalizing seen with
  | nil => cases h
  | cons i rest ih =>
    rw [firstDuplicate?] at h
    split at h
    · next hseen =>
      cases h
      exact ⟨[], i, rest, rfl, rfl, List.nodup_nil, List.forall_mem_nil _, .inl hseen⟩
    · next hfresh =>
      -- For the rest, the name of the first item is one of those to avoid.
      obtain ⟨before, j, after, rfl, rfl, hnodup, hnew, hold⟩ := ih h
      refine ⟨i :: before, j, after, rfl, rfl, ?_, ?_, ?_⟩
      · rw [List.map_cons, List.nodup_cons, List.mem_map]
        refine ⟨?_, hnodup⟩
        rintro ⟨k, hk, hid⟩
        exact hnew k hk (hid ▸ List.mem_cons_self)
      · rw [List.forall_mem_cons]
        exact ⟨hfresh, fun k hk hseen => hnew k hk (List.mem_cons_of_mem _ hseen)⟩
      · simp only [List.mem_cons, List.map_cons] at hold ⊢
        tauto

/-- A repeated name is what a list of items is refused for, whatever the total. -/
theorem ofItems_of_not_nodup (h : ¬ (items.map WeightedItem.id).Nodup) :
    ∃ i, IsFirstRepeated items i ∧ ofItems items = .error (.duplicateItem i.id) := by
  cases hdup : firstDuplicate? [] items with
  | none => exact absurd (firstDuplicate?_eq_none_iff.mp hdup).1 h
  | some id =>
    obtain ⟨before, i, after, hitems, rfl, hnodup, -, hold⟩ :=
      exists_of_firstDuplicate?_eq_some hdup
    refine ⟨i, ⟨before, after, hitems, hnodup, hold.resolve_left List.not_mem_nil⟩, ?_⟩
    rw [ofItems, hdup]

theorem ofItems_of_heavy (hnodup : (items.map WeightedItem.id).Nodup)
    (hheavy : maxTotalWeight < weightSum items) :
    ofItems items = .error .totalWeightOverflow := by
  have hdup : firstDuplicate? [] items = none :=
    firstDuplicate?_eq_none_iff.mpr ⟨hnodup, fun i _ => List.not_mem_nil⟩
  rw [ofItems, hdup]
  exact if_pos hheavy

/-- A pool that can come about is what its saved form is loaded as. -/
theorem Valid.load_save (hp : p.Valid) (hitem : ∀ a, loadItem (saveItem a) = .ok a) :
    WeightedPool.load loadItem (p.save saveItem) = .ok p := by
  -- No weight exceeds the bound of the total, which is below that of a word.
  have hweight : ∀ i ∈ p.items, i.weight ≤ uint32Max := fun i hi =>
    (weight_le_weightSum hi).trans (hp.totalWeight_le.trans (by decide))
  rw [save_eq, load_saveItems hitem hweight, valid_iff_ofItems.mp hp]
  rfl

end WeightedPool

/-! ### Drop tables -/

namespace DropTable

section Create

variable {τ α : Type} [DecidableEq τ] [TierSet τ] [Chance α] {chances : List (τ × α)}
  {noResult : α} {table : DropTable τ α} {t : τ}

theorem mem_entries_tableOf {entry : τ × α} :
    entry ∈ (tableOf chances noResult).entries ↔
      entry.1 ∈ (TierSet.all : List τ) ∧ entry.2 = given chances entry.1 := by
  rw [entries_tableOf, List.mem_map]
  constructor
  · rintro ⟨t, ht, rfl⟩
    exact ⟨ht, rfl⟩
  · rintro ⟨ht, hchance⟩
    exact ⟨entry.1, ht, by rw [← hchance]⟩

theorem count_entries_tableOf_le_one (t : τ) :
    ((tableOf chances noResult).entries.map Prod.fst).count t ≤ 1 := by
  have htiers : (tableOf chances noResult).entries.map Prod.fst = TierSet.all :=
    map_fst_complete chances
  rw [htiers]
  exact List.nodup_iff_count_le_one.mp TierSet.all_nodup t

/-- A table gives each tier what its list of chances gives it. -/
theorem given_entries_tableOf (ht : t ∈ (TierSet.all : List τ)) :
    given (tableOf chances noResult).entries t = given chances t :=
  given_of_mem (mem_entries_tableOf.mpr ⟨ht, rfl⟩ : (t, given chances t) ∈ _)
    (count_entries_tableOf_le_one t)

theorem tableOf_entries (chances : List (τ × α)) (noResult : α) :
    tableOf (tableOf chances noResult).entries noResult = tableOf chances noResult := by
  have hentries : complete (tableOf chances noResult).entries = complete chances := by
    rw [complete_eq_map, complete_eq_map]
    exact List.map_congr_left fun t ht => by rw [given_entries_tableOf ht]
  exact congrArg (DropTable.mk · noResult) hentries

variable [LawfulChance α]

/-- The entries of a table pass the checks that its list of chances has passed. No entry has a tier
that can never be drawn, and the sum is the one that was checked. -/
theorem Acceptable.entries (h : Acceptable chances noResult) :
    Acceptable (tableOf chances noResult).entries noResult where
  noResult_isProper := h.noResult_isProper
  isProper entry hentry := by
    rw [(mem_entries_tableOf.mp hentry).2]
    exact isProper_given h.isProper entry.1
  count_le_one t _ := count_entries_tableOf_le_one t
  unlisted entry hentry hnot := absurd (mem_entries_tableOf.mp hentry).1 hnot
  sum := by
    rw [map_snd_complete, List.map_congr_left fun t ht => given_entries_tableOf ht,
      ← map_snd_complete]
    exact h.sum

/-- The entries of a table make the table. -/
theorem create_entries (h : create chances noResult = .ok table) :
    create table.entries table.noResult = .ok table := by
  obtain ⟨hacceptable, rfl⟩ := create_eq_ok_iff.mp h
  exact create_eq_ok_iff.mpr ⟨hacceptable.entries, (tableOf_entries chances noResult).symm⟩

end Create

variable {τ : Type} [DecidableEq τ] [TierSet τ] {saveTier : τ → Document} {loadTier : Reader τ}
  {chances : List (τ × Float)} {noResult : Float} {table : DropTable τ Float}

/-- Any chances, as the chances of a table are saved. -/
def saveChances (saveTier : τ → Document) (chances : List (τ × Float)) (noResult : Float) :
    Document :=
  save saveTier ⟨chances, noResult⟩

/-- Chances that are read are handed to the checks of a new table. -/
theorem load_saveChances (htier : ∀ t, loadTier (saveTier t) = .ok t)
    (chances : List (τ × Float)) (noResult : Float) :
    load loadTier (saveChances saveTier chances noResult) =
      (create chances noResult).mapError .badTable := by
  have hentries : Reader.list (Reader.pair loadTier Reader.real)
      (.list (chances.map fun x => .list [saveTier x.1, .real x.2])) = .ok chances :=
    Reader.list_map fun x _ => Reader.pair_list (htier x.1) (Reader.real_real x.2)
  have hread : loadChances loadTier (saveChances saveTier chances noResult) =
      .ok (chances, noResult) :=
    (finds_field hentries).map Prod.mk
      |>.seq (finds_field (Reader.real_real noResult))
      |>.read
  rw [load, hread]
  rfl

/-- A table is what its saved form is loaded as. -/
theorem load_save (htier : ∀ t, loadTier (saveTier t) = .ok t)
    (h : create chances noResult = .ok table) :
    load loadTier (table.save saveTier) = .ok table := by
  have hload := load_saveChances htier table.entries table.noResult
  rw [create_entries h] at hload
  exact hload

end DropTable

theorem Quality.load_save (q : Quality) : load q.save = .ok q :=
  Reader.variant_name (by cases q <;> rfl)

/-! ### Loading and building -/

/-- For items and tiers that are read back, loading is as strict as building and undoes saving. A
list of items is loaded exactly when its names are distinct and its total weight is bounded; the
first repeated name is reported whatever the total, and an excessive total when there is none. A
list of chances is loaded exactly when it makes a table, and otherwise refused for the same reason.
Every pool that can come about, and every table that was built, is what its saved form is loaded as,
so that no draw tells the two apart. -/
theorem loading_builds_anew {α τ : Type} [DecidableEq τ] [TierSet τ] {saveItem : α → Document}
    {loadItem : Reader α} {saveTier : τ → Document} {loadTier : Reader τ}
    (hitem : ∀ a, loadItem (saveItem a) = .ok a) (htier : ∀ t, loadTier (saveTier t) = .ok t) :
    (∀ items : List (WeightedItem α), (∀ i ∈ items, i.weight ≤ uint32Max) →
      let loaded := WeightedPool.load loadItem (WeightedPool.saveItems saveItem items)
      ((∃ p, loaded = .ok p) ↔
        (items.map WeightedItem.id).Nodup ∧ WeightedPool.weightSum items ≤ maxTotalWeight) ∧
      (∀ p, loaded = .ok p → p.items = items) ∧
      (¬ (items.map WeightedItem.id).Nodup → ∃ i, WeightedPool.IsFirstRepeated items i ∧
        loaded = .error (.badItems (.duplicateItem i.id))) ∧
      ((items.map WeightedItem.id).Nodup → maxTotalWeight < WeightedPool.weightSum items →
        loaded = .error (.badItems .totalWeightOverflow))) ∧
    (∀ (chances : List (τ × Float)) (noResult : Float),
      let loaded := DropTable.load loadTier (DropTable.saveChances saveTier chances noResult)
      (∀ table, loaded = .ok table ↔ DropTable.create chances noResult = .ok table) ∧
      (∀ e, DropTable.create chances noResult = .error e → loaded = .error (.badTable e))) ∧
    (∀ p : WeightedPool α, p.Reachable → WeightedPool.load loadItem (p.save saveItem) = .ok p) ∧
    (∀ (chances : List (τ × Float)) (noResult : Float) (table : DropTable τ Float),
      DropTable.create chances noResult = .ok table →
        DropTable.load loadTier (table.save saveTier) = .ok table) := by
  refine ⟨?_, ?_, fun p hp => hp.valid.load_save hitem,
    fun chances noResult table => DropTable.load_save htier⟩
  · intro items hweight loaded
    have hloaded : loaded = (WeightedPool.ofItems items).mapError .badItems :=
      WeightedPool.load_saveItems hitem hweight
    have hok : ∀ p, loaded = .ok p ↔ (items.map WeightedItem.id).Nodup ∧
        WeightedPool.weightSum items ≤ maxTotalWeight ∧ p = WeightedPool.rebuild items := by
      intro p
      rw [hloaded, mapError_eq_ok_iff, WeightedPool.ofItems_eq_ok_iff]
    refine ⟨?_, ?_, ?_, ?_⟩
    · constructor
      · rintro ⟨p, hp⟩
        obtain ⟨hnodup, hle, -⟩ := (hok p).mp hp
        exact ⟨hnodup, hle⟩
      · rintro ⟨hnodup, hle⟩
        exact ⟨_, (hok _).mpr ⟨hnodup, hle, rfl⟩⟩
    · intro p hp
      obtain ⟨-, -, rfl⟩ := (hok p).mp hp
      rfl
    · intro hdup
      obtain ⟨i, hfirst, herror⟩ := WeightedPool.ofItems_of_not_nodup hdup
      refine ⟨i, hfirst, ?_⟩
      rw [hloaded, herror]
      rfl
    · intro hnodup hheavy
      rw [hloaded, WeightedPool.ofItems_of_heavy hnodup hheavy]
      rfl
  · intro chances noResult loaded
    have hloaded : loaded = (DropTable.create chances noResult).mapError .badTable :=
      DropTable.load_saveChances htier chances noResult
    constructor
    · intro table
      rw [hloaded, mapError_eq_ok_iff]
    · intro e he
      rw [hloaded, he]
      rfl

/-- A list with one name twice is refused for the name, although it is also too heavy; a pool that
has refused a weight is loaded as it was. -/
theorem loading_builds_anew_with_names :
    (∀ name, Reader.text (.text name) = .ok name) ∧ (∀ q, Quality.load (Quality.save q) = .ok q) ∧
    WeightedPool.load Reader.text
        (WeightedPool.saveItems .text [⟨"a", "axe", 2147483647⟩, ⟨"a", "adze", 1⟩]) =
      .error (.badItems (.duplicateItem "a")) ∧
    let p := (((WeightedPool.empty.change (.add "a" "axe" 3)).change (.add "b" "bow" 0)).change
      (.setWeight "a" 2147483648))
    p.totalWeight = 3 ∧ WeightedPool.load Reader.text (p.save .text) = .ok p := by
  have hanew := loading_builds_anew Reader.text_text Quality.load_save
  refine ⟨Reader.text_text, Quality.load_save, ?_, by decide, ?_⟩
  · obtain ⟨i, ⟨before, after, hitems, -, -⟩, herror⟩ :=
      (hanew.1 [⟨"a", "axe", 2147483647⟩, ⟨"a", "adze", 1⟩] (by decide)).2.2.1 (by decide)
    -- Every item of the list bears the same name.
    have hmem : i ∈ [⟨"a", "axe", 2147483647⟩, ⟨"a", "adze", 1⟩] :=
      hitems ▸ List.mem_append_right before List.mem_cons_self
    have hid : i.id = "a" := by
      rcases List.mem_pair.mp hmem with rfl | rfl <;> rfl
    rw [hid] at herror
    exact herror
  · exact hanew.2.2.1 _ (.change (.change (.change .empty _) _) _)

end Tabletop
