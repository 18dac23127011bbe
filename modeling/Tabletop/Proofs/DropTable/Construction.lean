import Mathlib.Data.List.Count
import Mathlib.Data.List.Induction
import Tabletop.Loot.DropTable
import Tabletop.Proofs.DropTable.Amounts

/-!
# Building drop tables

A table is built by looking at the chance of nothing, then at one listed chance after the other,
and at last at the sum. Here the checks are stated one by one, each of them in terms of the list
alone: an entry is judged by itself and by the entries before it, and the sum by the whole list.
Building a table runs these checks in order, so that it ends with the first fault, or else with the
one table that has the listed chances.
-/

namespace Tabletop.DropTable

section Specification

variable {τ α : Type} [DecidableEq τ] [TierList τ] [Chance α]

/-- The chance that a list gives to a tier: zero if it is not listed. -/
def given (chances : List (τ × α)) (t : τ) : α := (chances.lookup t).getD Chance.zero

/-- The table with the listed chances. -/
def tableOf (chances : List (τ × α)) (noResult : α) : DropTable τ α where
  entries := complete chances
  noResult := noResult

/-- The sum of the chances of tiers that can never be drawn. -/
def unlistedTotal (chances : List (τ × α)) : α :=
  ((chances.filter (·.1 ∉ (TierList.all : List τ))).map Prod.snd).foldl (· + ·) Chance.zero

/-- What is wrong with the chance of nothing. -/
def noResultFault (noResult : α) : Option (DropTableError α) :=
  if Chance.isFinite noResult = false then some (.nonFinite "no result")
  else if noResult < Chance.zero then some (.negativeNoResult noResult)
  else none

/-- What is wrong with a listed chance, after the entries before it. -/
def entryFault (earlier : List (τ × α)) (entry : τ × α) : Option (DropTableError α) :=
  if Chance.isFinite entry.2 = false then some (.nonFinite (TierList.name entry.1))
  else if entry.2 < Chance.zero then some (.negativeProbability (TierList.name entry.1) entry.2)
  else if entry.1 ∈ (TierList.all : List τ) ∧ entry.1 ∈ earlier.map Prod.fst then
    some (.duplicateTier (TierList.name entry.1))
  else none

/-- What is wrong with the sum. -/
def sumFault (chances : List (τ × α)) (noResult : α) : Option (DropTableError α) :=
  let total := Chance.total ((complete chances).map Prod.snd) + unlistedTotal chances + noResult
  if Chance.missesOne total = true ∨ Chance.zero < unlistedTotal chances then
    some (.sumOutOfTolerance total)
  else none

/-- The checks of the listed chances in order, each after those before it. -/
def entryFaults (chances : List (τ × α)) : List (Option (DropTableError α)) :=
  chances.mapIdx fun i entry => entryFault (chances.take i) entry

/-- The checks of a table in order: the chance of nothing, every listed chance, the sum. -/
def faults (chances : List (τ × α)) (noResult : α) : List (Option (DropTableError α)) :=
  noResultFault noResult :: entryFaults chances ++ [sumFault chances noResult]

/-- What a list of chances must be like to make a table. -/
structure Acceptable (chances : List (τ × α)) (noResult : α) : Prop where
  noResult_isProper : Chance.IsProper noResult
  isProper : ∀ entry ∈ chances, Chance.IsProper entry.2
  count_le_one : ∀ t ∈ (TierList.all : List τ), (chances.map Prod.fst).count t ≤ 1
  unlisted : ∀ entry ∈ chances, entry.1 ∉ (TierList.all : List τ) → ¬Chance.zero < entry.2
  sum : Chance.missesOne (Chance.total ((complete chances).map Prod.snd) + noResult) = false

end Specification

/-! ### Running the checks -/

section Run

variable {τ α : Type} [DecidableEq τ] [TierList τ]

/-- The listed chances of the tiers that can be drawn. -/
def listed (chances : List (τ × α)) : List (τ × α) :=
  chances.filter (·.1 ∈ (TierList.all : List τ))

theorem lookup_listed (chances : List (τ × α)) {t : τ} (ht : t ∈ (TierList.all : List τ)) :
    (listed chances).lookup t = chances.lookup t := by
  induction chances with
  | nil => rfl
  | cons entry chances ih =>
    obtain ⟨u, x⟩ := entry
    by_cases htu : t = u
    · subst htu
      simp [listed, ht]
    · have hbeq : (t == u) = false := by simpa using htu
      rw [List.lookup_cons, hbeq, ← ih, listed, List.filter_cons]
      split
      · rw [List.lookup_cons, hbeq]
        rfl
      · rfl

/-- A new entry of a tier that can be drawn is collected. -/
theorem listed_append_singleton (chances : List (τ × α)) (entry : τ × α) :
    listed (chances ++ [entry]) =
      if entry.1 ∈ (TierList.all : List τ) then listed chances ++ [entry] else listed chances := by
  split <;> simp [listed, *]

theorem isSome_lookup_listed (chances : List (τ × α)) {t : τ} (ht : t ∈ (TierList.all : List τ)) :
    ((listed chances).lookup t).isSome = true ↔ t ∈ chances.map Prod.fst := by
  rw [lookup_listed chances ht, List.lookup_isSome_iff]
  simp only [beq_iff_eq, List.mem_map, @eq_comm _ t]

variable [Chance α]

/-- A new entry of a tier that can never be drawn is added up. -/
theorem unlistedTotal_append_singleton (chances : List (τ × α)) (entry : τ × α) :
    unlistedTotal (chances ++ [entry]) =
      if entry.1 ∈ (TierList.all : List τ) then unlistedTotal chances
      else unlistedTotal chances + entry.2 := by
  split <;> simp [unlistedTotal, *]

theorem complete_listed (chances : List (τ × α)) : complete (listed chances) = complete chances :=
  fill_congr (fun _ ht => lookup_listed chances ht) []

/-- One more entry is judged after those before it, and joins them unless it is refused. -/
theorem collect_cons (earlier : List (τ × α)) (entry : τ × α) (rest : List (τ × α)) :
    collect (listed earlier) (unlistedTotal earlier) (entry :: rest) =
      match entryFault earlier entry with
      | some fault => .error fault
      | none =>
        collect (listed (earlier ++ [entry])) (unlistedTotal (earlier ++ [entry])) rest := by
  obtain ⟨t, x⟩ := entry
  rw [collect, entryFault, listed_append_singleton, unlistedTotal_append_singleton]
  -- Both sides ask the same questions in the same order; only the last is asked differently.
  by_cases hfinite : Chance.isFinite x = false
  · rw [if_pos (by simp [hfinite]), if_pos hfinite]
  rw [if_neg (by simpa using hfinite), if_neg hfinite]
  by_cases hneg : x < Chance.zero
  · rw [if_pos hneg, if_pos hneg]
  rw [if_neg hneg, if_neg hneg]
  by_cases ht : t ∈ (TierList.all : List τ)
  · rw [if_pos ht, if_pos ht, if_pos ht]
    by_cases hlisted : t ∈ earlier.map Prod.fst
    · rw [if_pos ((isSome_lookup_listed earlier ht).2 hlisted), if_pos ⟨ht, hlisted⟩]
    · rw [if_neg (mt (isSome_lookup_listed earlier ht).1 hlisted), if_neg (hlisted ·.2)]
  · rw [if_neg ht, if_neg ht, if_neg ht, if_neg (ht ·.1)]

/-- Collecting the entries ends with the first that is refused. -/
theorem collect_eq (earlier rest : List (τ × α)) :
    collect (listed earlier) (unlistedTotal earlier) rest =
      match (rest.mapIdx fun i entry => entryFault (earlier ++ rest.take i) entry).findSome? id with
      | some fault => .error fault
      | none => .ok (listed (earlier ++ rest), unlistedTotal (earlier ++ rest)) := by
  -- The entries before the rest grow along the list; they are all that an entry is judged by.
  induction rest generalizing earlier with
  | nil => simp [collect]
  | cons entry rest ih =>
    rw [collect_cons, List.mapIdx_cons, List.findSome?_cons]
    simp only [List.take_zero, List.append_nil, id]
    cases entryFault earlier entry with
    | some fault => rfl
    | none => simp [ih]

/-- Building a table ends with the first fault, or with the table of the listed chances. -/
theorem create_eq (chances : List (τ × α)) (noResult : α) :
    create chances noResult =
      match (faults chances noResult).findSome? id with
      | some fault => .error fault
      | none => .ok (tableOf chances noResult) := by
  have hcollect : collect [] Chance.zero chances =
      match (entryFaults chances).findSome? id with
      | some fault => .error fault
      | none => .ok (listed chances, unlistedTotal chances) := collect_eq [] chances
  rw [create, hcollect, faults, List.cons_append, List.findSome?_cons, noResultFault]
  by_cases hfinite : Chance.isFinite noResult = false
  · rw [if_pos (by simp [hfinite]), if_pos hfinite]
    rfl
  rw [if_neg (by simpa using hfinite), if_neg hfinite]
  by_cases hneg : noResult < Chance.zero
  · rw [if_pos hneg, if_pos hneg]
    rfl
  rw [if_neg hneg, if_neg hneg, List.findSome?_append]
  cases (entryFaults chances).findSome? id with
  | some fault => rfl
  | none =>
    -- All entries are collected now, and what is left is the check of the sum.
    change (if _ then _ else _) = _
    simp only [id, Option.none_or, List.findSome?_singleton, complete_listed, sumFault, tableOf]
    split <;> rfl

end Run

/-! ### Lists without faults -/

section NoFault

variable {τ α : Type} [DecidableEq τ] [TierList τ] [Chance α]

theorem noResultFault_eq_none_iff (noResult : α) :
    noResultFault noResult = none ↔ Chance.IsProper noResult := by
  unfold noResultFault Chance.IsProper
  split
  · simp [*]
  · split <;> simp_all

theorem entryFault_eq_none_iff (earlier : List (τ × α)) (entry : τ × α) :
    entryFault earlier entry = none ↔ Chance.IsProper entry.2 ∧
      (entry.1 ∈ (TierList.all : List τ) → entry.1 ∉ earlier.map Prod.fst) := by
  unfold entryFault Chance.IsProper
  split
  · simp [*]
  · split
    · simp [*]
    · split <;> simp_all

theorem entryFaults_append_singleton (chances : List (τ × α)) (entry : τ × α) :
    entryFaults (chances ++ [entry]) = entryFaults chances ++ [entryFault chances entry] := by
  rw [entryFaults, List.mapIdx_concat, List.take_left, entryFaults]
  congr 1
  apply List.mapIdx_eq_mapIdx_iff.2
  intro i hi
  rw [List.take_append_of_le_length hi.le]

/-- No entry is refused just when all chances are proper and no tier that can be drawn is listed
twice. -/
theorem forall_entryFaults_eq_none_iff (chances : List (τ × α)) :
    (∀ fault ∈ entryFaults chances, fault = none) ↔
      (∀ entry ∈ chances, Chance.IsProper entry.2) ∧
        ∀ t ∈ (TierList.all : List τ), (chances.map Prod.fst).count t ≤ 1 := by
  induction chances using List.reverseRecOn with
  | nil => simp [entryFaults]
  | append_singleton chances entry ih =>
    -- The new entry may have a tier that is listed at most once only if it is not listed yet.
    have hcount : (∀ t ∈ (TierList.all : List τ),
        ((chances ++ [entry]).map Prod.fst).count t ≤ 1) ↔
        (∀ t ∈ (TierList.all : List τ), (chances.map Prod.fst).count t ≤ 1) ∧
        (entry.1 ∈ (TierList.all : List τ) → entry.1 ∉ chances.map Prod.fst) := by
      simp only [List.map_append, List.map_singleton, List.count_append, List.count_singleton,
        beq_iff_eq]
      constructor
      · intro h
        refine ⟨fun t ht => (Nat.le_add_right _ _).trans (h t ht), fun ht => ?_⟩
        have := h entry.1 ht
        rw [if_pos rfl] at this
        exact List.count_eq_zero.1 (by omega)
      · rintro ⟨h, hnew⟩ t ht
        split
        · rename_i htier
          rw [List.count_eq_zero.2 (htier ▸ hnew (htier ▸ ht))]
        · exact h t ht
    rw [entryFaults_append_singleton, hcount]
    simp only [List.mem_append, List.mem_singleton, or_imp, forall_and, forall_eq, ih,
      entryFault_eq_none_iff]
    tauto

omit [TierList τ] [Chance α] in
/-- A tier that is listed once is found with the listed chance. -/
theorem lookup_of_mem {chances : List (τ × α)} {entry : τ × α}
    (h : entry ∈ chances) (hcount : (chances.map Prod.fst).count entry.1 ≤ 1) :
    chances.lookup entry.1 = some entry.2 := by
  obtain ⟨before, after, rfl⟩ := List.append_of_mem h
  -- A search from the front stops at the entry, as nothing before it has its tier.
  have hbefore : entry.1 ∉ before.map Prod.fst := by
    simp only [List.map_append, List.map_cons, List.count_append, List.count_cons_self] at hcount
    exact List.count_eq_zero.1 (by omega)
  apply List.lookup_eq_some_iff.2
  refine ⟨before, after, rfl, fun p hp => ?_⟩
  have : entry.1 ≠ p.1 := fun heq => hbefore (heq ▸ List.mem_map_of_mem hp)
  simpa using this

omit [TierList τ] [Chance α] in
theorem lookup_of_not_mem {chances : List (τ × α)} {t : τ} (h : t ∉ chances.map Prod.fst) :
    chances.lookup t = none := by
  rw [List.lookup_eq_none_iff]
  intro entry hentry
  have : t ≠ entry.1 := fun heq => h (heq ▸ List.mem_map_of_mem hentry)
  simpa using this

omit [TierList τ] in
theorem given_of_mem {chances : List (τ × α)} {entry : τ × α}
    (h : entry ∈ chances) (hcount : (chances.map Prod.fst).count entry.1 ≤ 1) :
    given chances entry.1 = entry.2 := by
  rw [given, lookup_of_mem h hcount, Option.getD_some]

omit [TierList τ] in
/-- What is filled in is a given chance or zero. -/
theorem forall_fill {P : α → Prop} {chances : List (τ × α)} (hzero : P Chance.zero)
    (hgiven : ∀ t, P (given chances t)) (seen tiers : List τ) :
    ∀ entry ∈ fill chances seen tiers, P entry.2 := by
  induction tiers generalizing seen with
  | nil => exact fun entry hentry => by cases hentry
  | cons t rest ih =>
    rw [fill, List.forall_mem_cons]
    refine ⟨?_, ih (t :: seen)⟩
    split
    · exact hzero
    · exact hgiven t

variable [LawfulChance α]

omit [TierList τ] in
/-- What a list of proper chances gives to a tier, listed or not, is a proper chance. -/
theorem isProper_given {chances : List (τ × α)}
    (h : ∀ entry ∈ chances, Chance.IsProper entry.2) (t : τ) :
    Chance.IsProper (given chances t) := by
  unfold given
  cases hlookup : chances.lookup t with
  | none =>
    obtain ⟨hneg, hfinite⟩ := LawfulChance.isAmount_zero (α := α)
    exact ⟨hfinite.resolve_right hneg, hneg⟩
  | some x =>
    obtain ⟨before, after, rfl, -⟩ := List.lookup_eq_some_iff.1 hlookup
    exact h (t, x) (by simp)

omit [TierList τ] in
theorem isAmount_given {chances : List (τ × α)}
    (h : ∀ entry ∈ chances, Chance.IsProper entry.2) (t : τ) :
    Chance.IsAmount (given chances t) :=
  (isProper_given h t).isAmount

theorem isAmount_total_complete {chances : List (τ × α)}
    (h : ∀ entry ∈ chances, Chance.IsProper entry.2) :
    Chance.IsAmount (Chance.total ((complete chances).map Prod.snd)) := by
  apply Chance.isAmount_total
  exact List.forall_mem_map.2 (forall_fill LawfulChance.isAmount_zero (isAmount_given h) [] _)

/-- What the tiers that can never be drawn add up to is zero just when each of them is. -/
theorem isAmount_unlistedTotal {chances : List (τ × α)}
    (h : ∀ entry ∈ chances, Chance.IsProper entry.2) :
    Chance.IsAmount (unlistedTotal chances) ∧ (¬Chance.zero < unlistedTotal chances ↔
      ∀ entry ∈ chances, entry.1 ∉ (TierList.all : List τ) → ¬Chance.zero < entry.2) := by
  have hamount : ∀ x ∈ (chances.filter (·.1 ∉ (TierList.all : List τ))).map Prod.snd,
      Chance.IsAmount x := by
    intro x hx
    obtain ⟨entry, hentry, rfl⟩ := List.mem_map.1 hx
    exact (h entry (List.mem_filter.1 hentry).1).isAmount
  refine ⟨Chance.isAmount_foldl_add LawfulChance.isAmount_zero hamount, ?_⟩
  rw [unlistedTotal, Chance.zero_lt_foldl_add_iff LawfulChance.isAmount_zero hamount,
    or_iff_right LawfulChance.isAmount_zero.1]
  simp only [not_exists, not_and, List.forall_mem_map, List.mem_filter, decide_eq_true_eq, and_imp]

/-- Once the tiers that can never be drawn add up to zero, they do not count in the sum. -/
theorem sumFault_eq_none_iff {chances : List (τ × α)} {noResult : α}
    (hnoResult : Chance.IsProper noResult) (h : ∀ entry ∈ chances, Chance.IsProper entry.2) :
    sumFault chances noResult = none ↔
      (∀ entry ∈ chances, entry.1 ∉ (TierList.all : List τ) → ¬Chance.zero < entry.2) ∧
      Chance.missesOne (Chance.total ((complete chances).map Prod.snd) + noResult) = false := by
  obtain ⟨hamount, hunlisted⟩ := isAmount_unlistedTotal h
  have htotal := isAmount_total_complete h
  rw [← hunlisted, sumFault]
  by_cases hzero : Chance.zero < unlistedTotal chances
  · simp [hzero]
  · simp [hzero, LawfulChance.missesOne_add_add htotal hamount hnoResult.isAmount hzero]

/-- There is no fault just when all requirements are met. -/
theorem faults_eq_none_iff (chances : List (τ × α)) (noResult : α) :
    (faults chances noResult).findSome? id = none ↔ Acceptable chances noResult := by
  have hchecks : (faults chances noResult).findSome? id = none ↔
      Chance.IsProper noResult ∧
      ((∀ entry ∈ chances, Chance.IsProper entry.2) ∧
        ∀ t ∈ (TierList.all : List τ), (chances.map Prod.fst).count t ≤ 1) ∧
      sumFault chances noResult = none := by
    rw [List.findSome?_eq_none_iff, ← noResultFault_eq_none_iff,
      ← forall_entryFaults_eq_none_iff]
    simp [faults, or_imp, forall_and]
  rw [hchecks]
  constructor
  · rintro ⟨hnoResult, ⟨hproper, hcount⟩, hsum⟩
    obtain ⟨hunlisted, hmisses⟩ := (sumFault_eq_none_iff hnoResult hproper).1 hsum
    exact ⟨hnoResult, hproper, hcount, hunlisted, hmisses⟩
  · rintro ⟨hnoResult, hproper, hcount, hunlisted, hmisses⟩
    have hsum := (sumFault_eq_none_iff hnoResult hproper).2 ⟨hunlisted, hmisses⟩
    exact ⟨hnoResult, ⟨hproper, hcount⟩, hsum⟩

/-- A table is built just when all requirements are met, and then it is the table of the listed
chances. -/
theorem create_eq_ok_iff {chances : List (τ × α)} {noResult : α} {table : DropTable τ α} :
    create chances noResult = .ok table ↔
      Acceptable chances noResult ∧ table = tableOf chances noResult := by
  rw [create_eq, ← faults_eq_none_iff]
  cases (faults chances noResult).findSome? id with
  | none => simp [eq_comm]
  | some fault => simp

end NoFault

/-! ### Tiers without repetition -/

section Distinct

variable {τ α : Type} [DecidableEq τ] [TierSet τ] [Chance α]

/-- In an ordered set every tier has its given chance. -/
theorem complete_eq_map (chances : List (τ × α)) :
    complete chances = TierSet.all.map fun t => (t, given chances t) :=
  fill_eq_map chances TierSet.all_nodup fun _ _ => List.not_mem_nil

theorem map_snd_complete (chances : List (τ × α)) :
    (complete chances).map Prod.snd = TierSet.all.map (given chances) := by
  rw [complete_eq_map, List.map_map]
  rfl

theorem entries_tableOf (chances : List (τ × α)) (noResult : α) :
    (tableOf chances noResult).entries = TierSet.all.map fun t => (t, given chances t) :=
  complete_eq_map chances

theorem dropChance_tableOf (chances : List (τ × α)) (noResult : α) :
    (tableOf chances noResult).dropChance = Chance.total (TierSet.all.map (given chances)) :=
  congrArg Chance.total (map_snd_complete chances)

end Distinct

/-! ### Tables of floating-point chances -/

section FloatingPoint

variable {τ : Type} [DecidableEq τ] [TierSet τ]

/-- A table is built from floating-point chances just when they are finite and not below zero, no
tier that can be drawn is listed twice, one that can never be drawn has chance zero, and the chances
of the tiers in their order and the chance of nothing make up one within the tolerance, all of them
added up as floating-point numbers are. The table then has the listed chances, every tier in order,
and otherwise the first fault in the order of the checks is reported. -/
theorem create_iff (chances : List (τ × Float)) (noResult : Float) :
    (∀ table, create chances noResult = .ok table ↔
      (noResult.isFinite = true ∧ ¬noResult < 0.0) ∧
      (∀ entry ∈ chances, entry.2.isFinite = true ∧ ¬entry.2 < 0.0) ∧
      (∀ t ∈ (TierSet.all : List τ), (chances.map Prod.fst).count t ≤ 1) ∧
      (∀ entry ∈ chances, entry.1 ∉ (TierSet.all : List τ) → (entry.2 == 0.0) = true) ∧
      (Chance.total (TierSet.all.map (given chances)) + noResult - 1.0).abs ≤ Chance.tolerance ∧
      table.entries = TierSet.all.map (fun t => (t, given chances t)) ∧
      table.noResult = noResult) ∧
    (∀ table, create chances noResult = .ok table →
      (∀ entry ∈ chances, entry.1 ∈ (TierSet.all : List τ) → entry ∈ table.entries) ∧
      (table.dropChance + table.noResult - 1.0).abs ≤ Chance.tolerance) ∧
    (∀ fault, create chances noResult = .error fault ↔
      (faults chances noResult).findSome? id = some fault) := by
  have hsum (hnoResult : Chance.IsProper noResult)
      (h : ∀ entry ∈ chances, Chance.IsProper entry.2) :
      Chance.IsAmount (Chance.total (TierSet.all.map (given chances)) + noResult) := by
    rw [← map_snd_complete]
    exact LawfulChance.isAmount_add (isAmount_total_complete h) hnoResult.isAmount
  refine ⟨fun table => ?_, fun table htable => ?_, fun fault => ?_⟩
  · rw [create_eq_ok_iff]
    constructor
    · rintro ⟨⟨hnoResult, hproper, hcount, hunlisted, hmisses⟩, rfl⟩
      rw [map_snd_complete] at hmisses
      refine ⟨hnoResult, hproper, hcount, fun entry hentry ht => ?_, ?_, entries_tableOf _ _, rfl⟩
      · exact (hproper entry hentry).beq_zero_iff.2 (hunlisted entry hentry ht)
      · exact (Chance.missesOne_eq_false_iff (hsum hnoResult hproper)).1 hmisses
    · rintro ⟨hnoResult, hproper, hcount, hunlisted, hmisses, hentries, htable⟩
      refine ⟨⟨hnoResult, hproper, hcount, fun entry hentry ht => ?_, ?_⟩, ?_⟩
      · have hentryProper : Chance.IsProper entry.2 := hproper entry hentry
        exact hentryProper.beq_zero_iff.1 (hunlisted entry hentry ht)
      · rw [map_snd_complete]
        exact (Chance.missesOne_eq_false_iff (hsum hnoResult hproper)).2 hmisses
      · cases table
        cases hentries
        cases htable
        rw [← complete_eq_map]
        rfl
  · obtain ⟨⟨hnoResult, hproper, hcount, -, hmisses⟩, rfl⟩ := create_eq_ok_iff.1 htable
    constructor
    · intro entry hentry ht
      rw [entries_tableOf]
      refine List.mem_map.2 ⟨entry.1, ht, ?_⟩
      rw [given_of_mem hentry (hcount entry.1 ht)]
    · rw [map_snd_complete] at hmisses
      rw [dropChance_tableOf]
      exact (Chance.missesOne_eq_false_iff (hsum hnoResult hproper)).1 hmisses
  · rw [create_eq]
    cases (faults chances noResult).findSome? id with
    | none => simp
    | some found => simp

/-- The tiers that are not listed have chance zero. -/
example : create [(Quality.clanForged, (0.5 : Float)), (.juryRigged, 0.25)] 0.25 =
    .ok ⟨[(.juryRigged, 0.25), (.scavenged, 0.0), (.clanForged, 0.5), (.optimized, 0.0),
      (.mythForged, 0.0)], 0.25⟩ := rfl

/-- An entry that is both negative and listed twice is refused as negative. -/
example : create [(Quality.clanForged, (0.5 : Float)), (.clanForged, -0.5)] 1.0 =
    .error (.negativeProbability "ClanForged" (-0.5)) := rfl

end FloatingPoint

end Tabletop.DropTable
