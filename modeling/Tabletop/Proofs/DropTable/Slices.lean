import Tabletop.Proofs.DropTable.Construction

/-!
# What a draw yields

A draw goes through the entries of a table and stops at the first whose running total lies above it.
So it yields a tier when it has passed the running totals of the tiers below and not that of the
tier itself, and it yields nothing when it has passed them all. This needs no more of the arithmetic
than that chances can be added and compared.

Where the running totals never fall, a draw that has passed one of them has passed those before it.
Each tier then owns what lies between the total of the chances below it and the total that includes
its own. In exact arithmetic that is an interval as long as the chance.

## Main definitions

* `DropTable.chancesBelow`, `DropTable.totalBelow` — the chances of the tiers below a tier
* `DropTable.IsProper` — what is known of every table that was built
* `DropTable.IsExact`, `DropTable.sumBelow` — tables of exact chances

## Main results

* `DropTable.pickFrom_eq_tier_iff`, `DropTable.pickFrom_eq_nothing_iff` — where a draw stops
* `DropTable.IsProper.pick_eq_tier_iff`, `DropTable.IsProper.pick_eq_nothing_iff` — the slices of a
  table that was built
* `DropTable.IsExact.pick_eq_tier_iff`, `DropTable.IsExact.pick_eq_nothing_iff` — the intervals of
  exact tables
-/

namespace Tabletop.DropTable

/-! ### Where a draw stops -/

section Stop

variable {τ α : Type} [DecidableEq τ]

/-- The chances of the tiers that are listed below a tier. -/
def chancesBelow (entries : List (τ × α)) (t : τ) : List α :=
  (entries.takeWhile (·.1 ≠ t)).map Prod.snd

@[simp] theorem chancesBelow_cons_self (t : τ) (x : α) (rest : List (τ × α)) :
    chancesBelow ((t, x) :: rest) t = [] := by
  simp [chancesBelow]

theorem chancesBelow_cons_of_ne {t u : τ} (h : u ≠ t) (x : α) (rest : List (τ × α)) :
    chancesBelow ((u, x) :: rest) t = x :: chancesBelow rest t := by
  simp [chancesBelow, h]

/-- What holds of all chances holds of those below a tier. -/
theorem forall_mem_chancesBelow {P : α → Prop} {entries : List (τ × α)}
    (h : ∀ entry ∈ entries, P entry.2) (t : τ) : ∀ x ∈ chancesBelow entries t, P x := by
  intro x hx
  obtain ⟨entry, hentry, rfl⟩ := List.mem_map.1 hx
  exact h entry ((List.takeWhile_sublist _).subset hentry)

variable [Chance α] {draw sofar : α} {entries : List (τ × α)} {t : τ}

@[simp] theorem given_cons_self (t : τ) (x : α) (rest : List (τ × α)) :
    given ((t, x) :: rest) t = x := by
  simp [given]

theorem given_cons_of_ne {u : τ} (h : u ≠ t) (x : α) (rest : List (τ × α)) :
    given ((u, x) :: rest) t = given rest t := by
  have hbeq : (t == u) = false := by simpa using h.symm
  rw [given, List.lookup_cons, hbeq, given]

/-- A tier that is not listed has no chance. -/
theorem given_eq_zero (h : t ∉ entries.map Prod.fst) : given entries t = Chance.zero := by
  rw [given, lookup_of_not_mem h, Option.getD_none]

/-- A draw yields a tier when it has passed the running totals below it, but not its own. -/
theorem pickFrom_eq_tier_iff (hnodup : (entries.map Prod.fst).Nodup) :
    pickFrom draw sofar entries = .tier t ↔
      t ∈ entries.map Prod.fst ∧
      (∀ c ∈ Chance.runningTotals sofar (chancesBelow entries t), ¬draw < c) ∧
      draw < (chancesBelow entries t).foldl (· + ·) sofar + given entries t := by
  induction entries generalizing sofar with
  | nil => simp [pickFrom]
  | cons entry rest ih =>
    obtain ⟨u, x⟩ := entry
    rw [List.map_cons, List.nodup_cons] at hnodup
    rw [pickFrom, List.map_cons, List.mem_cons]
    by_cases hut : u = t
    · -- Further entries have other tiers, so that the draw stops here or never at this tier.
      subst hut
      have hrest : pickFrom draw (sofar + x) rest ≠ .tier u := fun h =>
        hnodup.1 ((ih hnodup.2).1 h).1
      by_cases hlt : draw < sofar + x <;> simp [hlt, hrest, Chance.runningTotals]
    · rw [chancesBelow_cons_of_ne hut, given_cons_of_ne hut, Chance.runningTotals,
        List.forall_mem_cons, List.foldl_cons]
      by_cases hlt : draw < sofar + x
      · simp [hlt, hut]
      · rw [if_neg hlt, ih hnodup.2]
        simp [hlt, Ne.symm hut]

omit [DecidableEq τ] in
/-- A draw yields nothing when it has passed all running totals. -/
theorem pickFrom_eq_nothing_iff :
    pickFrom draw sofar entries = .nothing ↔
      ∀ c ∈ Chance.runningTotals sofar (entries.map Prod.snd), ¬draw < c := by
  induction entries generalizing sofar with
  | nil => simp [pickFrom, Chance.runningTotals]
  | cons entry rest ih =>
    rw [pickFrom, List.map_cons, Chance.runningTotals, List.forall_mem_cons]
    by_cases hlt : draw < sofar + entry.2
    · simp [hlt]
    · rw [if_neg hlt, ih]
      simp [hlt]

end Stop

/-! ### The slices of a table -/

section Proper

variable {τ α : Type} [TierSet τ] [Chance α] {table : DropTable τ α} {draw : α}

/-- A table as its checks leave it: an entry for every tier in order, each with a chance that a
table may have. -/
structure IsProper (table : DropTable τ α) : Prop where
  tiers : table.entries.map Prod.fst = TierSet.all
  isProper : ∀ entry ∈ table.entries, Chance.IsProper entry.2

theorem IsProper.nodup (h : table.IsProper) : (table.entries.map Prod.fst).Nodup :=
  h.tiers ▸ TierSet.all_nodup

theorem IsProper.isAmount (h : table.IsProper) :
    ∀ entry ∈ table.entries, Chance.IsAmount entry.2 :=
  fun entry hentry => (h.isProper entry hentry).isAmount

/-- Nothing is what lies above the sum of all chances. -/
theorem IsProper.pick_eq_nothing_iff [OrderedChance α] (h : table.IsProper)
    (hdraw : ¬draw < Chance.zero) :
    table.pick draw = .nothing ↔
      ¬draw < (table.entries.map Prod.snd).foldl (· + ·) Chance.zero := by
  rw [pick, pickFrom_eq_nothing_iff, Chance.forall_runningTotals_iff LawfulChance.isAmount_zero
    (List.forall_mem_map.2 h.isAmount) hdraw]

variable [DecidableEq τ] {t : τ}

/-- The total of the chances of the tiers below a tier, added from left to right as in a draw. -/
def totalBelow (table : DropTable τ α) (t : τ) : α :=
  (chancesBelow table.entries t).foldl (· + ·) Chance.zero

theorem isProper_of_create [LawfulChance α] {chances : List (τ × α)} {noResult : α}
    (h : create chances noResult = .ok table) : table.IsProper := by
  obtain ⟨ha, rfl⟩ := create_eq_ok_iff.1 h
  refine ⟨map_fst_complete chances, fun entry hentry => ?_⟩
  rw [entries_tableOf] at hentry
  obtain ⟨t, -, rfl⟩ := List.mem_map.1 hentry
  exact isProper_given ha.isProper t

namespace IsProper

variable [OrderedChance α]

theorem isProper_chance (h : table.IsProper) (t : τ) : Chance.IsProper (table.chance t) :=
  isProper_given h.isProper t

theorem isAmount_totalBelow (h : table.IsProper) (t : τ) : Chance.IsAmount (table.totalBelow t) :=
  Chance.isAmount_foldl_add LawfulChance.isAmount_zero (forall_mem_chancesBelow h.isAmount t)

/-- A tier owns what lies between the total of the chances below it and the total that includes its
own. -/
theorem pick_eq_tier_iff (h : table.IsProper) (hdraw : ¬draw < Chance.zero) (t : τ) :
    table.pick draw = .tier t ↔
      ¬draw < table.totalBelow t ∧ draw < table.totalBelow t + table.chance t := by
  have hbelow := forall_mem_chancesBelow h.isAmount t
  rw [pick, pickFrom_eq_tier_iff h.nodup,
    Chance.forall_runningTotals_iff LawfulChance.isAmount_zero hbelow hdraw]
  refine and_iff_right_of_imp fun ⟨hlo, hhi⟩ => ?_
  -- A tier without an entry has no chance, and its slice no draws.
  by_contra hmem
  rw [given_eq_zero hmem] at hhi
  exact hlo (OrderedChance.lt_of_lt_add (h.isAmount_totalBelow t) LawfulChance.isAmount_zero
    LawfulChance.isAmount_zero.1 hhi)

/-- No draw belongs to a tier without a chance. -/
theorem pick_ne_tier (h : table.IsProper) (hdraw : ¬draw < Chance.zero)
    (hchance : ¬Chance.zero < table.chance t) : table.pick draw ≠ .tier t := by
  rw [Ne, h.pick_eq_tier_iff hdraw]
  rintro ⟨hbelow, hown⟩
  exact hbelow (OrderedChance.lt_of_lt_add (h.isAmount_totalBelow t)
    (h.isProper_chance t).isAmount hchance hown)

end IsProper

end Proper

/-! ### Exact sums -/

section Exact

variable {draw : Rat}

theorem foldl_add_rat (sofar : Rat) (xs : List Rat) :
    xs.foldl (· + ·) sofar = sofar + xs.sum := by
  induction xs generalizing sofar with
  | nil => simp
  | cons x xs ih => rw [List.foldl_cons, ih, List.sum_cons, add_assoc]

theorem total_rat (xs : List Rat) : Chance.total xs = xs.sum := by
  have hsum : Chance.total xs = 0 + xs.sum := foldl_add_rat 0 xs
  rw [hsum, zero_add]

variable {τ : Type} [DecidableEq τ]

/-- A tier and those below it have no more than all tiers together. -/
theorem sum_chancesBelow_add_given_le {entries : List (τ × Rat)}
    (h : ∀ entry ∈ entries, 0 ≤ entry.2) (t : τ) :
    (chancesBelow entries t).sum + given entries t ≤ (entries.map Prod.snd).sum := by
  induction entries with
  | nil => exact le_of_eq (add_zero _)
  | cons entry rest ih =>
    obtain ⟨u, x⟩ := entry
    rw [List.forall_mem_cons] at h
    rw [List.map_cons, List.sum_cons]
    by_cases hut : u = t
    · subst hut
      have hrest : 0 ≤ (rest.map Prod.snd).sum := List.sum_nonneg (List.forall_mem_map.2 h.2)
      rw [chancesBelow_cons_self, given_cons_self, List.sum_nil]
      linarith
    · rw [chancesBelow_cons_of_ne hut, given_cons_of_ne hut, List.sum_cons]
      linarith [ih h.2]

omit [DecidableEq τ] in
theorem dropChance_eq_sum (table : DropTable τ Rat) :
    table.dropChance = (table.entries.map Prod.snd).sum := total_rat _

variable [TierSet τ] {table : DropTable τ Rat}

/-- A table of exact chances: an entry for every tier in order, and no chance below zero. -/
structure IsExact (table : DropTable τ Rat) : Prop where
  tiers : table.entries.map Prod.fst = TierSet.all
  nonneg : ∀ entry ∈ table.entries, 0 ≤ entry.2

/-- The sum of the chances of the tiers below a tier. -/
def sumBelow (table : DropTable τ Rat) (t : τ) : Rat := (chancesBelow table.entries t).sum

omit [DecidableEq τ] in
theorem IsExact.isProper (h : table.IsExact) : table.IsProper where
  tiers := h.tiers
  isProper := fun entry hentry => ⟨rfl, not_lt.2 (h.nonneg entry hentry)⟩

omit [TierSet τ] in
theorem totalBelow_rat (table : DropTable τ Rat) (t : τ) :
    table.totalBelow t = table.sumBelow t := by
  have hfold : table.totalBelow t = 0 + table.sumBelow t := foldl_add_rat 0 _
  rw [hfold, zero_add]

theorem IsExact.sumBelow_nonneg (h : table.IsExact) (t : τ) : 0 ≤ table.sumBelow t :=
  List.sum_nonneg (forall_mem_chancesBelow h.nonneg t)

theorem IsExact.chance_nonneg (h : table.IsExact) (t : τ) : 0 ≤ table.chance t :=
  Chance.isAmount_rat_iff.1 (h.isProper.isProper_chance t).isAmount

/-- Each tier owns the interval that starts at the sum of the chances below it and is as long as its
own chance. -/
theorem IsExact.pick_eq_tier_iff (h : table.IsExact) (hdraw : 0 ≤ draw) (t : τ) :
    table.pick draw = .tier t ↔
      table.sumBelow t ≤ draw ∧ draw < table.sumBelow t + table.chance t := by
  have hstart : ¬draw < (Chance.zero : Rat) := not_lt.2 hdraw
  rw [h.isProper.pick_eq_tier_iff hstart, totalBelow_rat, not_lt]

omit [DecidableEq τ] in
/-- Nothing is what is left above all tiers. -/
theorem IsExact.pick_eq_nothing_iff (h : table.IsExact) (hdraw : 0 ≤ draw) :
    table.pick draw = .nothing ↔ table.dropChance ≤ draw := by
  have hstart : ¬draw < (Chance.zero : Rat) := not_lt.2 hdraw
  have hsum : (table.entries.map Prod.snd).foldl (· + ·) (Chance.zero : Rat) = table.dropChance :=
    by rw [foldl_add_rat, dropChance_eq_sum]; exact zero_add _
  rw [h.isProper.pick_eq_nothing_iff hstart, hsum, not_lt]

end Exact

end Tabletop.DropTable
