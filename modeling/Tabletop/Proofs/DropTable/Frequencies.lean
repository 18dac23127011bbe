import Tabletop.Proofs.Binary64.Exact
import Tabletop.Proofs.DropTable.Slices

/-!
# How often each tier is drawn

The draws are the numbers from zero up to one, and the length of an interval of them is how often it
is hit. A table may be off one by the tolerance, to either side. What a table has too much lies
above one, where no draw falls: it cuts off the uppermost slices, so that a tier is drawn at most as
often as its chance says, and all tiers together fall short by at most what the table is off. What a
table has too little is left to nothing.

All sums are exact here, and so is the tolerance: it is the floating-point number itself.
-/

namespace Tabletop.DropTable

open Chance

/-- The tolerance of exact tables is the value of the floating-point one. -/
theorem hasValue_tolerance : Binary64.HasValue tolerance exactTolerance := by
  rw [Binary64.HasValue, view_tolerance]
  decide +kernel

theorem missesOne_eq_false_iff {x : Rat} :
    Chance.missesOne x = false ↔ |x - 1| ≤ exactTolerance := by
  have hmisses : Chance.missesOne x =
      (decide (exactTolerance < x - 1) || decide (exactTolerance < 1 - x)) := rfl
  rw [hmisses, Bool.or_eq_false_iff, decide_eq_false_iff_not, decide_eq_false_iff_not, not_lt,
    not_lt, abs_le]
  constructor
  · rintro ⟨habove, hbelow⟩
    constructor <;> linarith
  · rintro ⟨hbelow, habove⟩
    constructor <;> linarith

variable {τ : Type} [DecidableEq τ]

/-- One after the other, slices that are cut off at a cap fill what lies below it. -/
theorem sum_capped_slices (cap sofar : Rat) {entries : List (τ × Rat)}
    (hnodup : (entries.map Prod.fst).Nodup) :
    ((entries.map Prod.fst).map fun t =>
      min cap (sofar + (chancesBelow entries t).sum + given entries t) -
        min cap (sofar + (chancesBelow entries t).sum)).sum =
      min cap (sofar + (entries.map Prod.snd).sum) - min cap sofar := by
  induction entries generalizing sofar with
  | nil => simp
  | cons entry rest ih =>
    obtain ⟨u, x⟩ := entry
    rw [List.map_cons, List.nodup_cons] at hnodup
    -- Seen from an entry of the rest, the first chance belongs to what precedes the rest.
    have hrest : ((rest.map Prod.fst).map fun t =>
        min cap (sofar + (chancesBelow ((u, x) :: rest) t).sum + given ((u, x) :: rest) t) -
          min cap (sofar + (chancesBelow ((u, x) :: rest) t).sum)) =
        (rest.map Prod.fst).map fun t =>
          min cap (sofar + x + (chancesBelow rest t).sum + given rest t) -
            min cap (sofar + x + (chancesBelow rest t).sum) := by
      apply List.map_congr_left
      intro t ht
      have hut : u ≠ t := fun heq => hnodup.1 (heq ▸ ht)
      rw [chancesBelow_cons_of_ne hut, given_cons_of_ne hut, List.sum_cons, ← add_assoc]
    rw [List.map_cons, List.map_cons, List.sum_cons, hrest, ih (sofar + x) hnodup.2,
      chancesBelow_cons_self, given_cons_self, List.map_cons, List.sum_cons, List.sum_nil, add_zero,
      add_assoc sofar x]
    ring

/-- How far the chances of a table are off one. -/
def deviation (table : DropTable τ Rat) : Rat := |table.dropChance + table.noResult - 1|

variable [TierSet τ] {table : DropTable τ Rat}

/-- Where the slice of a tier starts, unless that is above one. -/
def sliceStart (table : DropTable τ Rat) (t : τ) : Rat := min 1 (table.sumBelow t)

/-- Where the slice of a tier ends, unless that is above one. -/
def sliceEnd (table : DropTable τ Rat) (t : τ) : Rat := min 1 (table.sumBelow t + table.chance t)

namespace IsExact

/-- The slices fill the interval up to the sum of all chances. -/
theorem sum_slices (h : table.IsExact) :
    ((TierSet.all : List τ).map fun t => table.sliceEnd t - table.sliceStart t).sum =
      min 1 table.dropChance := by
  have hsum := sum_capped_slices 1 0 h.isProper.nodup
  rw [h.tiers] at hsum
  simp only [zero_add] at hsum
  rw [min_eq_right (zero_le_one' Rat), sub_zero] at hsum
  rw [dropChance_eq_sum]
  exact hsum

theorem sum_chances (h : table.IsExact) :
    ((TierSet.all : List τ).map table.chance).sum = table.dropChance := by
  rw [dropChance_eq_sum, ← h.tiers, List.map_map]
  congr 1
  apply List.map_congr_left
  intro entry hentry
  exact given_of_mem hentry (List.nodup_iff_count_le_one.1 h.isProper.nodup _)

/-- What the slices lack of the chances is what the chances have above one. -/
theorem sum_shortfalls (h : table.IsExact) :
    ((TierSet.all : List τ).map fun t =>
      table.chance t - (table.sliceEnd t - table.sliceStart t)).sum =
      table.dropChance - min 1 table.dropChance := by
  have hsplit : ((TierSet.all : List τ).map table.chance).sum =
      ((TierSet.all : List τ).map fun t =>
        table.chance t - (table.sliceEnd t - table.sliceStart t)).sum +
      ((TierSet.all : List τ).map fun t => table.sliceEnd t - table.sliceStart t).sum := by
    rw [← List.sum_map_add]
    simp only [sub_add_cancel]
  rw [h.sum_chances, h.sum_slices] at hsplit
  linarith

theorem draws_of_tier (h : table.IsExact) (t : τ) :
    {draw : Rat | 0 ≤ draw ∧ draw < 1 ∧ table.pick draw = .tier t} =
      Set.Ico (table.sliceStart t) (table.sliceEnd t) := by
  ext draw
  rw [Set.mem_ofPred_eq, Set.mem_Ico, sliceStart, sliceEnd, lt_min_iff, min_le_iff]
  have hstart := h.sumBelow_nonneg t
  constructor
  · rintro ⟨hlo, hhi, hpick⟩
    rw [h.pick_eq_tier_iff hlo] at hpick
    exact ⟨.inr hpick.1, hhi, hpick.2⟩
  · rintro ⟨hlo, hhi, hend⟩
    have hbelow : table.sumBelow t ≤ draw := hlo.resolve_left (not_le.2 hhi)
    have hdraw : 0 ≤ draw := hstart.trans hbelow
    exact ⟨hdraw, hhi, (h.pick_eq_tier_iff hdraw t).2 ⟨hbelow, hend⟩⟩

omit [DecidableEq τ] in
theorem draws_of_nothing (h : table.IsExact) :
    {draw : Rat | 0 ≤ draw ∧ draw < 1 ∧ table.pick draw = .nothing} =
      Set.Ico (min 1 table.dropChance) 1 := by
  ext draw
  rw [Set.mem_ofPred_eq, Set.mem_Ico, min_le_iff]
  have hsum : 0 ≤ table.dropChance := by
    rw [dropChance_eq_sum]
    exact List.sum_nonneg (List.forall_mem_map.2 h.nonneg)
  constructor
  · rintro ⟨hlo, hhi, hpick⟩
    exact ⟨.inr ((h.pick_eq_nothing_iff hlo).1 hpick), hhi⟩
  · rintro ⟨hlo, hhi⟩
    have habove : table.dropChance ≤ draw := hlo.resolve_left (not_le.2 hhi)
    have hdraw : 0 ≤ draw := hsum.trans habove
    exact ⟨hdraw, hhi, (h.pick_eq_nothing_iff hdraw).2 habove⟩

theorem sumBelow_add_chance_le (h : table.IsExact) (t : τ) :
    table.sumBelow t + table.chance t ≤ table.dropChance := by
  rw [dropChance_eq_sum]
  exact sum_chancesBelow_add_given_le h.nonneg t

end IsExact

/-- Tables that are built from exact chances are exact, and off one by the tolerance at most. -/
theorem isExact_of_create {chances : List (τ × Rat)} {noResult : Rat}
    (h : create chances noResult = .ok table) :
    table.IsExact ∧ 0 ≤ table.noResult ∧ table.deviation ≤ exactTolerance := by
  have hproper := isProper_of_create h
  obtain ⟨⟨hnoResult, -, -, -, hmisses⟩, rfl⟩ := create_eq_ok_iff.1 h
  refine ⟨⟨hproper.tiers, fun entry hentry => not_lt.1 (hproper.isProper entry hentry).2⟩,
    not_lt.1 hnoResult.2, ?_⟩
  exact missesOne_eq_false_iff.1 hmisses

/-- How often each tier is drawn from a table that is built from exact chances. The table is off one
by the tolerance at most. The draws of a tier are one interval, at most as long as its chance and
shorter by at most what the table is off, and so are all of them together. The other draws yield
nothing, as often as the chance of nothing says up to what the table is off. -/
theorem frequencies_of_create {chances : List (τ × Rat)} {noResult : Rat}
    (h : create chances noResult = .ok table) :
    table.deviation ≤ exactTolerance ∧
    (∀ t : τ,
      {draw : Rat | 0 ≤ draw ∧ draw < 1 ∧ table.pick draw = .tier t} =
        Set.Ico (table.sliceStart t) (table.sliceEnd t) ∧
      table.sliceStart t ≤ table.sliceEnd t ∧
      table.sliceEnd t - table.sliceStart t ≤ table.chance t ∧
      table.chance t - table.deviation ≤ table.sliceEnd t - table.sliceStart t) ∧
    ((TierSet.all : List τ).map fun t =>
      table.chance t - (table.sliceEnd t - table.sliceStart t)).sum ≤ table.deviation ∧
    {draw : Rat | 0 ≤ draw ∧ draw < 1 ∧ table.pick draw = .nothing} =
      Set.Ico (min 1 table.dropChance) 1 ∧
    |(1 - min 1 table.dropChance) - table.noResult| ≤ table.deviation := by
  obtain ⟨hexact, hnoResult, htolerance⟩ := isExact_of_create h
  obtain ⟨hbelow, habove⟩ := abs_le.1 (le_refl table.deviation)
  refine ⟨htolerance, fun t => ⟨hexact.draws_of_tier t, ?_⟩, ?_, hexact.draws_of_nothing, ?_⟩
  · have hchance := hexact.chance_nonneg t
    have hle := hexact.sumBelow_add_chance_le t
    rw [sliceStart, sliceEnd]
    -- Both ends lie below one, or the slice is cut off, or it lies above one altogether.
    rcases min_cases 1 (table.sumBelow t) with ⟨hs, _⟩ | ⟨hs, _⟩ <;>
      rcases min_cases 1 (table.sumBelow t + table.chance t) with ⟨he, _⟩ | ⟨he, _⟩ <;>
      rw [hs, he] <;> refine ⟨?_, ?_, ?_⟩ <;> linarith
  · rw [hexact.sum_shortfalls]
    rcases min_cases 1 table.dropChance with ⟨hs, _⟩ | ⟨hs, _⟩ <;> linarith
  · rw [abs_le]
    rcases min_cases 1 table.dropChance with ⟨hs, _⟩ | ⟨hs, _⟩ <;> constructor <;> linarith

/-- A table that is off one by the tolerance, down to the last bit: the uppermost slice is cut off
at one, and nothing is never drawn. -/
theorem frequencies_of_overfull_table :
    let excess := exactTolerance - 1 / 2048
    let table : DropTable Quality Rat := ⟨[(.juryRigged, 0), (.scavenged, 1 / 2), (.clanForged, 0),
      (.optimized, 1 / 4), (.mythForged, 1 / 4 + 1 / 2048)], excess⟩
    create [(Quality.mythForged, (1 / 4 + 1 / 2048 : Rat)), (.scavenged, 1 / 2),
      (.optimized, 1 / 4)] excess = .ok table ∧
    {draw : Rat | 0 ≤ draw ∧ draw < 1 ∧ table.pick draw = .tier .mythForged} =
      Set.Ico (3 / 4) 1 ∧
    |(1 - min 1 table.dropChance) - excess| ≤ table.deviation ∧
    table.deviation = exactTolerance := by
  intro excess table
  have hcreate : create [(Quality.mythForged, (1 / 4 + 1 / 2048 : Rat)), (.scavenged, 1 / 2),
      (.optimized, 1 / 4)] excess = .ok table := by decide +kernel
  obtain ⟨-, htiers, -, -, hnothing⟩ := frequencies_of_create hcreate
  have hstart : table.sliceStart .mythForged = 3 / 4 := by decide +kernel
  have hend : table.sliceEnd .mythForged = 1 := by decide +kernel
  refine ⟨hcreate, ?_, hnothing, by decide +kernel⟩
  rw [(htiers .mythForged).1, hstart, hend]

end Tabletop.DropTable
