import Tabletop.Proofs.DropTable.Slices
import Tabletop.Random.Transcript

/-!
# Who owns a draw

A draw from a table adds up the chances of the tiers in their order, with the rounding of the
arithmetic at hand, until the sum lies above it. Rounded or not, the sums of amounts never fall.
Therefore one comparison with the sum before a tier and one with the sum after it decide whether the
draw belongs to the tier: the slices lie one after the other, without gaps and without overlap, and
a draw on the boundary of two slices belongs to the upper one. A tier without a chance has two equal
sums and no draw between them. A larger draw is never stopped earlier.
-/

namespace Tabletop

/-! ### Running totals in order -/

namespace DropTable

section Totals

variable {τ α : Type} [Chance α]

/-- The total of the chances of the first tiers, added from left to right as in a draw. -/
def runningTotal (table : DropTable τ α) (i : Nat) : α :=
  ((table.entries.map Prod.snd).take i).foldl (· + ·) Chance.zero

/-- The chances up to a tier are those below it and its own. -/
theorem take_chances [DecidableEq τ] {entries : List (τ × α)} {t : τ} {i : Nat}
    (hnodup : (entries.map Prod.fst).Nodup) (ht : (entries.map Prod.fst)[i]? = some t) :
    (entries.map Prod.snd).take i = chancesBelow entries t ∧
      (entries.map Prod.snd).take (i + 1) = chancesBelow entries t ++ [given entries t] := by
  induction entries generalizing i with
  | nil => simp at ht
  | cons entry rest ih =>
    obtain ⟨u, x⟩ := entry
    rw [List.map_cons, List.nodup_cons] at hnodup
    cases i with
    | zero =>
      obtain rfl : u = t := by simpa using ht
      simp
    | succ i =>
      rw [List.map_cons, List.getElem?_cons_succ] at ht
      have hut : u ≠ t := fun heq => hnodup.1 (heq ▸ List.mem_of_getElem? ht)
      obtain ⟨hbelow, hupto⟩ := ih hnodup.2 ht
      rw [List.map_cons, List.take_succ_cons, List.take_succ_cons, hbelow, hupto,
        chancesBelow_cons_of_ne hut, given_cons_of_ne hut]
      exact ⟨rfl, rfl⟩

variable [TierSet τ] {table : DropTable τ α} {t : τ} {i : Nat}

theorem IsProper.isAmount_runningTotal [LawfulChance α] (h : table.IsProper) (i : Nat) :
    Chance.IsAmount (table.runningTotal i) :=
  Chance.isAmount_foldl_add LawfulChance.isAmount_zero fun x hx =>
    List.forall_mem_map.2 h.isAmount x (List.mem_of_mem_take hx)

/-- After the last tier the running total is that of all chances. -/
theorem IsProper.runningTotal_length (h : table.IsProper) :
    table.runningTotal (TierSet.all : List τ).length =
      (table.entries.map Prod.snd).foldl (· + ·) Chance.zero := by
  rw [runningTotal, ← h.tiers, List.length_map, ← List.length_map Prod.snd, List.take_length]

variable [DecidableEq τ]

/-- The running total before a tier is the total of the chances below it. -/
theorem IsProper.runningTotal_eq (h : table.IsProper) (ht : (TierSet.all : List τ)[i]? = some t) :
    table.runningTotal i = table.totalBelow t := by
  rw [runningTotal, (take_chances h.nodup (h.tiers ▸ ht)).1, totalBelow]

/-- From one running total to the next the chance of one tier is added. -/
theorem IsProper.runningTotal_succ (h : table.IsProper)
    (ht : (TierSet.all : List τ)[i]? = some t) :
    table.runningTotal (i + 1) = table.runningTotal i + table.chance t := by
  rw [h.runningTotal_eq ht, runningTotal, (take_chances h.nodup (h.tiers ▸ ht)).2,
    List.foldl_append]
  rfl

end Totals

end DropTable

/-! ### The order of drops -/

namespace Drop

variable {τ : Type} [DecidableEq τ]

/-- Where a drop stands in a list of tiers. Nothing stands at the end. -/
def placeIn (tiers : List τ) : Drop τ → Nat
  | tier t => tiers.idxOf t
  | nothing => tiers.length

/-- Where a drop stands in the order of the tiers, with nothing after the last of them. -/
def place [TierSet τ] (d : Drop τ) : Nat := d.placeIn TierSet.all

theorem placeIn_cons_self (t : τ) (tiers : List τ) : (tier t).placeIn (t :: tiers) = 0 :=
  List.idxOf_cons_self

theorem placeIn_cons_of_ne {t : τ} {d : Drop τ} (h : d ≠ tier t) (tiers : List τ) :
    d.placeIn (t :: tiers) = d.placeIn tiers + 1 := by
  cases d with
  | tier u =>
    have htu : t ≠ u := fun heq => h (heq ▸ rfl)
    exact List.idxOf_cons_ne _ htu
  | nothing => rfl

end Drop

namespace DropTable

variable {τ : Type} [DecidableEq τ]

section Order

variable {α : Type} [Chance α] {draw draw' sofar : α} {entries : List (τ × α)}

/-- A draw that is below all sums that the other one is below is stopped no later. -/
theorem placeIn_pickFrom_le (hle : ∀ c : α, draw' < c → draw < c)
    (hnodup : (entries.map Prod.fst).Nodup) :
    (pickFrom draw sofar entries).placeIn (entries.map Prod.fst) ≤
      (pickFrom draw' sofar entries).placeIn (entries.map Prod.fst) := by
  induction entries generalizing sofar with
  | nil => exact le_rfl
  | cons entry rest ih =>
    obtain ⟨u, x⟩ := entry
    rw [List.map_cons, List.nodup_cons] at hnodup
    rw [List.map_cons, pickFrom, pickFrom]
    dsimp only
    by_cases hdraw : draw < sofar + x
    · rw [if_pos hdraw, Drop.placeIn_cons_self]
      exact Nat.zero_le _
    · -- Neither draw is stopped here, and neither comes back to this tier further on.
      have hrest (d : α) : pickFrom d (sofar + x) rest ≠ .tier u := fun heq =>
        hnodup.1 ((pickFrom_eq_tier_iff hnodup.2).1 heq).1
      rw [if_neg hdraw, if_neg (mt (hle _) hdraw), Drop.placeIn_cons_of_ne (hrest draw),
        Drop.placeIn_cons_of_ne (hrest draw')]
      exact Nat.succ_le_succ (ih hnodup.2)

theorem IsProper.place_pick_le [TierSet τ] {table : DropTable τ α} (h : table.IsProper)
    (hle : ∀ c : α, draw' < c → draw < c) :
    (table.pick draw).place ≤ (table.pick draw').place := by
  rw [Drop.place, Drop.place, ← h.tiers]
  exact placeIn_pickFrom_le hle h.nodup

end Order

/-! ### Floating-point draws -/

variable [TierSet τ]

/-- Who owns a draw from a table that was built from floating-point chances. A draw takes one real
number from the source and asks for nothing else. The running totals start at zero and add the
chances of the tiers in their order, rounding every time. A number from zero on belongs to a tier
just when it is not below the running total before the tier and is below the one after it, and to
nothing just when it is not below the last of them. So no number belongs to a tier of chance zero,
and of two numbers the larger belongs to the same tier as the smaller or to a later one, nothing
being last. -/
theorem slices_of_create {chances : List (τ × Float)} {noResult : Float} {table : DropTable τ Float}
    (h : create chances noResult = .ok table) :
    (∀ {σ : Type} [Source σ] (s : σ),
      table.draw s = (table.pick (Source.unit s).1, (Source.unit s).2) ∧
      table.draw (Transcript.begin s) =
        (table.pick (Source.unit s).1, ⟨(Source.unit s).2, [.unit (Source.unit s).1]⟩)) ∧
    (table.runningTotal 0 = 0.0 ∧ ∀ i t, (TierSet.all : List τ)[i]? = some t →
      table.runningTotal (i + 1) = table.runningTotal i + table.chance t) ∧
    ∀ draw : Float, 0.0 ≤ draw →
      (∀ i t, (TierSet.all : List τ)[i]? = some t →
        (table.pick draw = .tier t ↔
          table.runningTotal i ≤ draw ∧ draw < table.runningTotal (i + 1))) ∧
      (table.pick draw = .nothing ↔
        table.runningTotal (TierSet.all : List τ).length ≤ draw) ∧
      (∀ t, (table.chance t == 0.0) = true → table.pick draw ≠ .tier t) ∧
      ∀ draw', draw ≤ draw' → (table.pick draw).place ≤ (table.pick draw').place := by
  have hproper := isProper_of_create h
  refine ⟨fun s => ⟨rfl, rfl⟩, ⟨rfl, fun i t ht => hproper.runningTotal_succ ht⟩,
    fun draw hdraw => ?_⟩
  have hamount : Chance.IsAmount draw := Chance.isAmount_of_zero_le hdraw
  have hle (i : Nat) : ¬draw < table.runningTotal i ↔ table.runningTotal i ≤ draw :=
    hamount.not_lt_iff (hproper.isAmount_runningTotal i)
  refine ⟨fun i t ht => ?_, ?_, fun t hchance => ?_, fun draw' hdraw' => ?_⟩
  · rw [hproper.pick_eq_tier_iff hamount.1, ← hproper.runningTotal_eq ht,
      ← hproper.runningTotal_succ ht, hle]
  · rw [hproper.pick_eq_nothing_iff hamount.1, ← hproper.runningTotal_length, hle]
  · exact hproper.pick_ne_tier hamount.1 ((hproper.isProper_chance t).beq_zero_iff.1 hchance)
  · exact hproper.place_pick_le fun c => Binary64.lt_of_le hdraw'

/-- A table with tiers of chance zero at both ends and in the middle. The boundary of the two slices
belongs to the upper one, although a tier without a chance lies between them. -/
theorem slices_of_gapped_table :
    let table : DropTable Quality Float := ⟨[(.juryRigged, 0.0), (.scavenged, 0.5),
      (.clanForged, 0.0), (.optimized, 0.25), (.mythForged, 0.0)], 0.25⟩
    create [(Quality.optimized, (0.25 : Float)), (.scavenged, 0.5)] 0.25 = .ok table ∧
      0.0 ≤ (0.5 : Float) ∧ table.pick 0.5 = .tier .optimized ∧
      table.pick 0.75 = .nothing ∧
      ∀ draw : Float, 0.0 ≤ draw → table.pick draw ≠ .tier .juryRigged ∧
        table.pick draw ≠ .tier .clanForged ∧ table.pick draw ≠ .tier .mythForged := by
  intro table
  have hcreate : create [(Quality.optimized, (0.25 : Float)), (.scavenged, 0.5)] 0.25 =
      .ok table := rfl
  have hhalf : 0.0 ≤ (0.5 : Float) := by decide +kernel
  have hquarters : 0.0 ≤ (0.75 : Float) := by decide +kernel
  obtain ⟨-, -, hslices⟩ := slices_of_create hcreate
  obtain ⟨htier, -⟩ := hslices 0.5 hhalf
  obtain ⟨-, hnothing, -⟩ := hslices 0.75 hquarters
  refine ⟨hcreate, hhalf, (htier 3 .optimized rfl).2 (by decide +kernel),
    hnothing.2 (by decide +kernel), fun draw hdraw => ?_⟩
  obtain ⟨-, -, hzero, -⟩ := hslices draw hdraw
  exact ⟨hzero _ (by decide +kernel), hzero _ (by decide +kernel), hzero _ (by decide +kernel)⟩

end DropTable

end Tabletop
