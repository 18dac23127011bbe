import Tabletop.Proofs.DropTable.Slices

/-!
# The order of a listing

The chances of a table may be listed in any order. The checks run through the list, and with another
order they may come upon another fault first; the chances of tiers that can never be drawn may even
add up to another sum. But whether there is a fault does not depend on the order, for each
requirement of a table is one on the entries, however they are arranged. Nor does the table depend
on it: in a list that makes a table no tier that can be drawn stands twice, so that the search for
its chance finds the same entry wherever it stands.
-/

namespace Tabletop.DropTable

variable {τ : Type} [DecidableEq τ]

section Order

variable {α : Type} [Chance α] {chances chances' : List (τ × α)} {noResult : α}

omit [Chance α] in
/-- A chance that is listed at most once is found in any order. -/
theorem lookup_perm (h : chances.Perm chances') {t : τ}
    (hcount : (chances.map Prod.fst).count t ≤ 1) : chances.lookup t = chances'.lookup t := by
  have htiers : (chances.map Prod.fst).Perm (chances'.map Prod.fst) := h.map Prod.fst
  by_cases hmem : t ∈ chances.map Prod.fst
  · obtain ⟨entry, hentry, rfl⟩ := List.mem_map.1 hmem
    rw [lookup_of_mem hentry hcount,
      lookup_of_mem (h.mem_iff.1 hentry) (htiers.count_eq _ ▸ hcount)]
  · rw [lookup_of_not_mem hmem, lookup_of_not_mem (mt htiers.mem_iff.2 hmem)]

variable [TierList τ]

theorem Acceptable.complete_perm (ha : Acceptable chances noResult) (h : chances.Perm chances') :
    complete chances = complete chances' :=
  fill_congr (fun t ht => lookup_perm h (ha.count_le_one t ht)) []

/-- What a table requires of a list does not depend on its order. -/
theorem Acceptable.perm (ha : Acceptable chances noResult) (h : chances.Perm chances') :
    Acceptable chances' noResult where
  noResult_isProper := ha.noResult_isProper
  isProper := fun entry hentry => ha.isProper entry (h.mem_iff.2 hentry)
  count_le_one := fun t ht => (h.map Prod.fst).count_eq t ▸ ha.count_le_one t ht
  unlisted := fun entry hentry => ha.unlisted entry (h.mem_iff.2 hentry)
  sum := by
    rw [← ha.complete_perm h]
    exact ha.sum

/-- A list that makes a table makes the same one in any order. -/
theorem Acceptable.tableOf_perm (ha : Acceptable chances noResult) (h : chances.Perm chances') :
    tableOf chances noResult = tableOf chances' noResult := by
  rw [tableOf, ha.complete_perm h, tableOf]

variable [LawfulChance α]

theorem create_eq_ok_of_perm (h : chances.Perm chances') {table : DropTable τ α}
    (hcreate : create chances noResult = .ok table) : create chances' noResult = .ok table := by
  obtain ⟨ha, rfl⟩ := create_eq_ok_iff.1 hcreate
  exact create_eq_ok_iff.2 ⟨ha.perm h, ha.tableOf_perm h⟩

end Order

variable [TierList τ]

/-- The order in which floating-point chances are listed does not matter: in every order the same
table is built, down to the last bit of its chances, so that every draw yields the same, or in every
order the list is refused. -/
theorem create_perm {chances chances' : List (τ × Float)} (h : chances.Perm chances')
    (noResult : Float) :
    (∃ table, create chances noResult = .ok table ∧ create chances' noResult = .ok table) ∨
      ∃ fault fault', create chances noResult = .error fault ∧
        create chances' noResult = .error fault' := by
  cases hcreate : create chances noResult with
  | ok table => exact .inl ⟨table, rfl, create_eq_ok_of_perm h hcreate⟩
  | error fault =>
    cases hcreate' : create chances' noResult with
    | ok table =>
      -- Turned around, the list that is accepted would make the other one accepted as well.
      have hok := create_eq_ok_of_perm h.symm hcreate'
      rw [hcreate] at hok
      cases hok
    | error fault' => exact .inr ⟨fault, fault', rfl, rfl⟩

/-- The same table is built from a list and from the list turned around. A list with two faults is
refused both ways, each time for the fault that comes first. -/
theorem create_perm_reverse :
    let chances := [(Quality.clanForged, (0.5 : Float)), (.juryRigged, 0.25)]
    let table : DropTable Quality Float := ⟨[(.juryRigged, 0.25), (.scavenged, 0.0),
      (.clanForged, 0.5), (.optimized, 0.0), (.mythForged, 0.0)], 0.25⟩
    let faulty := [(Quality.clanForged, (0.5 : Float)), (.clanForged, 0.25), (.scavenged, -0.25)]
    (chances.Perm chances.reverse ∧ create chances 0.25 = .ok table ∧
      create chances.reverse 0.25 = .ok table) ∧
    create faulty 0.5 = .error (.duplicateTier "ClanForged") ∧
      create faulty.reverse 0.5 = .error (.negativeProbability "Scavenged" (-0.25)) := by
  intro chances table faulty
  have hperm : chances.Perm chances.reverse := chances.reverse_perm.symm
  have hcreate : create chances 0.25 = .ok table := by decide +kernel
  refine ⟨⟨hperm, hcreate, ?_⟩, rfl, rfl⟩
  rcases create_perm hperm 0.25 with ⟨table', hok, hreverse⟩ | ⟨fault, -, hfault, -⟩
  · rw [hcreate] at hok
    cases hok
    exact hreverse
  · rw [hcreate] at hfault
    cases hfault

end Tabletop.DropTable
