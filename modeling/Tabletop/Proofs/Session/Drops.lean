import Mathlib.Data.List.Iterate
import Tabletop.Proofs.DropTable.Ownership
import Tabletop.Proofs.Session.Agreement
import Tabletop.Session.Loot

/-!
# Several draws from a table

To draw several times from a table is to draw once, as often as that, and to leave out the draws
that yield nothing. An empty draw is left out of the result only: it takes its real number from the
source and is told of in the log like any other. So the number of reals taken does not depend on
what they yield, and a series of draws can be cut anywhere, the later part going on from the state
that the earlier one leaves.

What a table yields for a real number depends on nothing else, so the drops of a series are those of
the reals that the source would give when asked for as many. None of them is of a tier without a
chance, as long as no real is below zero.
-/

namespace Tabletop

/-! ### Steps in succession -/

section Succession

variable {ρ α : Type}

/-- What a number of steps yield one after the other, and the state that they leave. -/
def inSuccession (step : ρ → α × ρ) (n : Nat) (r : ρ) : List α × ρ :=
  ((List.iterate (fun r => (step r).2) r n).map fun r => (step r).1,
    (fun r => (step r).2)^[n] r)

variable (step : ρ → α × ρ) (r : ρ)

@[simp] theorem inSuccession_zero : inSuccession step 0 r = ([], r) := rfl

theorem inSuccession_succ (n : Nat) :
    inSuccession step (n + 1) r =
      ((step r).1 :: (inSuccession step n (step r).2).1,
        (inSuccession step n (step r).2).2) := rfl

@[simp] theorem length_inSuccession (n : Nat) : (inSuccession step n r).1.length = n := by
  rw [inSuccession, List.length_map, List.length_iterate]

/-- Later steps go on from the state that the earlier ones leave. -/
theorem inSuccession_add (m n : Nat) :
    inSuccession step (m + n) r =
      ((inSuccession step m r).1 ++ (inSuccession step n (inSuccession step m r).2).1,
        (inSuccession step n (inSuccession step m r).2).2) := by
  -- The list is cut after the first summand, while the last state takes the second one first.
  rw [inSuccession, List.iterate_add, List.map_append, Nat.add_comm, Function.iterate_add_apply]
  rfl

/-- A transcript takes down just the reals that a source gives in succession. -/
theorem Transcript.inSuccession_unit {σ : Type} [Source σ] (n : Nat) (s : σ)
    (log : List Exchange) :
    inSuccession Source.unit n (⟨s, log⟩ : Transcript σ) =
      ((inSuccession Source.unit n s).1,
        ⟨(inSuccession Source.unit n s).2, log ++ (inSuccession Source.unit n s).1.map .unit⟩) := by
  induction n generalizing s log with
  | zero => simp
  | succ n ih =>
    rw [inSuccession_succ, unit_eq, ih, inSuccession_succ, List.map_cons, List.append_assoc]
    rfl

end Succession

namespace Session

variable {σ κ τ : Type} [Source σ] [TierSet τ] (s : Session σ κ) (table : DropTable τ Float)

/-! ### Bulk and single draws -/

/-- Several draws are single draws in succession, of which the empty ones are left out. -/
theorem drops_eq (n : Nat) :
    s.drops table n =
      ((inSuccession (drop · table) n s).1.filterMap Drop.tier?,
        (inSuccession (drop · table) n s).2) := by
  induction n generalizing s with
  | zero => rfl
  | succ n ih =>
    rw [drops_succ, ih, inSuccession_succ, List.filterMap_cons]
    -- The state goes on from the first draw, whether a tier was drawn or not.
    cases (s.drop table).1.tier? <;> rfl

/-- Single draws yield what the table gives for the reals of the source. They tell of every drop,
empty or not, and change nothing else. -/
theorem inSuccession_drop (n : Nat) :
    let reals := inSuccession Source.unit n s.source
    inSuccession (drop · table) n s =
      (reals.1.map table.pick,
        { s with
          source := reals.2
          events := s.events ++ reals.1.map fun x => dropEvent (table.pick x) }) := by
  induction n generalizing s with
  | zero => simp
  | succ n ih =>
    have hdrop : s.drop table =
        (table.pick (Source.unit s.source).1,
          { s with
            source := (Source.unit s.source).2
            events := s.events ++ [dropEvent (table.pick (Source.unit s.source).1)] }) := rfl
    dsimp only at ih ⊢
    rw [inSuccession_succ, hdrop, ih, inSuccession_succ, List.map_cons, List.map_cons,
      List.append_assoc]
    rfl

/-- A series of draws takes one real number for each of them, and asks for nothing else. -/
theorem drops_watch (n : Nat) :
    let reals := inSuccession Source.unit n s.source
    s.watch.drops table n =
      ((s.drops table n).1,
        { (s.drops table n).2 with source := ⟨reals.2, reals.1.map .unit⟩ }) := by
  dsimp only
  rw [drops_eq, drops_eq, inSuccession_drop, inSuccession_drop]
  unfold watch Transcript.begin
  simp only [Transcript.inSuccession_unit]
  rfl

/-- The later draws go on where the earlier ones have stopped. -/
theorem drops_add (m n : Nat) :
    s.drops table (m + n) =
      ((s.drops table m).1 ++ ((s.drops table m).2.drops table n).1,
        ((s.drops table m).2.drops table n).2) := by
  simp only [drops_eq, inSuccession_add, List.filterMap_append]

variable {s table} in
/-- What is drawn has a chance, unless a real below zero was drawn. -/
theorem chance_of_mem_drops [DecidableEq τ] {chances : List (τ × Float)} {noResult : Float}
    (h : DropTable.create chances noResult = .ok table) {n : Nat}
    (hreals : ∀ x ∈ (inSuccession Source.unit n s.source).1, 0.0 ≤ x) :
    ∀ t ∈ (s.drops table n).1, (table.chance t == 0.0) = false := by
  intro t ht
  rw [drops_eq, inSuccession_drop] at ht
  obtain ⟨d, hd, htier⟩ := List.mem_filterMap.mp ht
  obtain ⟨x, hx, rfl⟩ := List.mem_map.mp hd
  have hpick : table.pick x = .tier t := Drop.tier?_eq_some_iff.mp htier
  have hproper := DropTable.isProper_of_create h
  -- A draw that is not below zero would have to lie in the empty slice of the tier.
  by_contra hzero
  rw [Bool.not_eq_false, (hproper.isProper_chance t).beq_zero_iff] at hzero
  exact hproper.pick_ne_tier (Chance.isAmount_of_zero_le (hreals x hx)).1 hzero hpick

/-- Drawing `n` times from a table. The tiers that come of it are those of `n` single draws, each
made in the state that the one before has left, in their order and without the draws that yield
nothing; the state at the end is the one after the last single draw. The source is asked for `n`
real numbers and for nothing else, also where draws are empty, and the single draws yield what the
table gives for these numbers. So there are no more than `n` tiers. In a table that was built, none
of them has the chance zero if the source gives no number below zero. Drawing `m + n` times is
drawing `m` times and then, from the state that this leaves, `n` times. -/
theorem drops_in_succession [DecidableEq τ] (s : Session σ κ) (table : DropTable τ Float) :
    (∀ n,
      let bulk := s.drops table n
      let singles := inSuccession (drop · table) n s
      let reals := inSuccession Source.unit n s.source
      bulk = (singles.1.filterMap Drop.tier?, singles.2) ∧
      (singles.1.length = n ∧ reals.1.length = n ∧ singles.1 = reals.1.map table.pick ∧
        s.watch.drops table n =
          (bulk.1, { bulk.2 with source := ⟨reals.2, reals.1.map .unit⟩ })) ∧
      bulk.1.length ≤ n ∧
      ∀ (chances : List (τ × Float)) (noResult : Float),
        DropTable.create chances noResult = .ok table → (∀ x ∈ reals.1, 0.0 ≤ x) →
          ∀ t ∈ bulk.1, (table.chance t == 0.0) = false) ∧
    ∀ m n,
      let first := s.drops table m
      let second := first.2.drops table n
      s.drops table (m + n) = (first.1 ++ second.1, second.2) := by
  refine ⟨fun n => ?_, fun m n => s.drops_add table m n⟩
  intro bulk singles reals
  have hbulk : bulk = (singles.1.filterMap Drop.tier?, singles.2) := s.drops_eq table n
  have hsingles : singles.1 = reals.1.map table.pick :=
    congrArg Prod.fst (s.inSuccession_drop table n)
  have hlength : singles.1.length = n := length_inSuccession _ s n
  refine ⟨hbulk, ⟨hlength, length_inSuccession _ s.source n, hsingles, s.drops_watch table n⟩, ?_,
    fun chances noResult h hreals => chance_of_mem_drops h hreals⟩
  calc bulk.1.length
    _ = (singles.1.filterMap Drop.tier?).length := by rw [hbulk]
    _ ≤ singles.1.length := List.length_filterMap_le _ _
    _ = n := hlength

/-- Four draws from a table with tiers of chance zero. The second one yields nothing, but takes its
real number all the same, and the boundary that the third one meets has a tier of chance zero below
it. -/
theorem drops_in_succession_of_gapped_table :
    let table : DropTable Quality Float := ⟨[(.juryRigged, 0.0), (.scavenged, 0.5),
      (.clanForged, 0.0), (.optimized, 0.25), (.mythForged, 0.0)], 0.25⟩
    let s : Session Scripted SteadyClock := .start {} ⟨[], [0.0, 0.99, 0.5, 0.25, 0.6]⟩ ⟨⟨0, 0⟩, 1⟩
    DropTable.create [(Quality.optimized, (0.25 : Float)), (.scavenged, 0.5)] 0.25 = .ok table ∧
      (∀ x ∈ (inSuccession Source.unit 4 s.source).1, 0.0 ≤ x) ∧
      (s.drops table 4).1 = [.scavenged, .optimized, .scavenged] ∧
      (s.drops table 4).1.length ≤ 4 ∧
      (∀ t ∈ (s.drops table 4).1, (table.chance t == 0.0) = false) ∧
      (s.drops table (1 + 3)).1 =
        (s.drops table 1).1 ++ ((s.drops table 1).2.drops table 3).1 := by
  intro table s
  have hcreate : DropTable.create [(Quality.optimized, (0.25 : Float)), (.scavenged, 0.5)] 0.25 =
      .ok table := rfl
  have hreals : ∀ x ∈ (inSuccession Source.unit 4 s.source).1, 0.0 ≤ x := by decide +kernel
  obtain ⟨hbulk, hcut⟩ := drops_in_succession s table
  obtain ⟨htiers, ⟨-, -, hsingles, -⟩, hlength, hchance⟩ := hbulk 4
  have hdrops : (s.drops table 4).1 = [.scavenged, .optimized, .scavenged] := by
    rw [htiers, hsingles]
    decide +kernel
  exact ⟨hcreate, hreals, hdrops, hlength, hchance _ _ hcreate hreals, congrArg Prod.fst (hcut 1 3)⟩

end Session

end Tabletop
