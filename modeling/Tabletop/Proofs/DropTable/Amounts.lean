import Tabletop.Loot.Chance
import Tabletop.Proofs.Binary64.Sum

/-!
# Sums of chances

The chances of a table are finite and not below zero. Their sums stay amounts: they are not below
zero either, though in floating-point arithmetic they may become infinite. What the checks of a
table need to know of its arithmetic is collected in `LawfulChance`, and what its draws need to know
in `OrderedChance`; floating-point numbers and exact numbers have both.

## Main definitions

* `Chance.IsProper` — what a table may have as a chance
* `Chance.IsAmount` — what sums of such chances are
* `LawfulChance` — arithmetic in which amounts add up to amounts
* `OrderedChance` — arithmetic in which adding amounts never leads down

## Main results

* `Chance.isAmount_total` — a sum of amounts is an amount
* `Chance.forall_runningTotals_iff` — the last of the running totals is the highest
* `Chance.isAmount_iff`, `OrderedChance Float` — floating-point amounts
* `Chance.missesOne_eq_false_iff` — how far a floating-point amount is from one
-/

namespace Tabletop

namespace Chance

variable {α : Type} [Chance α]

/-- A chance of a table is finite and not below zero. -/
def IsProper (x : α) : Prop := isFinite x = true ∧ ¬x < zero

/-- A number that is not below zero. Only above zero may it be infinite. -/
def IsAmount (x : α) : Prop := ¬x < zero ∧ (isFinite x = true ∨ zero < x)

theorem IsProper.isAmount {x : α} (h : IsProper x) : IsAmount x := ⟨h.2, .inl h.1⟩

end Chance

/-- Arithmetic in which amounts add up to amounts and none is lost. -/
class LawfulChance (α : Type) [Chance α] : Prop where
  isAmount_zero : Chance.IsAmount (Chance.zero : α)
  isAmount_emptySum : Chance.IsAmount (Chance.emptySum : α)
  isAmount_add {x y : α} : Chance.IsAmount x → Chance.IsAmount y → Chance.IsAmount (x + y)
  /-- A sum is zero only if all of it is. -/
  zero_lt_add_iff {x y : α} : Chance.IsAmount x → Chance.IsAmount y →
    (Chance.zero < x + y ↔ Chance.zero < x ∨ Chance.zero < y)
  /-- Adding zero moves no sum towards one or away from it. -/
  missesOne_add_add {x z y : α} : Chance.IsAmount x → Chance.IsAmount z → Chance.IsAmount y →
    ¬Chance.zero < z → Chance.missesOne (x + z + y) = Chance.missesOne (x + y)

/-- Arithmetic in which a sum of amounts is not below either of them, and zero adds nothing. -/
class OrderedChance (α : Type) [Chance α] : Prop extends LawfulChance α where
  lt_add_of_lt {x y z : α} : Chance.IsAmount x → Chance.IsAmount y → z < x → z < x + y
  lt_of_lt_add {x y z : α} : Chance.IsAmount x → Chance.IsAmount y → ¬Chance.zero < y →
    z < x + y → z < x

namespace Chance

section Sums

variable {α : Type} [Chance α] [LawfulChance α]

theorem isAmount_foldl_add {x : α} {xs : List α} (hx : IsAmount x) (h : ∀ y ∈ xs, IsAmount y) :
    IsAmount (xs.foldl (· + ·) x) := by
  induction xs generalizing x with
  | nil => exact hx
  | cons y ys ih =>
    rw [List.forall_mem_cons] at h
    exact ih (LawfulChance.isAmount_add hx h.1) h.2

/-- A sum of amounts is an amount. -/
theorem isAmount_total {xs : List α} (h : ∀ x ∈ xs, IsAmount x) : IsAmount (total xs) :=
  isAmount_foldl_add LawfulChance.isAmount_emptySum h

/-- A sum of amounts is above zero as soon as one of them is. -/
theorem zero_lt_foldl_add_iff {x : α} {xs : List α} (hx : IsAmount x) (h : ∀ y ∈ xs, IsAmount y) :
    zero < xs.foldl (· + ·) x ↔ zero < x ∨ ∃ y ∈ xs, zero < y := by
  induction xs generalizing x with
  | nil => simp
  | cons y ys ih =>
    rw [List.forall_mem_cons] at h
    rw [List.foldl_cons, ih (LawfulChance.isAmount_add hx h.1) h.2,
      LawfulChance.zero_lt_add_iff hx h.1]
    simp only [List.mem_cons, exists_eq_or_imp, or_assoc]

end Sums

/-! ### Running totals -/

section RunningTotals

variable {α : Type} [Chance α] [OrderedChance α] {draw sofar : α} {xs : List α}

theorem lt_foldl_add_of_lt (hsofar : IsAmount sofar) (h : ∀ x ∈ xs, IsAmount x)
    (hdraw : draw < sofar) : draw < xs.foldl (· + ·) sofar := by
  induction xs generalizing sofar with
  | nil => exact hdraw
  | cons x xs ih =>
    rw [List.forall_mem_cons] at h
    exact ih (LawfulChance.isAmount_add hsofar h.1) h.2
      (OrderedChance.lt_add_of_lt hsofar h.1 hdraw)

/-- What has passed the last of the running totals has passed them all. -/
theorem forall_runningTotals_iff (hsofar : IsAmount sofar) (h : ∀ x ∈ xs, IsAmount x)
    (hstart : ¬draw < sofar) :
    (∀ c ∈ runningTotals sofar xs, ¬draw < c) ↔ ¬draw < xs.foldl (· + ·) sofar := by
  induction xs generalizing sofar with
  | nil => simpa [runningTotals] using hstart
  | cons x xs ih =>
    rw [List.forall_mem_cons] at h
    have hnext : IsAmount (sofar + x) := LawfulChance.isAmount_add hsofar h.1
    rw [runningTotals, List.forall_mem_cons, List.foldl_cons]
    by_cases hx : draw < sofar + x
    · exact iff_of_false (fun hall => hall.1 hx) (not_not.2 (lt_foldl_add_of_lt hnext h.2 hx))
    · rw [ih hnext h.2 hx]
      exact and_iff_right hx

end RunningTotals

/-! ### Exact chances -/

theorem isAmount_rat_iff {q : Rat} : IsAmount q ↔ 0 ≤ q := by
  have : IsAmount q ↔ ¬q < 0 ∧ (true = true ∨ 0 < q) := Iff.rfl
  rw [this]
  simp

instance : LawfulChance Rat where
  isAmount_zero := isAmount_rat_iff.2 le_rfl
  isAmount_emptySum := isAmount_rat_iff.2 le_rfl
  isAmount_add hx hy :=
    isAmount_rat_iff.2 (add_nonneg (isAmount_rat_iff.1 hx) (isAmount_rat_iff.1 hy))
  zero_lt_add_iff {x y} hx hy := by
    rw [isAmount_rat_iff] at hx hy
    change 0 < x + y ↔ 0 < x ∨ 0 < y
    constructor
    · intro h
      by_contra hzero
      obtain ⟨hx', hy'⟩ := not_or.1 hzero
      linarith
    · rintro (h | h) <;> linarith
  missesOne_add_add {x z y} _ hz _ hz' := by
    obtain rfl : z = 0 := le_antisymm (not_lt.1 hz') (isAmount_rat_iff.1 hz)
    rw [add_zero]

instance : OrderedChance Rat where
  lt_add_of_lt _ hy h := lt_add_of_lt_of_nonneg h (isAmount_rat_iff.1 hy)
  lt_of_lt_add {x y z} _ hy hy' h := by
    obtain rfl : y = 0 := le_antisymm (not_lt.1 hy') (isAmount_rat_iff.1 hy)
    rwa [add_zero] at h

/-! ### Floating-point chances -/

section Float

open Binary64 Float.Model Float.Model.UnpackedFloat

variable {x y z : Float}

theorem view_zero : view (zero : Float) = .zero .positive := rfl

theorem view_emptySum : view (emptySum : Float) = .zero .negative := rfl

theorem view_tolerance :
    view tolerance = .finite .positive 4611686018427388 (-62) (by decide) := rfl

theorem view_one : view 1.0 = .finite .positive (2 ^ 52) (-52) (by decide) := rfl

theorem lt_zero_iff (hx : view x ≠ .notANumber) : x < zero ↔ rank (view x) < 0 := by
  rw [lt_iff hx (by simp [view_zero]), view_zero]
  rfl

theorem zero_lt_iff (hx : view x ≠ .notANumber) : zero < x ↔ 0 < rank (view x) := by
  rw [lt_iff (by simp [view_zero]) hx, view_zero]
  rfl

/-- Floating-point amounts are those of the format. -/
theorem isAmount_iff : IsAmount x ↔ Binary64.IsAmount (view x) := by
  have hfinite : isFinite x = (view x).isFinite := rfl
  constructor
  · rintro ⟨hneg, hkind⟩
    have hx : view x ≠ .notANumber := by
      intro h
      rw [hfinite, h] at hkind
      exact hkind.elim (by simp [UnpackedFloat.isFinite]) (not_lt_notANumber h)
    rw [lt_zero_iff hx, not_lt] at hneg
    exact .of_rank_nonneg (isCanonical_view x) hx hneg
  · intro h
    refine ⟨?_, ?_⟩
    · rw [lt_zero_iff h.ne_notANumber, not_lt]
      exact h.rank_nonneg
    · rw [hfinite, zero_lt_iff h.ne_notANumber]
      exact h.isFinite_or_rank_pos

instance : LawfulChance Float where
  isAmount_zero := by
    rw [isAmount_iff, view_zero]
    exact .zero _
  isAmount_emptySum := by
    rw [isAmount_iff, view_emptySum]
    exact .zero _
  isAmount_add {x y} hx hy := by
    rw [isAmount_iff] at hx hy ⊢
    exact (hx.add hy).1
  zero_lt_add_iff {x y} hx hy := by
    rw [isAmount_iff] at hx hy
    have hsum : view (x + y) ≠ .notANumber := (hx.add hy).1.ne_notANumber
    rw [zero_lt_iff hx.ne_notANumber, zero_lt_iff hy.ne_notANumber, zero_lt_iff hsum]
    exact hx.rank_add_pos_iff hy
  missesOne_add_add {x z y} _ hz _ hz0 := by
    rw [isAmount_iff] at hz
    rw [zero_lt_iff hz.ne_notANumber] at hz0
    obtain ⟨s, hs⟩ := hz.exists_eq_zero hz0
    by_cases hx : ∃ t, view x = .zero t
    · obtain ⟨t, ht⟩ := hx
      obtain ⟨r, hr⟩ := exists_view_add_eq_zero ht hs
      by_cases hy : ∃ t, view y = .zero t
      · -- Only here may the sums differ, by the sign of a zero, and one is far from either.
        obtain ⟨t', ht'⟩ := hy
        obtain ⟨r', hr'⟩ := exists_view_add_eq_zero hr ht'
        obtain ⟨r'', hr''⟩ := exists_view_add_eq_zero ht ht'
        change decide (tolerance < (x + z + y - 1.0).abs) = decide (tolerance < (x + y - 1.0).abs)
        rw [sub_eq_of_view_zero hr' hr'' view_one]
      · have hy' : ∀ t, view y ≠ .zero t := by simpa using hy
        have hleft : x + z + y = y := add_of_view_zero_left hr hy'
        have hright : x + y = y := add_of_view_zero_left ht hy'
        rw [hleft, hright]
    · have hxz : x + z = x := add_of_view_zero_right (by simpa using hx) hs
      rw [hxz]

instance : OrderedChance Float where
  lt_add_of_lt {x y z} hx hy h := by
    rw [isAmount_iff] at hx hy
    obtain ⟨hsum, hle, -⟩ := hx.add hy
    have hadd : view (x + y) ≠ .notANumber := hsum.ne_notANumber
    obtain ⟨hz, hx'⟩ := ne_notANumber_of_lt h
    rw [lt_iff hz hx'] at h
    exact (lt_iff hz hadd).2 (h.trans_le hle)
  lt_of_lt_add {x y z} hx hy hy0 h := by
    rw [isAmount_iff] at hx hy
    rw [zero_lt_iff hy.ne_notANumber] at hy0
    obtain ⟨s, hs⟩ := hy.exists_eq_zero hy0
    by_cases hx0 : ∃ t, view x = .zero t
    · -- The sum may be the other zero, which stands where this one does.
      obtain ⟨t, ht⟩ := hx0
      obtain ⟨r, hr⟩ := exists_view_add_eq_zero ht hs
      obtain ⟨hz, hadd⟩ := ne_notANumber_of_lt h
      rw [lt_iff hz hadd, hr] at h
      rw [lt_iff hz hx.ne_notANumber, ht]
      exact h
    · have hxy : x + y = x := add_of_view_zero_right (by simpa using hx0) hs
      rwa [hxy] at h

/-- Between amounts the one that is not below the other is at least as large. -/
theorem IsAmount.not_lt_iff (hx : IsAmount x) (hy : IsAmount y) : ¬x < y ↔ y ≤ x := by
  rw [isAmount_iff] at hx hy
  rw [lt_iff hx.ne_notANumber hy.ne_notANumber, le_iff hy.ne_notANumber hx.ne_notANumber, not_lt]

/-- A number at least as large as zero is an amount. -/
theorem isAmount_of_zero_le (h : 0.0 ≤ x) : IsAmount x := by
  obtain ⟨hzero, hx⟩ := ne_notANumber_of_le h
  rw [le_iff hzero hx] at h
  exact isAmount_iff.2 (.of_rank_nonneg (isCanonical_view x) hx h)

/-- A table may be off by the tolerance exactly. -/
theorem missesOne_eq_false_iff (hx : IsAmount x) :
    missesOne x = false ↔ (x - 1.0).abs ≤ tolerance := by
  rw [isAmount_iff] at hx
  have hdifference : view (x - 1.0) ≠ .notANumber := by
    rw [view_sub, view_one]
    exact repack_ne_notANumber (sub_finite_ne_notANumber hx.ne_notANumber _)
  have hdistance : view (x - 1.0).abs ≠ .notANumber := by
    rw [view_abs]
    exact repack_ne_notANumber (abs_ne_notANumber hdifference)
  have htolerance : view tolerance ≠ .notANumber := by
    rw [view_tolerance]
    simp
  change decide (tolerance < (x - 1.0).abs) = false ↔ _
  rw [decide_eq_false_iff_not, lt_iff htolerance hdistance, le_iff hdistance htolerance, not_lt]

/-- A proper chance is zero unless it is above zero. -/
theorem IsProper.beq_zero_iff (hx : IsProper x) : (x == 0.0) = true ↔ ¬zero < x := by
  have h := isAmount_iff.1 hx.isAmount
  have hzero : view 0.0 = .zero .positive := rfl
  rw [zero_lt_iff h.ne_notANumber, beq_iff h.ne_notANumber (by simp [hzero]), hzero, not_lt]
  exact ⟨le_of_eq, fun hle => hle.antisymm h.rank_nonneg⟩

end Float

end Chance

end Tabletop
