import Tabletop.Decimal.Shortest
import Tabletop.Loot.Chance
import Tabletop.Loot.Tier
import Tabletop.Random.Source

/-!
# Drop tables

A drop table gives every tier a chance, and nothing at all a chance of its own; together they make
up one, within a tolerance. The tiers own consecutive half-open slices of the unit interval in
their order, and a draw above the last slice yields nothing. A draw on a boundary belongs to the
higher tier.
-/

namespace Tabletop

/-- Why a drop table is refused. The tiers are given by name. -/
inductive DropTableError (α : Type) where
  | negativeProbability (tier : String) (value : α)
  | negativeNoResult (value : α)
  | nonFinite (label : String)
  | duplicateTier (tier : String)
  /-- The chances do not make up one. -/
  | sumOutOfTolerance (total : α)
  deriving DecidableEq, Repr

def DropTableError.message : DropTableError Float → String
  | negativeProbability tier value =>
    "Probability for " ++ tier ++ " cannot be negative (got " ++ Decimal.shortest value ++ ")"
  | negativeNoResult value =>
    "No-result chance cannot be negative (got " ++ Decimal.shortest value ++ ")"
  | nonFinite label => "Probability for " ++ label ++ " is not a finite number"
  | duplicateTier tier => "Tier " ++ tier ++ " is listed more than once"
  | sumOutOfTolerance total =>
    "Probabilities must sum to 1.0 (got " ++ Decimal.fixed 4 total ++ ")"

inductive Drop (τ : Type) where
  | tier (tier : τ)
  | nothing
  deriving DecidableEq, Repr

namespace Drop

variable {τ : Type}

def tier? : Drop τ → Option τ
  | tier t => some t
  | nothing => none

def isNothing : Drop τ → Bool
  | tier _ => false
  | nothing => true

theorem tier?_eq_some_iff {d : Drop τ} {t : τ} : d.tier? = some t ↔ d = .tier t := by
  cases d <;> simp [tier?]

end Drop

/-- The chances of the tiers, in the order of the tiers, and the chance of nothing. -/
structure DropTable (τ α : Type) where
  entries : List (τ × α)
  noResult : α
  deriving DecidableEq, Repr

namespace DropTable

variable {τ α : Type} [DecidableEq τ] [TierList τ] [Chance α]

/-- Checks the listed chances one after the other. Chances of tiers that can be drawn are collected;
the chances of the others are added up. -/
def collect (given : List (τ × α)) (unlisted : α) :
    List (τ × α) → Except (DropTableError α) (List (τ × α) × α)
  | [] => .ok (given, unlisted)
  | (t, chance) :: rest =>
    if !Chance.isFinite chance then .error (.nonFinite (TierList.name t))
    else if chance < Chance.zero then .error (.negativeProbability (TierList.name t) chance)
    else if t ∈ (TierList.all : List τ) then
      if (given.lookup t).isSome then .error (.duplicateTier (TierList.name t))
      else collect (given ++ [(t, chance)]) unlisted rest
    else collect given (unlisted + chance) rest

/-- Tiers with their given chances, or with zero. A tier that has been seen before gets zero. -/
def fill (given : List (τ × α)) (seen : List τ) : List τ → List (τ × α)
  | [] => []
  | t :: rest =>
    (t, if t ∈ seen then Chance.zero else (given.lookup t).getD Chance.zero) ::
      fill given (t :: seen) rest

/-- Every tier with its given chance, or with zero. A tier that is there twice has its chance in the
first place. -/
def complete (given : List (τ × α)) : List (τ × α) := fill given [] TierList.all

/-- Builds a table from chances and the chance of nothing. A tier that is not listed has chance
zero; one that can never be drawn must not have any other. -/
def create (chances : List (τ × α)) (noResult : α) : Except (DropTableError α) (DropTable τ α) :=
  if !Chance.isFinite noResult then .error (.nonFinite "no result")
  else if noResult < Chance.zero then .error (.negativeNoResult noResult)
  else do
    let (given, unlisted) ← collect [] Chance.zero chances
    let entries := complete given
    -- The order of the sum matters: the tiers in their order first, then the rest.
    let total := Chance.total (entries.map Prod.snd) + unlisted + noResult
    if Chance.missesOne total = true ∨ Chance.zero < unlisted then
      .error (.sumOutOfTolerance total)
    else .ok { entries, noResult }

/-- The tier whose slice holds a draw, when the slices start at a given sum. -/
def pickFrom (draw sofar : α) : List (τ × α) → Drop τ
  | [] => .nothing
  | (t, chance) :: rest =>
    let sofar := sofar + chance
    if draw < sofar then .tier t else pickFrom draw sofar rest

/-- What a draw from the unit interval yields. -/
def pick (table : DropTable τ α) (draw : α) : Drop τ := pickFrom draw Chance.zero table.entries

def draw {σ : Type} [Source σ] (table : DropTable τ Float) (s : σ) : Drop τ × σ :=
  let (x, s) := Source.unit s
  (table.pick x, s)

def chance (table : DropTable τ α) (t : τ) : α := (table.entries.lookup t).getD Chance.zero

/-- The chance that a draw yields any tier. -/
def dropChance (table : DropTable τ α) : α := Chance.total (table.entries.map Prod.snd)

omit [TierList τ] in
theorem map_fst_fill (given : List (τ × α)) (seen tiers : List τ) :
    (fill given seen tiers).map Prod.fst = tiers := by
  induction tiers generalizing seen with
  | nil => rfl
  | cons t rest ih => exact congrArg (t :: ·) (ih (t :: seen))

theorem map_fst_complete (given : List (τ × α)) :
    (complete given).map Prod.fst = TierList.all := map_fst_fill given [] TierList.all

omit [TierList τ] in
/-- What is filled in depends on the chances of the tiers alone. -/
theorem fill_congr {given given' : List (τ × α)} {tiers : List τ}
    (h : ∀ t ∈ tiers, given.lookup t = given'.lookup t) (seen : List τ) :
    fill given seen tiers = fill given' seen tiers := by
  induction tiers generalizing seen with
  | nil => rfl
  | cons t rest ih =>
    rw [fill, fill, h t List.mem_cons_self, ih fun u hu => h u (List.mem_cons_of_mem t hu)]

omit [TierList τ] in
/-- Tiers that are new and distinct have their given chances. -/
theorem fill_eq_map (given : List (τ × α)) {seen tiers : List τ} (hnodup : tiers.Nodup)
    (hnew : ∀ t ∈ tiers, t ∉ seen) :
    fill given seen tiers = tiers.map fun t => (t, (given.lookup t).getD Chance.zero) := by
  induction tiers generalizing seen with
  | nil => rfl
  | cons t rest ih =>
    obtain ⟨ht, hrest⟩ := List.nodup_cons.mp hnodup
    have hnext : ∀ u ∈ rest, u ∉ t :: seen := by
      intro u hu hmem
      rcases List.mem_cons.mp hmem with rfl | hseen
      · exact ht hu
      · exact hnew u (List.mem_cons_of_mem t hu) hseen
    rw [fill, if_neg (hnew t List.mem_cons_self), ih hrest hnext, List.map_cons]

end DropTable

end Tabletop
