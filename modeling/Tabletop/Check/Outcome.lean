import Tabletop.Bounds
import Tabletop.Dice.Scoring

/-!
# Outcomes of checks

A check compares net successes with a difficulty. Their difference, the margin, decides between
five tiers; a fumble is the sixth and lowest tier whatever the margin. Margins saturate at the ends
of their range.
-/

namespace Tabletop

/-- The margin from which a success is critical. -/
def criticalMargin : Int := 5

/-- The tiers of an outcome, worst first. -/
inductive OutcomeTier where
  | criticalFailure
  | failure
  | marginalSuccess
  | fullSuccess
  | exceptionalSuccess
  | criticalSuccess
  deriving DecidableEq, Repr

/-- The kind of narration that fits an outcome. -/
inductive Descriptor where
  | catastrophic
  | failed
  | narrow
  | solid
  | impressive
  | legendary
  deriving DecidableEq, Repr

namespace OutcomeTier

/-- Every tier, worst first. -/
def all : List OutcomeTier :=
  [criticalFailure, failure, marginalSuccess, fullSuccess, exceptionalSuccess, criticalSuccess]

/-- The place of a tier, counted from the worst. -/
def rank : OutcomeTier → Nat
  | criticalFailure => 0
  | failure => 1
  | marginalSuccess => 2
  | fullSuccess => 3
  | exceptionalSuccess => 4
  | criticalSuccess => 5

instance : LE OutcomeTier := ⟨fun a b => a.rank ≤ b.rank⟩

instance : LT OutcomeTier := ⟨fun a b => a.rank < b.rank⟩

instance (a b : OutcomeTier) : Decidable (a ≤ b) := Nat.decLe a.rank b.rank

instance (a b : OutcomeTier) : Decidable (a < b) := Nat.decLt a.rank b.rank

/-- The order of two tiers. -/
def order (a b : OutcomeTier) : Ordering := compare a.rank b.rank

/-- The tier of a margin, fumbles apart. -/
def ofMargin (margin : Int) : OutcomeTier :=
  if margin < 0 then failure
  else if margin = 0 then marginalSuccess
  else if margin ≤ 2 then fullSuccess
  else if margin < criticalMargin then exceptionalSuccess
  else criticalSuccess

/-- The name of a tier in sentences. -/
def displayName : OutcomeTier → String
  | criticalFailure => "Critical Failure!"
  | failure => "Failure"
  | marginalSuccess => "Marginal Success"
  | fullSuccess => "Full Success"
  | exceptionalSuccess => "Exceptional Success"
  | criticalSuccess => "Critical Success!"

/-- Whether a tier counts as a success. -/
def isSuccess (t : OutcomeTier) : Bool := decide (marginalSuccess ≤ t)

/-- The kind of narration that fits the tier. -/
def descriptor : OutcomeTier → Descriptor
  | criticalFailure => .catastrophic
  | failure => .failed
  | marginalSuccess => .narrow
  | fullSuccess => .solid
  | exceptionalSuccess => .impressive
  | criticalSuccess => .legendary

theorem rank_ofMargin (margin : Int) :
    (ofMargin margin).rank =
      if margin < 0 then 1 else if margin = 0 then 2 else if margin ≤ 2 then 3
      else if margin < 5 then 4 else 5 := by
  unfold ofMargin criticalMargin
  repeat' split
  all_goals rfl

theorem le_refl (t : OutcomeTier) : t ≤ t := Nat.le_refl t.rank

/-- No tier is lower than that of a fumble. -/
theorem criticalFailure_le (t : OutcomeTier) : criticalFailure ≤ t := Nat.zero_le t.rank

/-- A larger margin gives no lower tier. -/
theorem ofMargin_mono {m n : Int} (h : m ≤ n) : ofMargin m ≤ ofMargin n := by
  change (ofMargin m).rank ≤ (ofMargin n).rank
  rw [rank_ofMargin, rank_ofMargin]
  repeat' split
  all_goals omega

/-- Saturation does not change the tier. -/
theorem ofMargin_clampInt32 (m : Int) : ofMargin (clampInt32 m) = ofMargin m := by
  by_cases hlo : m < int32Min
  · have hneg : m < 0 := by unfold int32Min at hlo; omega
    rw [clampInt32, if_pos hlo, ofMargin, ofMargin, if_pos (by decide), if_pos hneg]
  · by_cases hhi : int32Max < m
    · have hbig : 5 ≤ m := by unfold int32Max at hhi; omega
      rw [clampInt32, if_neg hlo, if_pos hhi]
      unfold ofMargin criticalMargin int32Max
      rw [if_neg (by omega), if_neg (by omega), if_neg (by omega), if_neg (by omega),
        if_neg (by omega), if_neg (by omega), if_neg (by omega), if_neg (by omega)]
    · rw [clampInt32_of_mem (by omega) (by omega)]

end OutcomeTier

/-- A classified check. -/
structure Outcome where
  tier : OutcomeTier
  /-- Net successes less the difficulty. -/
  margin : Int
  isFumble : Bool
  isCritical : Bool
  descriptor : Descriptor
  deriving DecidableEq, Repr

namespace Outcome

/-- Classifies net successes against a difficulty. A fumble is a critical failure and never
critical; otherwise the outcome is critical when the roll is or when the margin is large. -/
def classify (net : Int) (isFumble isCriticalRoll : Bool) (difficulty : Int) : Outcome :=
  let margin := clampInt32 (net - difficulty)
  let tier := if isFumble then .criticalFailure else .ofMargin margin
  { tier, margin, isFumble
    isCritical := !isFumble && (isCriticalRoll || decide (criticalMargin ≤ margin))
    descriptor := tier.descriptor }

/-- Classifies a roll against a difficulty. Net successes beyond the largest signed number of 32
bits count as that number. -/
def ofRoll (r : Roll) (difficulty : Int) : Outcome :=
  classify (min r.netSuccesses int32Max) r.isFumble r.isCritical difficulty

/-- Whether the check succeeded. -/
def isSuccess (o : Outcome) : Bool := o.tier.isSuccess

theorem classify_tier_of_fumble (net : Int) (isCriticalRoll : Bool) (difficulty : Int) :
    (classify net true isCriticalRoll difficulty).tier = .criticalFailure := rfl

theorem classify_tier (net : Int) (isCriticalRoll : Bool) (difficulty : Int) :
    (classify net false isCriticalRoll difficulty).tier = .ofMargin (net - difficulty) :=
  OutcomeTier.ofMargin_clampInt32 _

variable {r : Roll} (difficulty : Int)

theorem ofRoll_tier_of_fumble (h : r.isFumble = true) :
    (ofRoll r difficulty).tier = .criticalFailure := by
  rw [ofRoll, h]
  exact classify_tier_of_fumble _ _ _

theorem ofRoll_tier (h : r.isFumble = false) :
    (ofRoll r difficulty).tier = .ofMargin (min (r.netSuccesses : Int) int32Max - difficulty) := by
  rw [ofRoll, h]
  exact classify_tier _ _ _

end Outcome

end Tabletop
