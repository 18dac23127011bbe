import Tabletop.Dice.Scoring
import Tabletop.Log.Identifier
import Tabletop.Log.Timestamp

/-!
# The history of rolls

A history keeps the latest rolls of one roller, up to a limit, and statistics over every roll ever
recorded: how many there were, how many of them were fumbles or critical, the sum of their net
successes, and streaks. A roll with at least one net success is lucky, every other one unlucky.
-/

namespace Tabletop

def defaultRecent : Nat := 20

structure RollRecord where
  id : Identifier
  /-- The pool in dice notation. -/
  written : String
  /-- What the roll was made for. -/
  context : Option String
  rawRolls : List Nat
  netSuccesses : Nat
  isFumble : Bool
  isCritical : Bool
  rolledAt : Timestamp
  deriving DecidableEq, Repr

namespace RollRecord

def ofRoll (id : Identifier) (r : Roll) (context : Option String) (rolledAt : Timestamp) :
    RollRecord :=
  { id, context, rolledAt
    written := toString r.pool
    rawRolls := r.rawRolls
    netSuccesses := r.netSuccesses
    isFumble := r.isFumble
    isCritical := r.isCritical }

def isLucky (r : RollRecord) : Bool := decide (0 < r.netSuccesses)

end RollRecord

/-- The last `n` members of a list. -/
def keepLast {α : Type} (n : Nat) (xs : List α) : List α := xs.drop (xs.length - n)

@[simp] theorem length_keepLast {α : Type} (n : Nat) (xs : List α) :
    (keepLast n xs).length = min n xs.length := by
  simp [keepLast]
  omega

/-- A bounded log of rolls with statistics over all of them. -/
structure RollHistory where
  id : Identifier
  /-- How many rolls are kept. -/
  maxRecent : Nat
  /-- The latest rolls, oldest first. -/
  recent : List RollRecord
  totalRolls : Nat
  totalFumbles : Nat
  totalCriticals : Nat
  netSuccessSum : Nat
  /-- The number of lucky rolls since the last unlucky one; for unlucky rolls, less than zero. -/
  currentStreak : Int
  longestLuckyStreak : Nat
  longestUnluckyStreak : Nat
  deriving DecidableEq, Repr

namespace RollHistory

/-- An empty history that keeps at most `limit` rolls, and at least one. Any limit is admitted. One
for which no storage can be had yields no history where the rolls are stored. -/
def ofLimit (id : Identifier) (limit : Nat) : RollHistory :=
  { id
    maxRecent := max limit 1
    recent := []
    totalRolls := 0
    totalFumbles := 0
    totalCriticals := 0
    netSuccessSum := 0
    currentStreak := 0
    longestLuckyStreak := 0
    longestUnluckyStreak := 0 }

/-- The streak after one more roll. -/
def nextStreak (streak : Int) (lucky : Bool) : Int :=
  if lucky then (if 0 ≤ streak then streak + 1 else 1)
  else if streak ≤ 0 then streak - 1 else -1

/-- The history with one more roll. -/
def record (h : RollHistory) (r : RollRecord) : RollHistory :=
  let streak := nextStreak h.currentStreak r.isLucky
  -- The totals count the roll even when it is later dropped from the kept ones.
  { h with
    recent := keepLast h.maxRecent (h.recent ++ [r])
    totalRolls := h.totalRolls + 1
    totalFumbles := h.totalFumbles + r.isFumble.toNat
    totalCriticals := h.totalCriticals + r.isCritical.toNat
    netSuccessSum := h.netSuccessSum + r.netSuccesses
    currentStreak := streak
    longestLuckyStreak :=
      if r.isLucky then max h.longestLuckyStreak streak.natAbs else h.longestLuckyStreak
    longestUnluckyStreak :=
      if r.isLucky then h.longestUnluckyStreak else max h.longestUnluckyStreak streak.natAbs }

def last? (h : RollHistory) : Option RollRecord := h.recent.getLast?

/-- The quotient of two totals as a floating-point number; zero when there are no rolls. -/
def ratio (part whole : Nat) : Float :=
  if whole = 0 then 0.0 else part.toUInt64.toFloat / whole.toUInt64.toFloat

def averageNet (h : RollHistory) : Float := ratio h.netSuccessSum h.totalRolls

def fumbleRate (h : RollHistory) : Float := ratio h.totalFumbles h.totalRolls

def criticalRate (h : RollHistory) : Float := ratio h.totalCriticals h.totalRolls

variable (h : RollHistory) (r : RollRecord)

@[simp] theorem recent_record :
    (h.record r).recent = keepLast h.maxRecent (h.recent ++ [r]) := rfl

@[simp] theorem maxRecent_record : (h.record r).maxRecent = h.maxRecent := rfl

@[simp] theorem totalRolls_record : (h.record r).totalRolls = h.totalRolls + 1 := rfl

@[simp] theorem totalFumbles_record :
    (h.record r).totalFumbles = h.totalFumbles + r.isFumble.toNat := rfl

@[simp] theorem totalCriticals_record :
    (h.record r).totalCriticals = h.totalCriticals + r.isCritical.toNat := rfl

@[simp] theorem netSuccessSum_record :
    (h.record r).netSuccessSum = h.netSuccessSum + r.netSuccesses := rfl

@[simp] theorem currentStreak_record :
    (h.record r).currentStreak = nextStreak h.currentStreak r.isLucky := rfl

@[simp] theorem longestLuckyStreak_record :
    (h.record r).longestLuckyStreak =
      if r.isLucky then max h.longestLuckyStreak (h.record r).currentStreak.natAbs
      else h.longestLuckyStreak := rfl

@[simp] theorem longestUnluckyStreak_record :
    (h.record r).longestUnluckyStreak =
      if r.isLucky then h.longestUnluckyStreak
      else max h.longestUnluckyStreak (h.record r).currentStreak.natAbs := rfl

end RollHistory

end Tabletop
