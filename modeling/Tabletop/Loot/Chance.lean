/-!
# Chances

A drop table is made of chances: numbers that can be added and compared. At the table they are
floating-point numbers, and the sums round; the same definitions over the rational numbers give the
exact sums.
-/

namespace Tabletop

/-- Numbers that a drop table can be made of. -/
class Chance (α : Type) extends Add α, LT α where
  /-- The chance of what cannot happen. -/
  zero : α
  /-- The sum of no chances, which changes no chance that is added to it. -/
  emptySum : α
  decLt : DecidableLT α
  isFinite : α → Bool
  /-- Whether the number differs from one by more than a table may be off. -/
  missesOne : α → Bool

namespace Chance

instance {α : Type} [Chance α] : DecidableLT α := Chance.decLt

/-- How far the chances of a table may be off one, in floating-point arithmetic. -/
def tolerance : Float := 0.001

/-- Floating-point chances. A table may be off by one thousandth. Sums start from the negative zero:
only it leaves every number as it is when it is added, the negative zero included. -/
instance : Chance Float where
  zero := 0.0
  emptySum := -0.0
  decLt := inferInstance
  isFinite := Float.isFinite
  missesOne x := decide (tolerance < (x - 1.0).abs)

/-- The tolerance as it is stored, which is not quite one thousandth. -/
def exactTolerance : Rat := 1152921504606847 / 1152921504606846976

instance : Chance Rat where
  zero := 0
  emptySum := 0
  decLt := inferInstance
  isFinite _ := true
  missesOne x := decide (exactTolerance < x - 1) || decide (exactTolerance < 1 - x)

variable {α : Type} [Chance α]

/-- The sum of a list, added from left to right. -/
def total (xs : List α) : α := xs.foldl (· + ·) emptySum

/-- The sums of the beginnings of a list, each added to a number that precedes them. -/
def runningTotals (sofar : α) : List α → List α
  | [] => []
  | x :: xs => (sofar + x) :: runningTotals (sofar + x) xs

@[simp] theorem length_runningTotals (sofar : α) (xs : List α) :
    (runningTotals sofar xs).length = xs.length := by
  induction xs generalizing sofar with
  | nil => rfl
  | cons x xs ih => simp [runningTotals, ih]

end Chance

end Tabletop
