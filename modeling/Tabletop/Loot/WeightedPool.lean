import Tabletop.Random.Source
import Tabletop.Refusal

/-!
# Weighted pools

A weighted pool holds items under distinct names, each with a whole weight, in the order in which
they were added. A selection draws a number below the total weight and finds, by binary search, the
first item whose running total exceeds it, so that every item is selected by as many draws as its
weight says. An item of weight zero stays in the pool but is never selected.

The running totals are kept beside the items and rebuilt with every change.
-/

namespace Tabletop

/-- The largest total weight, which is the largest number that a source can be asked for. -/
def maxTotalWeight : Nat := 2147483647

/-- Why a weighted pool refuses a request. -/
inductive WeightedPoolError where
  /-- The pool is empty, or every weight is zero. -/
  | noSelectableItems
  | itemNotFound (id : String)
  | totalWeightOverflow
  | duplicateItem (id : String)
  deriving DecidableEq, Repr

def WeightedPoolError.message : WeightedPoolError → String
  | noSelectableItems => "No selectable items: pool is empty or every weight is zero"
  | itemNotFound id => "Item not found in pool: " ++ id
  | totalWeightOverflow => "Total weight would exceed " ++ toString maxTotalWeight
  | duplicateItem id => "Duplicate item id in pool: " ++ id

structure WeightedItem (α : Type) where
  id : String
  item : α
  weight : Nat
  deriving DecidableEq, Repr

def WeightedItem.isSelectable {α : Type} (i : WeightedItem α) : Bool := decide (0 < i.weight)

/-! ### Binary search -/

/-- Searches a part of a sorted array for the first entry that exceeds a bound. -/
def partitionFrom (xs : Array Nat) (bound lo hi : Nat) (h : hi ≤ xs.size) : Nat :=
  if hlt : lo < hi then
    let mid := lo + (hi - lo) / 2
    if xs[mid] ≤ bound then partitionFrom xs bound (mid + 1) hi h
    else partitionFrom xs bound lo mid (by omega)
  else lo
termination_by hi - lo

/-- The place of the first entry of a sorted array that exceeds a bound; the size of the array when
there is none. -/
def partitionPoint (xs : Array Nat) (bound : Nat) : Nat :=
  partitionFrom xs bound 0 xs.size (Nat.le_refl _)

theorem partitionFrom_le (xs : Array Nat) (bound lo hi : Nat) (h : hi ≤ xs.size)
    (hle : lo ≤ hi) : partitionFrom xs bound lo hi h ≤ hi := by
  fun_induction partitionFrom xs bound lo hi h with
  | case1 lo hi h hlt mid hmid ih => exact ih (by omega)
  | case2 lo hi h hlt mid hmid ih => exact Nat.le_trans (ih (by omega)) (by omega)
  | case3 lo hi h hlt => exact hle

theorem partitionPoint_le (xs : Array Nat) (bound : Nat) : partitionPoint xs bound ≤ xs.size :=
  partitionFrom_le xs bound 0 xs.size (Nat.le_refl _) (Nat.zero_le _)

/-! ### Pools -/

/-- Items in the order of their addition, with the running totals of their weights. -/
structure WeightedPool (α : Type) where
  items : List (WeightedItem α) := []
  cumulative : Array Nat := #[]
  deriving DecidableEq, Repr

namespace WeightedPool

variable {α : Type}

/-- The sums of the beginnings of a list of weights, each added to a number that precedes them. -/
def runningWeights (sofar : Nat) : List (WeightedItem α) → List Nat
  | [] => []
  | i :: rest => (sofar + i.weight) :: runningWeights (sofar + i.weight) rest

/-- The pool of some items with their running totals. -/
def rebuild (items : List (WeightedItem α)) : WeightedPool α :=
  ⟨items, (runningWeights 0 items).toArray⟩

def empty : WeightedPool α := {}

def weightSum (items : List (WeightedItem α)) : Nat :=
  items.foldr (fun i sum => i.weight + sum) 0

def totalWeight (p : WeightedPool α) : Nat := weightSum p.items

/-- The first name that an earlier item bears already. -/
def firstDuplicate? (seen : List String) : List (WeightedItem α) → Option String
  | [] => none
  | i :: rest => if i.id ∈ seen then some i.id else firstDuplicate? (i.id :: seen) rest

/-- The pool of a list of items. A repeated name is reported before an excessive total. -/
def ofItems (items : List (WeightedItem α)) : Except WeightedPoolError (WeightedPool α) :=
  match firstDuplicate? [] items with
  | some id => .error (.duplicateItem id)
  | none =>
    if maxTotalWeight < weightSum items then .error .totalWeightOverflow
    else .ok (rebuild items)

def get? (p : WeightedPool α) (id : String) : Option (WeightedItem α) :=
  p.items.find? (·.id == id)

def contains (p : WeightedPool α) (id : String) : Bool := (p.get? id).isSome

/-- The weight of the item with a name; zero when there is none. -/
def weightOf (p : WeightedPool α) (id : String) : Nat :=
  match p.get? id with
  | some i => i.weight
  | none => 0

/-- Replaces the first item with the name of the given one. -/
def replaceFirst (new : WeightedItem α) : List (WeightedItem α) → List (WeightedItem α)
  | [] => []
  | i :: rest => if i.id = new.id then new :: rest else i :: replaceFirst new rest

/-! ### Changes

A request to change a pool is answered, and beside the answer stands the pool that it leaves. -/

/-- Puts an item into the pool; one that bears the name already is replaced where it stands. -/
def put (p : WeightedPool α) (id : String) (item : α) (weight : Nat) :
    Except WeightedPoolError Unit × WeightedPool α :=
  if maxTotalWeight < p.totalWeight - p.weightOf id + weight then (.error .totalWeightOverflow, p)
  else
    let new : WeightedItem α := ⟨id, item, weight⟩
    (.ok (), rebuild (if p.contains id then replaceFirst new p.items else p.items ++ [new]))

/-- Takes the item with a name out of the pool. -/
def take (p : WeightedPool α) (id : String) :
    Except WeightedPoolError (WeightedItem α) × WeightedPool α :=
  match p.get? id with
  | none => (.error (.itemNotFound id), p)
  | some i => (.ok i, rebuild (p.items.eraseP (·.id == id)))

/-- Gives the item with a name another weight. -/
def reweigh (p : WeightedPool α) (id : String) (weight : Nat) :
    Except WeightedPoolError Unit × WeightedPool α :=
  match p.get? id with
  | none => (.error (.itemNotFound id), p)
  | some i =>
    if maxTotalWeight < p.totalWeight - i.weight + weight then (.error .totalWeightOverflow, p)
    else (.ok (), rebuild (replaceFirst { i with weight } p.items))

/-- The pool with one more item, unless it is refused. -/
def add (p : WeightedPool α) (id : String) (item : α) (weight : Nat) :
    Except WeightedPoolError (WeightedPool α) :=
  (granted (p.put id item weight)).map Prod.snd

/-- The item with a name and the pool without it, unless there is none. -/
def remove (p : WeightedPool α) (id : String) :
    Except WeightedPoolError (WeightedItem α × WeightedPool α) :=
  granted (p.take id)

/-- The pool with another weight for the item with a name, unless it is refused. -/
def setWeight (p : WeightedPool α) (id : String) (weight : Nat) :
    Except WeightedPoolError (WeightedPool α) :=
  (granted (p.reweigh id weight)).map Prod.snd

def clear (p : WeightedPool α) : WeightedPool α := { p with items := [], cumulative := #[] }

def size (p : WeightedPool α) : Nat := p.items.length

def selectableCount (p : WeightedPool α) : Nat := p.items.countP WeightedItem.isSelectable

def hasSelectable (p : WeightedPool α) : Bool := decide (0 < p.totalWeight)

/-- The part of the total weight that the item with a name has, for a given way to form quotients;
zero when there is no such item, or no weight at all. -/
def shareBy {κ : Type} (quotient : Nat → Nat → κ) (zero : κ) (p : WeightedPool α) (id : String) :
    κ :=
  match p.get? id with
  | some i => if p.totalWeight = 0 then zero else quotient i.weight p.totalWeight
  | none => zero

/-- The chance that a selection returns the item with a name, as a floating-point number. -/
def probability (p : WeightedPool α) (id : String) : Float :=
  p.shareBy (fun weight total => weight.toUInt64.toFloat / total.toUInt64.toFloat) 0.0 id

/-- The item that a draw selects. A draw beyond the total selects none. -/
def itemAt? (p : WeightedPool α) (draw : Nat) : Option (WeightedItem α) :=
  p.items[partitionPoint p.cumulative draw]?

/-- Selects an item at random. Nothing is drawn when no item can be selected. -/
def select {σ : Type} [Source σ] (p : WeightedPool α) (s : σ) :
    Except WeightedPoolError (WeightedItem α) × σ :=
  let total := p.totalWeight
  if total = 0 then (.error .noSelectableItems, s)
  -- Pools are built within the bound, so that this request is never refused.
  else if int32Max < (total - 1 : Nat) then (.error .totalWeightOverflow, s)
  else
    let (draw, s) := Source.integer 0 ((total - 1 : Nat) : Int) s
    -- A draw below zero selects like zero.
    match p.itemAt? draw.toNat with
    | some i => (.ok i, s)
    | none => (.error .noSelectableItems, s)

/-! ### Sums of weights -/

@[simp] theorem weightSum_nil : weightSum ([] : List (WeightedItem α)) = 0 := rfl

@[simp] theorem weightSum_cons (i : WeightedItem α) (items : List (WeightedItem α)) :
    weightSum (i :: items) = i.weight + weightSum items := rfl

@[simp] theorem weightSum_append (items items' : List (WeightedItem α)) :
    weightSum (items ++ items') = weightSum items + weightSum items' := by
  induction items with
  | nil => simp
  | cons i rest ih => simp [ih, Nat.add_assoc]

@[simp] theorem items_rebuild (items : List (WeightedItem α)) : (rebuild items).items = items := rfl

theorem cumulative_rebuild (items : List (WeightedItem α)) :
    (rebuild items).cumulative = (runningWeights 0 items).toArray := rfl

@[simp] theorem length_runningWeights (sofar : Nat) (items : List (WeightedItem α)) :
    (runningWeights sofar items).length = items.length := by
  induction items generalizing sofar with
  | nil => rfl
  | cons i rest ih => simp [runningWeights, ih]

/-- A running total is the sum of the weights up to its item. -/
theorem getElem_runningWeights (sofar : Nat) (items : List (WeightedItem α)) (k : Nat)
    (hk : k < (runningWeights sofar items).length) :
    (runningWeights sofar items)[k] = sofar + weightSum (items.take (k + 1)) := by
  induction items generalizing sofar k with
  | nil => cases hk
  | cons i rest ih =>
    cases k with
    | zero => simp [runningWeights]
    | succ k => simp [runningWeights, ih, Nat.add_assoc]

@[simp] theorem size_cumulative_rebuild (items : List (WeightedItem α)) :
    (rebuild items).cumulative.size = items.length := by
  simp [cumulative_rebuild]

end WeightedPool

end Tabletop
