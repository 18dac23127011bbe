import Tabletop.Decimal.Fixed

/-!
# Shortest decimal texts

The text of a floating-point number with the fewest significant digits that read back as the same
number, and of those the digits nearest to its exact value. The text is positional whatever the
size of the number, and a whole number has no decimal point.

For one, two, … digits the two neighbours of the exact value on that decimal grid are tested
against the interval of reals that round to the number; seventeen digits always suffice.
-/

namespace Tabletop.Decimal

open Text

/-- The reals that round to one floating-point number, in quarters of its last binary place. The
ends belong to the interval when the mantissa is even. -/
structure RoundingInterval where
  low : Magnitude
  high : Magnitude
  closed : Bool

/-- The interval of a finite number. The gap below a power of two is half the gap above it. -/
def roundingInterval (x : Float) : RoundingInterval :=
  let m := mantissa x
  let e := exponent x - 2
  let below := if fractionBits x = 0 ∧ 1 < exponentBits x then 1 else 2
  { low := Magnitude.scaled (4 * m - below) e
    high := Magnitude.scaled (4 * m + 2) e
    closed := m % 2 == 0 }

structure Approximation where
  units : Nat
  power : Int
  deriving DecidableEq, Repr

def Approximation.value (a : Approximation) : Magnitude :=
  if 0 ≤ a.power then ⟨a.units * Nat.pow 10 a.power.toNat, 1, Nat.one_pos⟩
  else ⟨a.units, Nat.pow 10 (-a.power).toNat, Nat.pow_pos (by decide)⟩

def Magnitude.lt (a b : Magnitude) : Bool := a.num * b.den < b.num * a.den

def RoundingInterval.contains (i : RoundingInterval) (a : Magnitude) : Bool :=
  if i.closed then !a.lt i.low && !i.high.lt a else i.low.lt a && a.lt i.high

/-- The number of digits before the decimal point; for a number below one tenth, less than zero by
the number of zeros that follow the point. -/
def Magnitude.digits (a : Magnitude) : Int :=
  ((writeNat (a.num * Nat.pow 10 400 / a.den)).length : Int) - 400

/-- The approximation with the given last place that lies just below the value or on it. -/
def floorAt (a : Magnitude) (power : Int) : Approximation :=
  let units :=
    if 0 ≤ power then a.num / (a.den * Nat.pow 10 power.toNat)
    else a.num * Nat.pow 10 (-power).toNat / a.den
  ⟨units, power⟩

/-- Whether the value lies at least half-way from the approximation to the next one on its grid. -/
def Magnitude.isUpperHalf (a : Magnitude) (below : Approximation) : Bool :=
  let middle : Approximation := ⟨10 * below.units + 5, below.power - 1⟩
  !a.lt middle.value

/-- Of the value's two neighbours with `count` digits, those that read back, the nearer first. -/
def nearest? (interval : RoundingInterval) (a : Magnitude) (count : Nat) :
    Option Approximation :=
  let below := floorAt a (a.digits - count)
  let above : Approximation := ⟨below.units + 1, below.power⟩
  -- Half-way between the two, the upper one is preferred.
  let candidates := if a.isUpperHalf below then [above, below] else [below, above]
  candidates.find? fun c => interval.contains c.value

/-- Removes the zeros at the end of the digits. -/
def Approximation.normalize (a : Approximation) : Approximation :=
  let digits := (writeNat a.units).reverse
  let zeros := (digits.takeWhile (· == '0')).length
  ⟨a.units / Nat.pow 10 zeros, a.power + zeros⟩

def Approximation.text (a : Approximation) : List Char :=
  if 0 ≤ a.power then writeNat (a.units * Nat.pow 10 a.power.toNat)
  else positional a.units (-a.power).toNat

def shortestMagnitude (x : Float) : List Char :=
  let a := magnitude x
  let interval := roundingInterval x
  match (List.range 17).findSome? fun k => nearest? interval a (k + 1) with
  | some best => best.normalize.text
  | none => ['0']

def shortest (x : Float) : String :=
  String.ofList <|
    if !x.isFinite then nonFinite x
    else if mantissa x = 0 then signed (isNegative x) ['0']
    else signed (isNegative x) (shortestMagnitude x)

end Tabletop.Decimal
