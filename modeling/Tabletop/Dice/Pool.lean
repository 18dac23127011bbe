import Tabletop.Bounds
import Tabletop.Dice.Die
import Tabletop.Dice.NotationError
import Tabletop.Text.Numeral

/-!
# Dice pools

A pool is a number of equal dice with a flat modifier. The dice of an exploding pool are rolled
again when they show their highest face, each of them a limited number of times.

The printed form of a pool is its notation: the count, the die, the modifier unless it is zero, and
for an exploding pool an exclamation mark, followed by the cap unless it is the default.
-/

namespace Tabletop

open Text

/-- The explosion cap of a notation that names none. -/
def defaultCap : UInt32 := 10

structure Pool where
  count : UInt32
  die : Die
  modifier : Int32
  /-- How often each die may be rolled again; `none` when the dice do not explode. -/
  explosions : Option UInt32
  count_pos : 0 < count.toNat
  deriving DecidableEq, Repr

namespace Pool

/-- A pool whose dice do not explode. -/
def plain (count : UInt32) (die : Die) (modifier : Int32) : Except NotationError Pool :=
  if h : 0 < count.toNat then .ok ⟨count, die, modifier, none, h⟩ else .error .zeroCount

/-- A pool whose dice explode at most `cap` times each. -/
def exploding (count : UInt32) (die : Die) (modifier : Int32) (cap : UInt32) :
    Except NotationError Pool :=
  if h : 0 < count.toNat then .ok ⟨count, die, modifier, some cap, h⟩ else .error .zeroCount

def faces (p : Pool) : Nat := p.die.faces

def isExploding (p : Pool) : Bool := p.explosions.isSome

/-- The explosion cap; a pool that does not explode carries the default. -/
def cap (p : Pool) : UInt32 := p.explosions.getD defaultCap

/-- How many extra rolls one die of the pool can cause. -/
def explosionLimit (p : Pool) : Nat :=
  match p.explosions with
  | some cap => cap.toNat
  | none => 0

/-- The lowest total: every die shows one. -/
def minimum (p : Pool) : Int := p.count.toNat + p.modifier.toInt

/-- The highest total without explosions. -/
def maximum (p : Pool) : Int := p.count.toNat * p.faces + p.modifier.toInt

/-- The mean total without explosions. -/
def average (p : Pool) : Float :=
  p.count.toFloat * (UInt32.ofNat (p.faces + 1)).toFloat / 2.0 + Float.ofInt p.modifier.toInt

def withModifier (p : Pool) (modifier : Int32) : Pool := { p with modifier }

/-! ### Printed form -/

/-- The modifier as notation writes it: nothing for zero, else a signed number. -/
def modifierChars (modifier : Int) : List Char :=
  if 0 < modifier then '+' :: writeInt modifier
  else if modifier < 0 then writeInt modifier
  else []

/-- The mark of an exploding pool, with the cap unless it is the default. -/
def explosionChars : Option UInt32 → List Char
  | none => []
  | some cap => '!' :: if cap = defaultCap then [] else writeNat cap.toNat

def toChars (p : Pool) : List Char :=
  writeNat p.count.toNat ++ p.die.text ++ modifierChars p.modifier.toInt ++
    explosionChars p.explosions

protected def toString (p : Pool) : String := String.ofList p.toChars

instance : ToString Pool := ⟨Pool.toString⟩

/-! ### Basic facts -/

theorem minimum_le_maximum (p : Pool) : p.minimum ≤ p.maximum := by
  have hf : (1 : Int) ≤ p.faces := by exact_mod_cast p.die.faces_pos
  have h : (p.count.toNat : Int) * 1 ≤ p.count.toNat * p.faces :=
    Int.mul_le_mul_of_nonneg_left hf (Int.natCast_nonneg _)
  unfold minimum maximum
  omega

theorem plain_eq_ok_iff {count : UInt32} {die : Die} {modifier : Int32} {p : Pool} :
    plain count die modifier = .ok p ↔
      p.count = count ∧ p.die = die ∧ p.modifier = modifier ∧ p.explosions = none := by
  unfold plain
  constructor
  · intro h
    split at h
    · cases h
      exact ⟨rfl, rfl, rfl, rfl⟩
    · cases h
  · obtain ⟨count', die', modifier', explosions', hpos⟩ := p
    rintro ⟨rfl, rfl, rfl, rfl⟩
    exact dif_pos hpos

theorem exploding_eq_ok_iff {count cap : UInt32} {die : Die} {modifier : Int32} {p : Pool} :
    exploding count die modifier cap = .ok p ↔
      p.count = count ∧ p.die = die ∧ p.modifier = modifier ∧ p.explosions = some cap := by
  unfold exploding
  constructor
  · intro h
    split at h
    · cases h
      exact ⟨rfl, rfl, rfl, rfl⟩
    · cases h
  · obtain ⟨count', die', modifier', explosions', hpos⟩ := p
    rintro ⟨rfl, rfl, rfl, rfl⟩
    exact dif_pos hpos

end Pool

end Tabletop
