/-!
# Exact values of floating-point numbers

A finite number of the binary64 format is an integer times a power of two. Its decimal texts are
computed from that exact value, never from floating-point arithmetic.
-/

namespace Tabletop.Decimal

/-- The quotient `num / den`. -/
structure Magnitude where
  num : Nat
  den : Nat
  den_pos : 0 < den
  deriving DecidableEq, Repr

/-- `m * 2 ^ e` as a quotient. -/
def Magnitude.scaled (m : Nat) (e : Int) : Magnitude :=
  if 0 ≤ e then ⟨m * Nat.pow 2 e.toNat, 1, Nat.one_pos⟩
  else ⟨m, Nat.pow 2 (-e).toNat, Nat.two_pow_pos _⟩

def fractionBits (x : Float) : Nat := x.toBits.toNat % Nat.pow 2 52

def exponentBits (x : Float) : Nat := x.toBits.toNat / Nat.pow 2 52 % Nat.pow 2 11

def isNegative (x : Float) : Bool := Nat.pow 2 63 ≤ x.toBits.toNat

/-- The integer part of the exact value: a finite number's magnitude is
`mantissa x * 2 ^ exponent x`. -/
def mantissa (x : Float) : Nat :=
  if exponentBits x = 0 then fractionBits x else Nat.pow 2 52 + fractionBits x

def exponent (x : Float) : Int :=
  if exponentBits x = 0 then -1074 else exponentBits x - 1075

def magnitude (x : Float) : Magnitude := Magnitude.scaled (mantissa x) (exponent x)

/-- The integer nearest to `num / den`; a tie goes to the even neighbour. -/
def roundHalfEven (num den : Nat) : Nat :=
  let q := num / den
  let r := num % den
  if 2 * r < den then q
  else if den < 2 * r then q + 1
  else if q % 2 = 0 then q else q + 1

end Tabletop.Decimal
