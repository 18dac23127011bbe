import Tabletop.Decimal.Binary
import Tabletop.Text.Numeral

/-!
# Decimal texts with a fixed number of places

The exact value of a floating-point number, rounded to a given number of decimal places with ties
to even, always in positional form.
-/

namespace Tabletop.Decimal

open Text

/-- The text of `units / 10 ^ places`: every place is written. -/
def positional (units places : Nat) : List Char :=
  let whole := writeNat (units / Nat.pow 10 places)
  if places = 0 then whole
  else
    let digits := writeNat (units % Nat.pow 10 places)
    whole ++ '.' :: (List.replicate (places - digits.length) '0' ++ digits)

/-- Puts a minus sign before a negative number's text. -/
def signed (negative : Bool) (text : List Char) : List Char :=
  if negative then '-' :: text else text

/-- The text of a number that is not finite. -/
def nonFinite (x : Float) : List Char :=
  if x.isNaN then "NaN".toList else signed (isNegative x) "inf".toList

def fixed (places : Nat) (x : Float) : String :=
  String.ofList <|
    if x.isFinite then
      let m := magnitude x
      signed (isNegative x) (positional (roundHalfEven (m.num * Nat.pow 10 places) m.den) places)
    else nonFinite x

end Tabletop.Decimal
