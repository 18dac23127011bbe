import Tabletop.Text.Numeral

/-!
# Identifiers

Records, histories and extended checks carry identifiers of 128 bits, which are written as
thirty-two hexadecimal digits in groups of eight, four, four, four and twelve. On reading, the
groups may also be run together, put between braces, or follow the words `urn:uuid:`; the case of
letters does not matter anywhere.

Fresh identifiers come from a supply, which never gives out the same one twice; they carry the
marks of version four.
-/

namespace Tabletop

/-- A number of 128 bits that names a value. -/
structure Identifier where
  value : BitVec 128
  deriving DecidableEq, Repr

namespace Identifier

/-- The hexadecimal digits of a number, with leading zeros up to the given width. -/
def hexDigits (width n : Nat) : List Char :=
  let digits := Nat.toDigits 16 n
  List.replicate (width - digits.length) '0' ++ digits

/-- The sizes of the groups that follow one another in an identifier's text. -/
def groupSizes : List Nat := [8, 4, 4, 4, 12]

/-- Cuts a text into groups of the given sizes, with a hyphen between one and the next. -/
def hyphenate : List Nat → List Char → List Char
  | [], cs => cs
  | [_], cs => cs
  | n :: ns, cs => cs.take n ++ '-' :: hyphenate ns (cs.drop n)

def toChars (id : Identifier) : List Char :=
  hyphenate groupSizes (hexDigits 32 id.value.toNat)

protected def toString (id : Identifier) : String := String.ofList id.toChars

instance : ToString Identifier := ⟨Identifier.toString⟩

def hexDigit? (c : Char) : Option Nat :=
  if c.isDigit then some (c.toNat - '0'.toNat)
  else if 'a' ≤ c ∧ c ≤ 'f' then some (c.toNat - 'a'.toNat + 10)
  else if 'A' ≤ c ∧ c ≤ 'F' then some (c.toNat - 'A'.toNat + 10)
  else none

def hexValue? (cs : List Char) : Option Nat :=
  cs.foldlM (fun sofar c => (hexDigit? c).map (16 * sofar + ·)) 0

/-- Removes the hyphens from groups of the given sizes. -/
def unhyphenate? : List Nat → List Char → Option (List Char)
  | [], cs => if cs = [] then some [] else none
  | [n], cs => if cs.length = n then some cs else none
  | n :: ns, cs =>
    match cs.drop n with
    | '-' :: rest => (unhyphenate? ns rest).map (cs.take n ++ ·)
    | _ => none

/-- The words that may come before an identifier, in lower case. -/
def nameWords : List Char := "urn:uuid:".toList

/-- The thirty-two digits in one of the written forms. -/
def digits? (cs : List Char) : Option (List Char) :=
  match cs.length with
  | 32 => some cs
  | 36 => unhyphenate? groupSizes cs
  | 38 =>
    if cs.head? = some '\x7b' ∧ cs.getLast? = some '\x7d' then
      unhyphenate? groupSizes (cs.drop 1).dropLast
    else none
  | 45 =>
    if (cs.take 9).map Char.toLower = nameWords then unhyphenate? groupSizes (cs.drop 9) else none
  | _ => none

/-- The identifier that a text names. -/
def ofChars? (cs : List Char) : Option Identifier := do
  let digits ← digits? cs
  let n ← hexValue? digits
  return ⟨BitVec.ofNat 128 n⟩

/-! ### Fresh identifiers -/

/-- How many identifiers have been given out. -/
structure Supply where
  issued : Nat := 0
  deriving DecidableEq, Repr

/-- The identifier with the marks of version four and the given number in its last group. -/
def ofSerial (n : Nat) : Identifier :=
  ⟨BitVec.ofNat 128 (0x40008000000000000000 + n % Nat.pow 2 62)⟩

/-- A new identifier and the supply that is left. -/
def Supply.fresh (s : Supply) : Identifier × Supply := (ofSerial s.issued, ⟨s.issued + 1⟩)

end Identifier

end Tabletop
