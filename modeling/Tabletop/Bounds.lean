/-!
# Bounds of stored numbers

Numbers are exact wherever they cannot outgrow the words they are kept in. Where a number is read,
saved, saturates or starts over, its range is that of a word of 32 or 64 bits; this module names the
ends of those ranges.
-/

namespace Tabletop

/-! The ends of the unsigned ranges, and of the signed ones. -/

def uint32Max : Nat := 4294967295

def uint64Max : Nat := 18446744073709551615

def int32Min : Int := -2147483648

def int32Max : Int := 2147483647

def int64Min : Int := -9223372036854775808

def int64Max : Int := 9223372036854775807

/-- One more, on a counter of 32 bits. Behind the largest number it starts over. -/
def nextCount (n : Nat) : Nat := (n + 1) % 4294967296

theorem nextCount_of_lt {n : Nat} (h : n < uint32Max) : nextCount n = n + 1 :=
  Nat.mod_eq_of_lt (Nat.succ_lt_succ h)

/-- The nearest signed number of 32 bits. -/
def clampInt32 (i : Int) : Int :=
  if i < int32Min then int32Min else if int32Max < i then int32Max else i

theorem clampInt32_of_mem {i : Int} (hlo : int32Min ≤ i) (hhi : i ≤ int32Max) :
    clampInt32 i = i := by
  unfold clampInt32
  omega

theorem int32Min_le_clampInt32 (i : Int) : int32Min ≤ clampInt32 i := by
  unfold clampInt32 int32Min int32Max
  omega

theorem clampInt32_le_int32Max (i : Int) : clampInt32 i ≤ int32Max := by
  unfold clampInt32 int32Min int32Max
  omega

/-- Clamping keeps the order. -/
theorem clampInt32_mono {i j : Int} (h : i ≤ j) : clampInt32 i ≤ clampInt32 j := by
  unfold clampInt32 int32Min int32Max
  omega

/-! ### Machine words by their value -/

theorem ofNat_eq_iff {n : Nat} (h : n ≤ uint32Max) {word : UInt32} :
    UInt32.ofNat n = word ↔ word.toNat = n := by
  have hsize : n < UInt32.size := Nat.lt_succ_of_le h
  rw [← UInt32.toNat_inj, UInt32.toNat_ofNat_of_lt' hsize, eq_comm]

theorem ofInt_eq_iff {i : Int} (hlo : int32Min ≤ i) (hhi : i ≤ int32Max) {word : Int32} :
    Int32.ofInt i = word ↔ word.toInt = i := by
  have hvalue : (Int32.ofInt i).toInt = i :=
    Int32.toInt_ofInt_of_le hlo (Int.lt_add_one_of_le hhi)
  rw [← Int32.toInt_inj, hvalue, eq_comm]

end Tabletop
