import Mathlib

/-!
# The binary64 format

A finite floating-point number is a signed integer times a power of two. Of all its forms the
format keeps one: the integer has 53 bits, or the exponent is the least one. Written in this form
the numbers are ordered as their exponents and, at one exponent, as their integers, so that each
has a place in one row of integers; the infinities stand at the ends of the row.

## Main definitions

* `Binary64.view` — a number in its unpacked form
* `Binary64.Normalized`, `Binary64.IsCanonical` — the forms that the format keeps
* `Binary64.repack` — what the format makes of an unpacked number
* `Binary64.place`, `Binary64.rank` — where a number stands in the order

## Main results

* `Binary64.isCanonical_view` — every number is in canonical form
* `Binary64.repack_finite`, `Binary64.IsCanonical.repack_eq` — canonical forms are kept
* `Binary64.lt_iff`, `Binary64.le_iff`, `Binary64.beq_iff` — numbers compare as their ranks
-/

namespace Tabletop.Binary64

open Float.Model Float.Model.UnpackedFloat

/-! ### Canonical forms -/

/-- The unpacked form of a number. -/
def view (x : Float) : UnpackedFloat := x.toModel.unpack

/-- The integers and exponents that the format uses, leaving aside that the exponents end. -/
structure Normalized (m : ℕ) (e : ℤ) : Prop where
  lt : m < 2 ^ 53
  min_le : -1074 ≤ e
  full : 2 ^ 52 ≤ m ∨ e = -1074

/-- The unpacked numbers that the format has. -/
def IsCanonical : UnpackedFloat → Prop
  | .finite _ m e _ => Normalized m e ∧ e ≤ 971
  | _ => True

theorem toNat_one_append (v : BitVec 52) : (1#1 ++ v).toNat = 2 ^ 52 + v.toNat := by
  rw [BitVec.toNat_append, ← Nat.shiftLeft_add_eq_or_of_lt v.isLt]
  rfl

/-- Only canonical forms are unpacked. -/
theorem isCanonical_unpack (b : BitVec Format.binary64.numBits) :
    IsCanonical (unpack .binary64 b) := by
  have hbias : (Format.binary64.exponentBias : ℤ) = 1023 := rfl
  have hlt : (@unpackMantissa .binary64 b).toNat < 2 ^ 52 := BitVec.isLt _
  have hexp : (@unpackExponent .binary64 b).toNat < 2 ^ 11 := BitVec.isLt _
  rw [UnpackedFloat.unpack]
  split
  · split <;> trivial
  · rename_i hinf
    split
    · -- With exponent field zero the number is zero or subnormal.
      rename_i hsub
      split
      · trivial
      · rw [hsub]
        exact ⟨⟨by omega, by simp [hbias], .inr (by simp [hbias])⟩, by simp [hbias]⟩
    · rename_i hsub
      have hone := toNat_one_append (@unpackMantissa .binary64 b)
      have hpos : (@unpackExponent .binary64 b).toNat ≠ 0 := fun h =>
        hsub (BitVec.eq_of_toNat_eq h)
      have hmax : (@unpackExponent .binary64 b).toNat ≠ 2047 := fun h =>
        hinf (BitVec.eq_of_toNat_eq h)
      simp only [IsCanonical, hbias]
      refine ⟨⟨?_, ?_, .inl ?_⟩, ?_⟩ <;> omega

/-- Every number is in canonical form. -/
theorem isCanonical_view (x : Float) : IsCanonical (view x) := isCanonical_unpack _

/-- A number is known by its unpacked form. -/
theorem view_inj {x y : Float} : view x = view y ↔ x = y := by
  rw [← Float.toBits_inj, ← UInt64.toBitVec_inj]
  exact unpack_inj_of_valid x.toModel.valid y.toModel.valid

/-! ### Packing -/

/-- What the format makes of an unpacked number. Every operation ends with this. -/
def repack (u : UnpackedFloat) : UnpackedFloat := unpack .binary64 (UnpackedFloat.pack .binary64 u)

theorem view_add (x y : Float) : view (x + y) = repack (add .binary64 (view x) (view y)) := rfl

theorem view_sub (x y : Float) : view (x - y) = repack (sub .binary64 (view x) (view y)) := rfl

theorem view_mul (x y : Float) : view (x * y) = repack (mul .binary64 (view x) (view y)) := rfl

theorem view_div (x y : Float) : view (x / y) = repack (div .binary64 (view x) (view y)) := rfl

theorem view_neg (x : Float) : view (-x) = repack (view x).neg := rfl

theorem view_abs (x : Float) : view x.abs = repack (view x).abs := rfl

@[simp] theorem repack_infinity (s : Sign) : repack (.infinity s) = .infinity s := by
  cases s <;> rfl

@[simp] theorem repack_zero (s : Sign) : repack (.zero s) = .zero s := by
  cases s <;> rfl

theorem log2_add_one_eq_iff {m : ℕ} (h : m < 2 ^ 53) :
    m.log2 + 1 = Format.binary64.mantissaBits ↔ 2 ^ 52 ≤ m := by
  change m.log2 + 1 = 53 ↔ _
  by_cases hm : m = 0
  · simp [hm]
  · have hlow : 52 ≤ m.log2 ↔ 2 ^ 52 ≤ m := Nat.le_log2 hm
    have hhigh : m.log2 < 53 ↔ m < 2 ^ 53 := Nat.log2_lt hm
    omega

/-- With exponent field zero the fraction is the whole integer. -/
theorem unpack_subnormal {m : ℕ} (s : Sign) (hm : 0 < m) (hlt : m < 2 ^ 52) :
    unpack .binary64 (packComponents .binary64 s 0#11 (BitVec.ofNat 52 m)) =
      .finite s m (-1074) hm := by
  have hfraction : (BitVec.ofNat 52 m).toNat = m := by
    rw [BitVec.toNat_ofNat, Nat.mod_eq_of_lt hlt]
  have hne : BitVec.ofNat 52 m ≠ 0#52 := fun h => by
    have := congrArg BitVec.toNat h
    rw [hfraction] at this
    exact hm.ne' this
  rw [UnpackedFloat.unpack]
  simp only [unpackMantissa_packComponents, unpackExponent_packComponents,
    unpackSign_packComponents, Sign.ofBitVec_toBitVec]
  rw [if_neg (by decide), if_pos trivial, dif_neg hne]
  congr 1

/-- With any other exponent field a leading bit belongs to the integer. -/
theorem unpack_normal {m : ℕ} {e : ℤ} (s : Sign) (hm : 0 < m) (h : Normalized m e)
    (hfull : 2 ^ 52 ≤ m) (he : e ≤ 971) :
    unpack .binary64
        (packComponents .binary64 s (BitVec.ofNat 11 (e + 1075).toNat) (BitVec.ofNat 52 m)) =
      .finite s m e hm := by
  have hmin := h.min_le
  have hexponent : (BitVec.ofNat 11 (e + 1075).toNat).toNat = (e + 1075).toNat := by
    rw [BitVec.toNat_ofNat, Nat.mod_eq_of_lt (by omega)]
  have hinteger : (1#1 ++ BitVec.ofNat 52 m).toNat = m := by
    rw [toNat_one_append, BitVec.toNat_ofNat]
    have := h.lt
    omega
  have hinf : BitVec.ofNat 11 (e + 1075).toNat ≠ -1#11 := fun h => by
    have := hexponent.symm.trans (congrArg BitVec.toNat h)
    change _ = 2047 at this
    omega
  have hsub : BitVec.ofNat 11 (e + 1075).toNat ≠ 0#11 := fun h => by
    have := hexponent.symm.trans (congrArg BitVec.toNat h)
    change _ = 0 at this
    omega
  rw [UnpackedFloat.unpack]
  simp only [unpackMantissa_packComponents, unpackExponent_packComponents,
    unpackSign_packComponents, Sign.ofBitVec_toBitVec]
  rw [if_neg hinf, if_neg hsub]
  congr 1
  rw [hexponent]
  change ((e + 1075).toNat : ℤ) - ((1023 : ℕ) + (52 : ℕ)) = e
  omega

/-- A finite number is kept, or its exponent is too large and it becomes infinite. -/
theorem repack_finite {m : ℕ} {e : ℤ} (s : Sign) (hm : 0 < m) (h : Normalized m e) :
    repack (.finite s m e hm) = if e ≤ 971 then .finite s m e hm else .infinity s := by
  have hlt := h.lt
  have hmin := h.min_le
  have hfull := h.full
  have hbias : (e + Format.binary64.exponentBias +
      Format.binary64.mantissaBitsWithoutImplicit).toNat = (e + 1075).toNat := by
    change (e + (1023 : ℕ) + (52 : ℕ)).toNat = _
    omega
  rw [repack, UnpackedFloat.pack]
  simp only [hbias]
  by_cases he : e ≤ 971
  · rw [if_pos he, if_neg (by omega)]
    by_cases hm52 : 2 ^ 52 ≤ m
    · rw [if_pos ((log2_add_one_eq_iff hlt).2 hm52)]
      exact unpack_normal s hm h hm52 he
    · obtain rfl : e = -1074 := hfull.resolve_left hm52
      rw [if_neg (mt (log2_add_one_eq_iff hlt).1 hm52)]
      exact unpack_subnormal s hm (by omega)
  · rw [if_neg he, if_pos (by omega)]
    exact repack_infinity s

/-- A canonical form is kept. -/
theorem IsCanonical.repack_eq {u : UnpackedFloat} (h : IsCanonical u) : repack u = u := by
  cases u with
  | notANumber => rfl
  | infinity s => exact repack_infinity s
  | zero s => exact repack_zero s
  | finite s m e hm => rw [repack_finite s hm h.1, if_pos h.2]

theorem unpack_ne_notANumber {b : BitVec Format.binary64.numBits}
    (h : @unpackExponent .binary64 b ≠ -1#11) : unpack .binary64 b ≠ .notANumber := by
  rw [UnpackedFloat.unpack, if_neg h]
  split
  · split <;> simp
  · simp

/-- Packing never loses that something is a number, whatever its form. -/
theorem repack_ne_notANumber {u : UnpackedFloat} (hu : u ≠ .notANumber) :
    repack u ≠ .notANumber := by
  cases u with
  | notANumber => exact absurd rfl hu
  | infinity s => simp
  | zero s => simp
  | finite s m e hm =>
    rw [repack, UnpackedFloat.pack]
    dsimp only
    split
    · exact (repack_infinity s).trans_ne (by simp)
    · rename_i hmax
      change ¬2 ^ 11 ≤ _ at hmax
      apply unpack_ne_notANumber
      split
      · rw [unpackExponent_packComponents]
        intro h
        have := congrArg BitVec.toNat h
        rw [BitVec.toNat_ofNat, Nat.mod_eq_of_lt (by omega)] at this
        change _ = 2047 at this
        omega
      · rw [unpackExponent_packComponents]
        decide

/-! ### The order of the numbers -/

/-- Where a magnitude stands among those of the format. -/
def place (m : ℕ) (e : ℤ) : ℤ := (e + 1074) * 2 ^ 52 + m

/-- Where a number stands in the order of the format. The zeros are in the middle, and the place of
what is not a number means nothing. -/
def rank : UnpackedFloat → ℤ
  | .notANumber => 0
  | .infinity s => s.apply (2047 * 2 ^ 52)
  | .zero _ => 0
  | .finite s m e _ => s.apply (place m e)

theorem Normalized.place_pos {m : ℕ} {e : ℤ} (h : Normalized m e) (hm : 0 < m) :
    0 < place m e := by
  have := h.min_le
  unfold place
  omega

theorem Normalized.place_lt_iff {m : ℕ} {e : ℤ} (h : Normalized m e) :
    place m e < 2047 * 2 ^ 52 ↔ e ≤ 971 := by
  have := h.lt
  have := h.full
  unfold place
  omega

/-- Magnitudes are ordered as their exponents, and at one exponent as their integers. -/
theorem compare_place {m n : ℕ} {e f : ℤ} (hm : Normalized m e) (hn : Normalized n f) :
    compare (place m e) (place n f) = (compare e f).then (compare m n) := by
  obtain ⟨hm53, hme, hmfull⟩ := hm
  obtain ⟨hn53, hnf, hnfull⟩ := hn
  rcases lt_trichotomy e f with hlt | rfl | hgt
  · rw [compare_lt_iff_lt.2 hlt, Ordering.lt_then, compare_lt_iff_lt]
    unfold place
    omega
  · rw [compare_eq_iff_eq.2 rfl, Ordering.eq_then]
    rcases lt_trichotomy m n with h | rfl | h
    · rw [compare_lt_iff_lt.2 h, compare_lt_iff_lt]
      unfold place
      omega
    · rw [compare_eq_iff_eq.2 rfl, compare_eq_iff_eq.2 rfl]
    · rw [compare_gt_iff_gt.2 h, compare_gt_iff_gt]
      unfold place
      omega
  · rw [compare_gt_iff_gt.2 hgt, Ordering.gt_then, compare_gt_iff_gt]
    unfold place
    omega

theorem compare_neg_neg (a b : ℤ) : compare (-a) (-b) = (compare a b).swap := by
  rw [Int.compare_swap]
  rcases lt_trichotomy a b with h | rfl | h
  · rw [compare_gt_iff_gt.2 (neg_lt_neg h), compare_gt_iff_gt.2 h]
  · rw [compare_eq_iff_eq.2 rfl, compare_eq_iff_eq.2 rfl]
  · rw [compare_lt_iff_lt.2 (neg_lt_neg h), compare_lt_iff_lt.2 h]

/-- A finite number stands between the infinities, and on the side of zero that its sign says. -/
theorem IsCanonical.rank_finite {s : Sign} {m : ℕ} {e : ℤ} {hm : 0 < m}
    (h : IsCanonical (.finite s m e hm)) :
    rank (.infinity .negative) < rank (.finite s m e hm) ∧
    rank (.finite s m e hm) < rank (.infinity .positive) ∧
    rank (.finite .negative m e hm) < 0 ∧ 0 < rank (.finite .positive m e hm) := by
  have hpos := h.1.place_pos hm
  have hmax := h.1.place_lt_iff.2 h.2
  cases s <;> simp only [rank, Sign.apply] <;> omega

/-- Numbers compare as their ranks. -/
theorem compare_eq {u v : UnpackedFloat} (hu : IsCanonical u) (hv : IsCanonical v)
    (hu' : u ≠ .notANumber) (hv' : v ≠ .notANumber) :
    u.compare v = some (compare (rank u) (rank v)) := by
  have lt {a b : ℤ} (h : a < b) : some Ordering.lt = some (compare a b) :=
    congrArg some (compare_lt_iff_lt.2 h).symm
  have gt {a b : ℤ} (h : b < a) : some Ordering.gt = some (compare a b) :=
    congrArg some (compare_gt_iff_gt.2 h).symm
  cases u with
  | notANumber => exact absurd rfl hu'
  | infinity s =>
    cases v with
    | notANumber => exact absurd rfl hv'
    | infinity t => cases s <;> cases t <;> rfl
    | zero t => cases s <;> rfl
    | finite t n f hn =>
      obtain ⟨hmin, hmax, -⟩ := hv.rank_finite
      cases s with
      | negative => exact lt hmin
      | positive => exact gt hmax
  | zero s =>
    cases v with
    | notANumber => exact absurd rfl hv'
    | infinity t => cases t <;> rfl
    | zero t => rfl
    | finite t n f hn =>
      obtain ⟨-, -, hneg, hpos⟩ := hv.rank_finite
      cases t with
      | negative => exact gt hneg
      | positive => exact lt hpos
  | finite s m e hm =>
    obtain ⟨hmin, hmax, hneg, hpos⟩ := hu.rank_finite
    cases v with
    | notANumber => exact absurd rfl hv'
    | infinity t =>
      cases t with
      | negative => cases s <;> exact gt hmin
      | positive => cases s <;> exact lt hmax
    | zero t =>
      cases s with
      | negative => exact lt hneg
      | positive => exact gt hpos
    | finite t n f hn =>
      obtain ⟨-, -, hneg', hpos'⟩ := hv.rank_finite
      -- Different signs decide; of two negative numbers the one of larger magnitude is the smaller.
      cases s <;> cases t
      · change some _ = some (compare (-place m e) (-place n f))
        rw [compare_neg_neg, compare_place hu.1 hv.1]
      · exact lt (hneg.trans hpos')
      · exact gt (hneg'.trans hpos)
      · exact congrArg some (compare_place hu.1 hv.1).symm

variable {x y : Float}

/-- Only numbers compare. -/
theorem ne_notANumber_of_compare {u v : UnpackedFloat} {o : Ordering} (h : u.compare v = some o) :
    u ≠ .notANumber ∧ v ≠ .notANumber := by
  constructor
  · rintro rfl
    cases v <;> cases h
  · rintro rfl
    cases u <;> cases h

theorem ne_notANumber_of_lt (h : x < y) : view x ≠ .notANumber ∧ view y ≠ .notANumber := by
  have hlt : (view x).lt (view y) = true := decide_eq_true_iff.1 h
  rw [UnpackedFloat.lt, beq_iff_eq] at hlt
  exact ne_notANumber_of_compare hlt

theorem ne_notANumber_of_le (h : x ≤ y) : view x ≠ .notANumber ∧ view y ≠ .notANumber := by
  have hle : (view x).le (view y) = true := decide_eq_true_iff.1 h
  rw [UnpackedFloat.le, Option.any_eq_true] at hle
  obtain ⟨o, hcompare, -⟩ := hle
  exact ne_notANumber_of_compare hcompare

/-- Nothing is below what is not a number. -/
theorem not_lt_notANumber (hy : view y = .notANumber) : ¬x < y := fun h =>
  (ne_notANumber_of_lt h).2 hy

theorem lt_iff (hx : view x ≠ .notANumber) (hy : view y ≠ .notANumber) :
    x < y ↔ rank (view x) < rank (view y) := by
  have h : x < y ↔ (view x).lt (view y) = true := decide_eq_true_iff
  rw [h, UnpackedFloat.lt, compare_eq (isCanonical_view x) (isCanonical_view y) hx hy, beq_iff_eq,
    Option.some_inj, compare_lt_iff_lt]

theorem le_iff (hx : view x ≠ .notANumber) (hy : view y ≠ .notANumber) :
    x ≤ y ↔ rank (view x) ≤ rank (view y) := by
  have h : x ≤ y ↔ (view x).le (view y) = true := decide_eq_true_iff
  rw [h, UnpackedFloat.le, compare_eq (isCanonical_view x) (isCanonical_view y) hx hy,
    Option.any_some, Ordering.isLE_iff_ne_gt, compare_gt_iff_gt, not_lt]

theorem lt_of_le {z : Float} (hxy : x ≤ y) (hyz : y < z) : x < z := by
  obtain ⟨hx, hy⟩ := ne_notANumber_of_le hxy
  obtain ⟨-, hz⟩ := ne_notANumber_of_lt hyz
  rw [le_iff hx hy] at hxy
  rw [lt_iff hy hz] at hyz
  exact (lt_iff hx hz).2 (hxy.trans_lt hyz)

theorem beq_iff (hx : view x ≠ .notANumber) (hy : view y ≠ .notANumber) :
    (x == y) = true ↔ rank (view x) = rank (view y) := by
  have h : (x == y) = (view x).beq (view y) := rfl
  rw [h, UnpackedFloat.beq, compare_eq (isCanonical_view x) (isCanonical_view y) hx hy, beq_iff_eq,
    Option.some_inj, compare_eq_iff_eq]

end Tabletop.Binary64
