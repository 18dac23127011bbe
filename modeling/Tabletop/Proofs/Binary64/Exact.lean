import Tabletop.Proofs.Binary64.Sum

/-!
# Exact results

Every operation of the format gives the exact result whenever the format has it. A finite number is
read as the rational number that it stands for; the rational numbers that can be read so are those
whose magnitude is an integer of 53 bits times a power of two within the range of exponents.
Rounding only ever drops low bits, and a result of the format has no bits to drop.

An operation may have its result in another form than the one that the format keeps: a product with
an integer that is too long, a sum at too small an exponent. Both stand for the same rational number
as the form that is kept, which therefore determines where the bits lie, and rounding moves the
integer just there.

## Main definitions

* `Binary64.value?` — the rational number that an unpacked number stands for
* `Binary64.IsNumber` — the rational numbers of the format
* `Binary64.HasValue` — a number stands for a rational number

## Main results

* `Binary64.roundWithAccuracy_exact`, `Binary64.round_exact` — rounding keeps the numbers of the
  format
* `Binary64.HasValue.add`, `Binary64.HasValue.mul`, `Binary64.HasValue.div`, `Binary64.HasValue.neg`
  — operations are exact when their result is a number of the format
* `Binary64.hasValue_ofInt`, `Binary64.hasValue_toFloat` — integers are numbers of the format
-/

namespace Tabletop.Binary64

open Float.Model Float.Model.UnpackedFloat

variable {m n : ℕ} {e f : ℤ} {s t : Sign} {p q : ℚ} {u v : UnpackedFloat}

/-! ### Forms of one magnitude -/

theorem cast_mul_two_pow (m k : ℕ) (e : ℤ) :
    ((m * 2 ^ k : ℕ) : ℚ) * 2 ^ e = m * 2 ^ (k + e) := by
  rw [Nat.cast_mul, Nat.cast_pow, Nat.cast_ofNat, mul_assoc, ← zpow_natCast,
    ← zpow_add₀ two_ne_zero]

theorem eq_mul_two_pow (hef : e ≤ f) (h : (m : ℚ) * 2 ^ e = n * 2 ^ f) :
    m = n * 2 ^ (f - e).toNat := by
  obtain ⟨k, rfl⟩ := Int.le.dest hef
  rw [add_comm, ← cast_mul_two_pow] at h
  rw [add_sub_cancel_left, Int.toNat_natCast]
  exact Nat.cast_injective (mul_right_cancel₀ (zpow_ne_zero e two_ne_zero) h)

theorem log2_mul_two_pow (hn : 0 < n) (k : ℕ) : (n * 2 ^ k).log2 = n.log2 + k := by
  rw [Nat.log2_eq_iff (Nat.mul_pos hn (Nat.two_pow_pos k)).ne', Nat.pow_add,
    show n.log2 + k + 1 = n.log2 + 1 + k by omega, Nat.pow_add]
  exact ⟨Nat.mul_le_mul_right _ (Nat.log2_self_le hn.ne'),
    Nat.mul_lt_mul_of_pos_right Nat.lt_log2_self (Nat.two_pow_pos k)⟩

/-- All forms of one magnitude have their leading bit in the same place. -/
theorem log2_add_eq (hm : 0 < m) (hn : 0 < n) (h : (m : ℚ) * 2 ^ e = n * 2 ^ f) :
    m.log2 + e = n.log2 + f := by
  rcases le_total e f with hef | hef
  · rw [eq_mul_two_pow hef h, log2_mul_two_pow hn]
    omega
  · rw [eq_mul_two_pow hef h.symm, log2_mul_two_pow hm]
    omega

theorem Normalized.log2_le (h : Normalized n f) (hn : 0 < n) : n.log2 ≤ 52 :=
  Nat.lt_succ_iff.mp ((Nat.log2_lt hn.ne').mpr h.lt)

/-- The form that the format keeps has the exponent that the place of the leading bit asks for. -/
theorem Normalized.targetExponent_eq (h : Normalized n f) (hn : 0 < n) (hm : 0 < m)
    (heq : (m : ℚ) * 2 ^ e = n * 2 ^ f) :
    Format.binary64.targetExponent (totalExponent m e) = f := by
  have hmin := h.min_le
  have hle := h.log2_le hn
  have hfull : 52 ≤ n.log2 ∨ f = -1074 := h.full.imp_left (Nat.le_log2 hn.ne').mpr
  rw [Binary64.targetExponent_eq, log2_add_eq hm hn heq]
  omega

/-! ### Rounding -/

/-- A shift that drops only zeros leaves nothing to round. -/
theorem shiftRight_mul_two_pow (n k : ℕ) :
    (⟨n * 2 ^ k, false, false⟩ : ExtendedMantissa) >>> k = ⟨n, false, false⟩ := by
  induction k generalizing n with
  | zero => simp [HShiftRight.hShiftRight, Nat.repeat]
  | succ k ih =>
    have hbit : (⟨n * 2, false, false⟩ : ExtendedMantissa).shiftRightOne = ⟨n, false, false⟩ := by
      simp [ExtendedMantissa.shiftRightOne]
    rw [Nat.pow_succ', ← Nat.mul_assoc]
    exact (congrArg ExtendedMantissa.shiftRightOne (ih (n * 2))).trans hbit

/-- A form with too small an exponent is shifted to the one that the format keeps. -/
theorem roundWithAccuracy_exact (hn : 0 < n) (h : Normalized n f) (hef : e ≤ f)
    (heq : (m : ℚ) * 2 ^ e = n * 2 ^ f) :
    roundWithAccuracy .binary64 s m e .exact = .finite s n f hn := by
  have hshift := eq_mul_two_pow hef heq
  have hm : 0 < m := hshift ▸ Nat.mul_pos hn (Nat.two_pow_pos _)
  have hfirst : shiftToTargetExponent .binary64 m e .exact = (⟨n, false, false⟩, f) := by
    simp only [shiftToTargetExponent, shiftToExponent, h.targetExponent_eq hn hm heq,
      ExtendedMantissa.ofMantissaAndAccuracy]
    rw [hshift, shiftRight_mul_two_pow]
    congr 1
    omega
  have hrounded : (⟨n, false, false⟩ : ExtendedMantissa).roundedMantissa = n := rfl
  simp only [roundWithAccuracy, hfirst, hrounded, shiftToTargetExponent_of_lt h.lt h.min_le]
  exact dif_neg hn.ne'

/-- Rounding gives the form that the format keeps. -/
theorem round_exact (hn : 0 < n) (h : Normalized n f) (hm : 0 < m)
    (heq : (m : ℚ) * 2 ^ e = n * 2 ^ f) :
    UnpackedFloat.round .binary64 s m e = .finite s n f hn := by
  simp only [UnpackedFloat.round, h.targetExponent_eq hn hm heq, decreaseExponent]
  rcases le_total e f with hef | hef
  · have hkeep : (e - f).toNat = 0 := by omega
    rw [hkeep]
    exact roundWithAccuracy_exact hn h (by omega) (by simpa using heq)
  · rw [Nat.shiftLeft_eq, ← eq_mul_two_pow hef heq.symm]
    exact roundWithAccuracy_exact hn h (by omega) (by congr 2; omega)

/-! ### Numbers of the format -/

/-- The rational number that an unpacked number stands for. -/
def value? : UnpackedFloat → Option ℚ
  | .zero _ => some 0
  | .finite s m e _ => some (s.apply m * 2 ^ e)
  | _ => none

/-- The rational numbers of the format. -/
def IsNumber (q : ℚ) : Prop :=
  ∃ (m : ℕ) (e : ℤ), m < 2 ^ 53 ∧ -1074 ≤ e ∧ e ≤ 971 ∧ |q| = m * 2 ^ e

theorem abs_apply (s : Sign) (m : ℕ) (e : ℤ) :
    |((s.apply m : ℤ) : ℚ) * 2 ^ e| = m * 2 ^ e := by
  have hpos : (0 : ℚ) < 2 ^ e := zpow_pos two_pos e
  rw [abs_mul, abs_of_pos hpos]
  cases s <;> simp [Sign.apply]

/-- Every number of the format other than zero has the form that the format keeps. -/
theorem IsNumber.exists_normalized (h : IsNumber q) (hq : q ≠ 0) :
    ∃ (n : ℕ) (f : ℤ), 0 < n ∧ Normalized n f ∧ f ≤ 971 ∧ |q| = n * 2 ^ f := by
  obtain ⟨m, e, hlt, hmin, hmax, hvalue⟩ := h
  have hm : 0 < m := by
    rcases Nat.eq_zero_or_pos m with rfl | hm
    · rw [Nat.cast_zero, zero_mul, abs_eq_zero] at hvalue
      exact absurd hvalue hq
    · exact hm
  have hlog : m.log2 ≤ 52 := Nat.lt_succ_iff.mp ((Nat.log2_lt hm.ne').mpr hlt)
  -- The integer is moved up until it is full, or until the exponent cannot be lowered further.
  obtain ⟨k, hk⟩ : ∃ k, k = min (52 - m.log2) (e + 1074).toNat := ⟨_, rfl⟩
  have hpos : 0 < m * 2 ^ k := Nat.mul_pos hm (Nat.two_pow_pos k)
  have hlogk := log2_mul_two_pow hm k
  refine ⟨m * 2 ^ k, e - k, hpos, ⟨?_, by omega, ?_⟩, by omega, ?_⟩
  · rw [← Nat.log2_lt hpos.ne']
    omega
  · rw [← Nat.le_log2 hpos.ne']
    omega
  · rw [hvalue, cast_mul_two_pow, add_sub_cancel]

/-- The number is in the form that the format keeps, and stands for the rational number. -/
structure StandsFor (u : UnpackedFloat) (q : ℚ) : Prop where
  canonical : IsCanonical u
  value : value? u = some q

theorem standsFor_zero (s : Sign) : StandsFor (.zero s) 0 := ⟨trivial, rfl⟩

/-- The sign of a number is a factor of it. -/
theorem cast_apply (s : Sign) (m : ℕ) : ((s.apply m : ℤ) : ℚ) = (s.apply 1 : ℤ) * m := by
  cases s <;> simp [Sign.apply]

theorem standsFor_finite (hn : 0 < n) (h : Normalized n f) (hf : f ≤ 971)
    (heq : (m : ℚ) * 2 ^ e = n * 2 ^ f) :
    StandsFor (.finite s n f hn) (s.apply m * 2 ^ e) where
  canonical := ⟨h, hf⟩
  value := by
    rw [value?, cast_apply s m, cast_apply s n, mul_assoc, mul_assoc, heq]

theorem apply_mul_ne_zero (s : Sign) (hm : 0 < m) (e : ℤ) : ((s.apply m : ℤ) : ℚ) * 2 ^ e ≠ 0 := by
  rw [← abs_pos, abs_apply]
  exact mul_pos (Nat.cast_pos.mpr hm) (zpow_pos two_pos e)

/-- The form in which the format has the magnitude of a number. -/
theorem IsNumber.exists_normalized_eq (h : IsNumber (s.apply m * 2 ^ e)) (hm : 0 < m) :
    ∃ (n : ℕ) (f : ℤ), 0 < n ∧ Normalized n f ∧ f ≤ 971 ∧ (m : ℚ) * 2 ^ e = n * 2 ^ f := by
  have hform := h.exists_normalized (apply_mul_ne_zero s hm e)
  rwa [abs_apply] at hform

theorem standsFor_round (h : IsNumber (s.apply m * 2 ^ e)) (hm : 0 < m) :
    StandsFor (UnpackedFloat.round .binary64 s m e) (s.apply m * 2 ^ e) := by
  obtain ⟨n, f, hn, hnormal, hf, heq⟩ := h.exists_normalized_eq hm
  rw [round_exact hn hnormal hm heq]
  exact standsFor_finite hn hnormal hf heq

theorem normalize_apply (s t : Sign) (hm : 0 < m) (e : ℤ) :
    UnpackedFloat.normalize .binary64 (s.apply m) e t = UnpackedFloat.round .binary64 s m e := by
  cases s with
  | negative =>
    have hneg : -(m : ℤ) < 0 := by omega
    rw [UnpackedFloat.normalize, Sign.apply, compare_lt_iff_lt.2 hneg, neg_neg, Int.toNat_natCast]
  | positive =>
    have hpos : (0 : ℤ) < m := by omega
    rw [UnpackedFloat.normalize, Sign.apply, compare_gt_iff_gt.2 hpos, Int.toNat_natCast]

theorem exists_apply_eq (i : ℤ) : ∃ s : Sign, s.apply i.natAbs = i := by
  rcases le_total 0 i with hi | hi
  · exact ⟨.positive, Int.natAbs_of_nonneg hi⟩
  · exact ⟨.negative, by rw [Sign.apply, Int.ofNat_natAbs_of_nonpos hi, neg_neg]⟩

theorem standsFor_normalize {i : ℤ} (h : IsNumber (i * 2 ^ e)) (t : Sign) :
    StandsFor (UnpackedFloat.normalize .binary64 i e t) (i * 2 ^ e) := by
  rcases eq_or_ne i 0 with rfl | hi
  · rw [Int.cast_zero, zero_mul]
    exact standsFor_zero t
  · obtain ⟨s, hs⟩ := exists_apply_eq i
    have hm : 0 < i.natAbs := Int.natAbs_pos.mpr hi
    rw [← hs] at h ⊢
    rw [normalize_apply s t hm]
    exact standsFor_round h hm

/-! ### Exact operations -/

theorem log2_mul_le (hm : 0 < m) (hn : 0 < n) : (m * n).log2 ≤ m.log2 + n.log2 + 1 := by
  rw [← Nat.lt_succ_iff, Nat.log2_lt (Nat.mul_pos hm hn).ne']
  calc m * n < 2 ^ (m.log2 + 1) * 2 ^ (n.log2 + 1) :=
        Nat.mul_lt_mul'' Nat.lt_log2_self Nat.lt_log2_self
    _ = 2 ^ (m.log2 + n.log2 + 1 + 1) := by rw [← Nat.pow_add]; congr 1; omega

/-- A form whose integer is full, or whose exponent is not above the least one, has no larger
exponent than the form that the format keeps. -/
theorem Normalized.exponent_le (h : Normalized n f) (hn : 0 < n) (hm : 0 < m)
    (hfull : 2 ^ 52 ≤ m ∨ e ≤ -1074) (heq : (m : ℚ) * 2 ^ e = n * 2 ^ f) : e ≤ f := by
  have hleading := log2_add_eq hm hn heq
  have hlog := h.log2_le hn
  have hmin := h.min_le
  have hfull : 52 ≤ m.log2 ∨ e ≤ -1074 := hfull.imp_left (Nat.le_log2 hm.ne').mpr
  omega

/-- A product is full when one of its factors is; else both have the least exponent. -/
theorem Normalized.full_or_exponent_le (hme : Normalized m e) (hm : 0 < m) (hnf : Normalized n f)
    (hn : 0 < n) : 2 ^ 52 ≤ m * n ∨ e + f ≤ -1074 := by
  have hleft : m ≤ m * n := Nat.le_mul_of_pos_right m hn
  have hright : n ≤ m * n := Nat.le_mul_of_pos_left n hm
  have hmfull := hme.full
  have hnfull := hnf.full
  omega

/-- A quotient of the format is computed without a remainder. -/
theorem divCore_exact {k : ℕ} {g : ℤ} (hk : 0 < k) (h : Normalized k g) (hm : 0 < m) (hn : 0 < n)
    (heq : (m : ℚ) * 2 ^ e = (k * n : ℕ) * 2 ^ (g + f)) :
    ∃ d : ℕ, divCore .binary64 m e n f = (k * 2 ^ d, g - d, .exact) := by
  -- The dividend is at most as long as the divisor and the quotient together, so that the exponent
  -- that is aimed at leaves no bit of the quotient out.
  have hleading := log2_add_eq hm (Nat.mul_pos hk hn) heq
  have hlength := log2_mul_le hk hn
  have hlog := h.log2_le hk
  have hmin := h.min_le
  have htarget : Format.binary64.targetExponent (totalExponent m e - totalExponent n f) ≤ g := by
    change max ((m.log2 : ℤ) + 1 + e - (n.log2 + 1 + f) - (53 : ℕ)) (-1074) ≤ g
    omega
  obtain ⟨target, ht⟩ : ∃ target, target = min (e - f)
      (Format.binary64.targetExponent (totalExponent m e - totalExponent n f)) := ⟨_, rfl⟩
  obtain ⟨d, hd⟩ := Int.le.dest ((ht.trans_le (min_le_right _ _)).trans htarget)
  obtain ⟨a, ha⟩ := Int.le.dest (ht.trans_le (min_le_left _ _))
  have hshift : m * 2 ^ a = k * 2 ^ d * n := by
    have hforms : ((m * 2 ^ a : ℕ) : ℚ) * 2 ^ (target + f) = (k * n : ℕ) * 2 ^ (g + f) := by
      rw [← heq, cast_mul_two_pow, show a + (target + f) = e by omega]
    rw [eq_mul_two_pow (by omega) hforms, show (g + f - (target + f)).toNat = d by omega]
    ring
  refine ⟨d, ?_⟩
  rw [divCore]
  simp only [← ht, Nat.shiftLeft_eq]
  rw [show (e - f - target).toNat = a by omega, hshift, Nat.mul_div_cancel _ hn, Nat.mul_mod_left,
    show g - d = target by omega]
  rfl

theorem apply_one_mul (s t : Sign) :
    (((s * t).apply 1 : ℤ) : ℚ) = (s.apply 1 : ℤ) * (t.apply 1 : ℤ) := by
  rw [← Int.cast_mul]
  cases s <;> cases t <;> rfl

theorem apply_one_div_mul (s t : Sign) :
    (((s / t).apply 1 : ℤ) : ℚ) * (t.apply 1 : ℤ) = (s.apply 1 : ℤ) := by
  rw [← Int.cast_mul]
  cases s <;> cases t <;> rfl

theorem apply_shiftLeft (s : Sign) (m : ℕ) (h : f ≤ e) :
    ((s.apply (m <<< (e - f).toNat : ℕ) : ℤ) : ℚ) * 2 ^ f = s.apply m * 2 ^ e := by
  obtain ⟨k, rfl⟩ := Int.le.dest h
  rw [add_sub_cancel_left, Int.toNat_natCast, Nat.shiftLeft_eq, cast_apply s, cast_apply s m,
    mul_assoc, cast_mul_two_pow, add_comm, mul_assoc]

namespace StandsFor

/-- A number of the format is zero or finite. -/
theorem eq_zero_or_finite (h : StandsFor u q) :
    (∃ s, u = .zero s ∧ q = 0) ∨
    ∃ s m e, ∃ hm : 0 < m, u = .finite s m e hm ∧ Normalized m e ∧ q = s.apply m * 2 ^ e := by
  obtain ⟨hcanonical, hvalue⟩ := h
  cases u with
  | notANumber => exact absurd hvalue.symm (Option.some_ne_none q)
  | infinity => exact absurd hvalue.symm (Option.some_ne_none q)
  | zero s => exact .inl ⟨s, rfl, (Option.some_inj.mp hvalue).symm⟩
  | finite s m e hm =>
    exact .inr ⟨s, m, e, hm, rfl, hcanonical.1, (Option.some_inj.mp hvalue).symm⟩

theorem neg (h : StandsFor u q) : StandsFor u.neg (-q) := by
  have hcanonical := h.canonical
  rcases h.eq_zero_or_finite with ⟨s, rfl, rfl⟩ | ⟨s, m, e, hm, rfl, -, rfl⟩
  · rw [neg_zero]
    exact standsFor_zero _
  · refine ⟨hcanonical, congrArg some ?_⟩
    cases s <;> simp [Sign.apply]

theorem add (hu : StandsFor u p) (hv : StandsFor v q) (h : IsNumber (p + q)) :
    StandsFor (UnpackedFloat.add .binary64 u v) (p + q) := by
  rcases hu.eq_zero_or_finite with ⟨s, rfl, rfl⟩ | ⟨s, m, e, hm, rfl, -, rfl⟩ <;>
    rcases hv.eq_zero_or_finite with ⟨t, rfl, rfl⟩ | ⟨t, n, f, hn, rfl, -, rfl⟩
  · obtain ⟨r, hr⟩ := exists_zero_add_zero s t
    rw [hr, add_zero]
    exact standsFor_zero r
  · rw [zero_add]
    exact hv
  · rw [add_zero]
    exact hu
  · -- Both are brought to the smaller exponent, where their integers are added.
    have hsum : ((s.apply (m <<< (e - min e f).toNat : ℕ) +
        t.apply (n <<< (f - min e f).toNat : ℕ) : ℤ) : ℚ) * 2 ^ min e f =
          s.apply m * 2 ^ e + t.apply n * 2 ^ f := by
      rw [Int.cast_add, add_mul, apply_shiftLeft s m (min_le_left e f),
        apply_shiftLeft t n (min_le_right e f)]
    rw [← hsum] at h ⊢
    exact standsFor_normalize h .positive

theorem mul (hu : StandsFor u p) (hv : StandsFor v q) (h : IsNumber (p * q)) :
    StandsFor (UnpackedFloat.mul .binary64 u v) (p * q) := by
  rcases hu.eq_zero_or_finite with ⟨s, rfl, rfl⟩ | ⟨s, m, e, hm, rfl, hme, rfl⟩ <;>
    rcases hv.eq_zero_or_finite with ⟨t, rfl, rfl⟩ | ⟨t, n, f, hn, rfl, hnf, rfl⟩
  · rw [zero_mul]
    exact standsFor_zero _
  · rw [zero_mul]
    exact standsFor_zero _
  · rw [mul_zero]
    exact standsFor_zero _
  · have hproduct : ((s.apply m : ℤ) : ℚ) * 2 ^ e * ((t.apply n : ℤ) * 2 ^ f) =
        ((s * t).apply (m * n : ℕ) : ℤ) * 2 ^ (e + f) := by
      rw [cast_apply s, cast_apply t, cast_apply (s * t), apply_one_mul, zpow_add₀ two_ne_zero,
        Nat.cast_mul]
      ring
    have hpos : 0 < m * n := Nat.mul_pos hm hn
    rw [hproduct] at h ⊢
    obtain ⟨k, g, hk, hkg, hg, heq⟩ := h.exists_normalized_eq hpos
    have hle : e + f ≤ g := hkg.exponent_le hk hpos (hme.full_or_exponent_le hm hnf hn) heq
    rw [UnpackedFloat.mul, roundWithAccuracy_exact hk hkg hle heq]
    exact standsFor_finite hk hkg hg heq

theorem div (hu : StandsFor u p) (hv : StandsFor v q) (hq : q ≠ 0) (h : IsNumber (p / q)) :
    StandsFor (UnpackedFloat.div .binary64 u v) (p / q) := by
  rcases hv.eq_zero_or_finite with ⟨t, rfl, rfl⟩ | ⟨t, n, f, hn, rfl, hnf, rfl⟩
  · exact absurd rfl hq
  rcases hu.eq_zero_or_finite with ⟨s, rfl, rfl⟩ | ⟨s, m, e, hm, rfl, hme, rfl⟩
  · rw [zero_div]
    exact standsFor_zero _
  · have hne : ((s.apply m : ℤ) : ℚ) * 2 ^ e / ((t.apply n : ℤ) * 2 ^ f) ≠ 0 :=
      div_ne_zero (apply_mul_ne_zero s hm e) hq
    obtain ⟨k, g, hk, hkg, hg, habs⟩ := h.exists_normalized hne
    have hbelow : (n : ℚ) * 2 ^ f ≠ 0 :=
      mul_ne_zero (Nat.cast_ne_zero.mpr hn.ne') (zpow_ne_zero f two_ne_zero)
    have heq : (m : ℚ) * 2 ^ e = (k * n : ℕ) * 2 ^ (g + f) := by
      rw [abs_div, abs_apply, abs_apply, div_eq_iff hbelow] at habs
      rw [habs, Nat.cast_mul, zpow_add₀ two_ne_zero]
      ring
    obtain ⟨d, hcore⟩ := divCore_exact hk hkg hm hn heq
    have hkeep : ((k * 2 ^ d : ℕ) : ℚ) * 2 ^ (g - d) = k * 2 ^ g := by
      rw [cast_mul_two_pow, add_sub_cancel]
    rw [UnpackedFloat.div, hcore]
    dsimp only
    rw [roundWithAccuracy_exact hk hkg (by omega) hkeep]
    refine ⟨⟨hkg, hg⟩, congrArg some ?_⟩
    rw [eq_comm, div_eq_iff hq, cast_apply s, cast_apply t, cast_apply (s / t),
      ← apply_one_div_mul s t, mul_assoc, heq, Nat.cast_mul, zpow_add₀ two_ne_zero]
    ring

end StandsFor

/-! ### Floating-point numbers -/

/-- The number stands for the rational number. -/
def HasValue (x : Float) (q : ℚ) : Prop := value? (view x) = some q

variable {x y : Float}

theorem HasValue.standsFor (h : HasValue x q) : StandsFor (view x) q := ⟨isCanonical_view x, h⟩

theorem StandsFor.hasValue (h : StandsFor u q) (hx : view x = repack u) : HasValue x q := by
  rw [HasValue, hx, h.canonical.repack_eq, h.value]

namespace HasValue

theorem neg (hx : HasValue x q) : HasValue (-x) (-q) := hx.standsFor.neg.hasValue (view_neg x)

theorem add (hx : HasValue x p) (hy : HasValue y q) (h : IsNumber (p + q)) :
    HasValue (x + y) (p + q) :=
  (hx.standsFor.add hy.standsFor h).hasValue (view_add x y)

theorem mul (hx : HasValue x p) (hy : HasValue y q) (h : IsNumber (p * q)) :
    HasValue (x * y) (p * q) :=
  (hx.standsFor.mul hy.standsFor h).hasValue (view_mul x y)

theorem div (hx : HasValue x p) (hy : HasValue y q) (hq : q ≠ 0) (h : IsNumber (p / q)) :
    HasValue (x / y) (p / q) :=
  (hx.standsFor.div hy.standsFor hq h).hasValue (view_div x y)

end HasValue

/-! ### Integers and halves -/

theorem isNumber_mul_two_pow {i : ℤ} (hi : i.natAbs < 2 ^ 53) (hmin : -1074 ≤ e) (hmax : e ≤ 971) :
    IsNumber (i * 2 ^ e) := by
  have hpos : (0 : ℚ) < 2 ^ e := zpow_pos two_pos e
  refine ⟨i.natAbs, e, hi, hmin, hmax, ?_⟩
  rw [abs_mul, abs_of_pos hpos, Nat.cast_natAbs, Int.cast_abs]

theorem isNumber_int {i : ℤ} (hi : i.natAbs < 2 ^ 53) : IsNumber i := by
  simpa using isNumber_mul_two_pow (e := 0) hi (by decide) (by decide)

theorem isNumber_half {i : ℤ} (hi : i.natAbs < 2 ^ 53) : IsNumber (i / 2) := by
  simpa [div_eq_mul_inv] using isNumber_mul_two_pow (e := -1) hi (by decide) (by decide)

/-- An integer of 53 bits is converted exactly. -/
theorem hasValue_of_view {n : ℕ} (hn : n < 2 ^ 53)
    (hx : view x = repack (UnpackedFloat.normalize .binary64 n 0 .positive)) : HasValue x n := by
  have hnumber : IsNumber (((n : ℤ) : ℚ) * 2 ^ (0 : ℤ)) :=
    isNumber_mul_two_pow (by rwa [Int.natAbs_natCast]) (by decide) (by decide)
  have hvalue := (standsFor_normalize hnumber .positive).hasValue hx
  simpa using hvalue

theorem hasValue_toFloat (n : UInt32) : HasValue n.toFloat n.toNat :=
  hasValue_of_view (n.toNat_lt.trans (by decide)) rfl

theorem hasValue_mul_toFloat {m n : UInt32} (h : m.toNat * n.toNat < 2 ^ 53) :
    HasValue (m.toFloat * n.toFloat) ((m.toNat * n.toNat : ℕ) : ℤ) := by
  have hvalue : (((m.toNat * n.toNat : ℕ) : ℤ) : ℚ) = m.toNat * n.toNat := by
    rw [Int.cast_natCast, Nat.cast_mul]
  have hnumber : IsNumber ((m.toNat * n.toNat : ℕ) : ℤ) :=
    isNumber_int (by rwa [Int.natAbs_natCast])
  rw [hvalue] at hnumber ⊢
  exact (hasValue_toFloat m).mul (hasValue_toFloat n) hnumber

/-- The bits of the power of ten zero. -/
theorem hasValue_one : HasValue (Float.ofBits 4607182418800017408) 1 := by
  have hview : view (Float.ofBits 4607182418800017408) =
      .finite .positive (2 ^ 52) (-52) (by decide) := rfl
  rw [HasValue, hview, value?, Option.some_inj, Sign.apply]
  norm_num

theorem hasValue_two : HasValue 2.0 2 := by
  have hview : view 2.0 = .finite .positive (2 ^ 52) (-51) (by decide) := rfl
  rw [HasValue, hview, value?, Option.some_inj, Sign.apply]
  norm_num

theorem hasValue_ofNat {n : ℕ} (hn : n < 2 ^ 53) : HasValue (Float.ofNat n) n := by
  -- A natural number is read as a decimal one, and so is multiplied by the power of ten zero.
  have hscientific : Float.ofNat n = n.toUInt64.toFloat * Float.ofBits 4607182418800017408 :=
    dif_pos ⟨hn, by decide⟩
  have hword : n.toUInt64.toNat = n := Nat.mod_eq_of_lt (hn.trans (by decide))
  have hfloat : HasValue n.toUInt64.toFloat n.toUInt64.toNat :=
    hasValue_of_view (hword.trans_lt hn) rfl
  have hnumber : IsNumber ((n : ℚ) * 1) := by
    rw [mul_one]
    exact isNumber_int (i := n) (by rwa [Int.natAbs_natCast])
  rw [hword] at hfloat
  have hproduct := hfloat.mul hasValue_one hnumber
  rwa [mul_one, ← hscientific] at hproduct

theorem hasValue_ofInt {i : ℤ} (hi : i.natAbs < 2 ^ 53) : HasValue (Float.ofInt i) i := by
  cases i with
  | ofNat n => exact hasValue_ofNat hi
  | negSucc n =>
    have hvalue : ((Int.negSucc n : ℤ) : ℚ) = -(n.succ : ℕ) := by simp
    rw [hvalue]
    exact (hasValue_ofNat hi).neg

end Tabletop.Binary64
