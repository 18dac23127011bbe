import Tabletop.Proofs.Binary64.Format

/-!
# Sums of amounts

An amount is a number that is not below zero; the infinite one counts. A sum of two amounts is
rounded, and too large a sum becomes infinite. Rounding goes to a neighbour of the exact sum, which
is at least as large as either summand; as both of them are numbers of the format, the rounded sum
never falls below them. So a sum of amounts is an amount, and it is zero only if both are.

## Main definitions

* `Binary64.IsAmount` — numbers that are not below zero

## Main results

* `Binary64.round_positive` — the place of a rounded number is at least that of the exact one
* `Binary64.IsAmount.add` — a sum of amounts is an amount at least as large as both
-/

namespace Tabletop.Binary64

open Float.Model Float.Model.UnpackedFloat

/-! ### Rounding -/

/-- A shift to the right divides. -/
theorem mantissa_shiftRight (em : ExtendedMantissa) (k : ℕ) :
    (em >>> k).mantissa = em.mantissa / 2 ^ k := by
  induction k with
  | zero => simp [HShiftRight.hShiftRight, Nat.repeat]
  | succ k ih =>
    change (em >>> k).mantissa / 2 = _
    rw [ih, Nat.div_div_eq_div_mul, ← Nat.pow_succ]

/-- Rounding keeps an integer or adds one. -/
theorem roundedMantissa_bounds (em : ExtendedMantissa) :
    em.mantissa ≤ em.roundedMantissa ∧ em.roundedMantissa ≤ em.mantissa + 1 := by
  obtain ⟨m, roundBit, stickyBit⟩ := em
  have := Nat.mod_lt m (Nat.zero_lt_two)
  cases roundBit <;> cases stickyBit <;>
    simp only [ExtendedMantissa.roundedMantissa, ExtendedMantissa.accuracy,
      Accuracy.roundToNearestEven] <;> omega

theorem targetExponent_eq (m : ℕ) (e : ℤ) :
    Format.binary64.targetExponent (totalExponent m e) = max (m.log2 + e - 52) (-1074) := by
  change max ((m.log2 : ℤ) + 1 + e - (53 : ℕ)) (-1074) = _
  congr 1
  omega

/-- What fits at an exponent is not shifted. -/
theorem shiftToTargetExponent_of_lt {m : ℕ} {e : ℤ} (hm : m < 2 ^ 53) (he : -1074 ≤ e) :
    shiftToTargetExponent .binary64 m e .exact = (⟨m, false, false⟩, e) := by
  have hlog : m.log2 < 53 := by
    by_cases h : m = 0
    · simp [h]
    · exact (Nat.log2_lt h).2 hm
  have hshift : (Format.binary64.targetExponent (totalExponent m e) - e).toNat = 0 := by
    rw [targetExponent_eq]
    omega
  simp only [shiftToTargetExponent, shiftToExponent, hshift]
  simp [HShiftRight.hShiftRight, Nat.repeat, ExtendedMantissa.ofMantissaAndAccuracy]

/-- An integer that has grown by a bit is halved. -/
theorem shiftToTargetExponent_two_pow {e : ℤ} (he : -1074 ≤ e) :
    shiftToTargetExponent .binary64 (2 ^ 53) e .exact = (⟨2 ^ 52, false, false⟩, e + 1) := by
  have htarget : Format.binary64.targetExponent (totalExponent (2 ^ 53) e) = e + 1 := by
    rw [targetExponent_eq, Nat.log2_two_pow]
    omega
  simp only [shiftToTargetExponent, shiftToExponent, htarget, add_sub_cancel_left]
  rfl

/-- An integer loses the low bits that do not fit. -/
theorem exists_shift {m : ℕ} {e : ℤ} (hm : 0 < m) (he : -1074 ≤ e) :
    ∃ (k : ℕ) (em : ExtendedMantissa),
      shiftToTargetExponent .binary64 m e .exact = (em, e + k) ∧ em.mantissa = m / 2 ^ k ∧
      m < 2 ^ (53 + k) ∧ (k = 0 ∨ 2 ^ (52 + k) ≤ m) := by
  have htarget := targetExponent_eq m e
  obtain ⟨k, hk⟩ : ∃ k, k = (Format.binary64.targetExponent (totalExponent m e) - e).toNat :=
    ⟨_, rfl⟩
  refine ⟨k, ExtendedMantissa.ofMantissaAndAccuracy m .exact >>> k, ?_, mantissa_shiftRight _ k,
    ?_, ?_⟩
  · rw [hk]
    rfl
  · exact Nat.lt_log2_self.trans_le (Nat.pow_le_pow_right Nat.two_pos (by omega))
  · by_cases h : k = 0
    · exact .inl h
    · exact .inr ((Nat.le_log2 hm.ne').1 (by omega))

/-- Rounding may carry an integer over its 53 bits, and then moves to the next exponent. The place
is the same. -/
theorem exists_carry {m : ℕ} {e : ℤ} (hm : 0 < m) (hle : m ≤ 2 ^ 53) (he : -1074 ≤ e)
    (hfull : 2 ^ 52 ≤ m ∨ e = -1074) :
    ∃ (n : ℕ) (f : ℤ), shiftToTargetExponent .binary64 m e .exact = (⟨n, false, false⟩, f) ∧
      0 < n ∧ Normalized n f ∧ place n f = place m e := by
  rcases hle.lt_or_eq with hlt | rfl
  · exact ⟨m, e, shiftToTargetExponent_of_lt hlt he, hm, ⟨hlt, he, hfull⟩, rfl⟩
  · refine ⟨2 ^ 52, e + 1, shiftToTargetExponent_two_pow he, by decide, ⟨by decide, ?_, ?_⟩, ?_⟩
    · omega
    · exact .inl le_rfl
    · unfold place
      push_cast
      omega

/-- The place of a rounded number is at least that of what is left of the exact one. -/
theorem round_positive {m : ℕ} {e : ℤ} (hm : 0 < m) (he : -1074 ≤ e)
    (hfull : 2 ^ 52 ≤ m ∨ e = -1074) :
    ∃ (k n : ℕ) (f : ℤ) (hn : 0 < n),
      UnpackedFloat.round .binary64 .positive m e = .finite .positive n f hn ∧
      Normalized n f ∧ m < 2 ^ (53 + k) ∧ (k = 0 ∨ 2 ^ (52 + k) ≤ m) ∧
      place (m / 2 ^ k) (e + k) ≤ place n f := by
  -- The exponent needs no lowering: the integer is large enough for it.
  have hkeep : decreaseExponent m e (Format.binary64.targetExponent (totalExponent m e)) =
      (m, e) := by
    have hlog : 52 ≤ m.log2 ↔ 2 ^ 52 ≤ m := Nat.le_log2 hm.ne'
    have hshift : (e - Format.binary64.targetExponent (totalExponent m e)).toNat = 0 := by
      rw [targetExponent_eq]
      omega
    simp [decreaseExponent, hshift]
  obtain ⟨k, em, hshift, hmantissa, hlt, hge⟩ := exists_shift hm he
  have hbounds := roundedMantissa_bounds em
  have hquotient : m / 2 ^ k < 2 ^ 53 := by
    rw [Nat.div_lt_iff_lt_mul (Nat.two_pow_pos k), ← Nat.pow_add]
    exact hlt
  have hleft : 0 < m / 2 ^ k ∧ (2 ^ 52 ≤ m / 2 ^ k ∨ e + k = -1074) := by
    rcases hge with rfl | hge
    · simpa using ⟨hm, hfull⟩
    · have : 2 ^ 52 ≤ m / 2 ^ k := by
        rw [Nat.le_div_iff_mul_le (Nat.two_pow_pos k), ← Nat.pow_add]
        exact hge
      exact ⟨by omega, .inl this⟩
  obtain ⟨n, f, hcarry, hn, hnormal, hplace⟩ :=
    exists_carry (m := em.roundedMantissa) (e := e + k) (by omega) (by omega) (by omega) (by omega)
  refine ⟨k, n, f, hn, ?_, hnormal, hlt, hge, ?_⟩
  · rw [UnpackedFloat.round, hkeep]
    simp only [roundWithAccuracy, hshift, hcarry]
    exact dif_neg hn.ne'
  · rw [hplace]
    unfold place
    omega

/-- A number of the format that is at most the exact value stands no higher than what rounding
leaves of it. -/
theorem place_le_place_div {m n d k : ℕ} {e : ℤ} (he : -1074 ≤ e) (hm : Normalized m (e + d))
    (hle : m * 2 ^ d ≤ n) (hlt : n < 2 ^ (53 + k)) (hk : k = 0 ∨ 2 ^ (52 + k) ≤ n) :
    place m (e + d) ≤ place (n / 2 ^ k) (e + k) := by
  have hmlt := hm.lt
  rcases lt_trichotomy d k with hdk | rfl | hdk
  · -- What is left has all its bits at a larger exponent.
    have hge : 2 ^ 52 ≤ n / 2 ^ k := by
      rw [Nat.le_div_iff_mul_le (Nat.two_pow_pos k), ← Nat.pow_add]
      exact hk.resolve_left (by omega)
    unfold place
    omega
  · have hge : m ≤ n / 2 ^ d := (Nat.le_div_iff_mul_le (Nat.two_pow_pos d)).2 hle
    unfold place
    omega
  · -- A larger exponent would need a larger exact value.
    have hmge : 2 ^ 52 ≤ m := hm.full.resolve_right (by omega)
    have : 2 ^ (53 + k) ≤ n := calc
      2 ^ (53 + k) ≤ 2 ^ (52 + d) := Nat.pow_le_pow_right Nat.two_pos (by omega)
      _ = 2 ^ 52 * 2 ^ d := Nat.pow_add 2 52 d
      _ ≤ m * 2 ^ d := Nat.mul_le_mul_right _ hmge
      _ ≤ n := hle
    omega

/-- Rounding gives a number. -/
theorem normalize_ne_notANumber (m e : ℤ) (s : Sign) :
    UnpackedFloat.normalize .binary64 m e s ≠ .notANumber := by
  have round_ne (s : Sign) (m : ℕ) : UnpackedFloat.round .binary64 s m e ≠ .notANumber := by
    unfold UnpackedFloat.round roundWithAccuracy
    dsimp only
    split <;> simp
  unfold UnpackedFloat.normalize
  split
  · exact round_ne _ _
  · simp
  · exact round_ne _ _

/-- A finite number can be taken away from any number. -/
theorem sub_finite_ne_notANumber {u : UnpackedFloat} (hu : u ≠ .notANumber) {s : Sign} {m : ℕ}
    {e : ℤ} (hm : 0 < m) : sub .binary64 u (.finite s m e hm) ≠ .notANumber := by
  cases u with
  | notANumber => exact absurd rfl hu
  | infinity t => simp [UnpackedFloat.sub]
  | zero t => simp [UnpackedFloat.sub]
  | finite t n f hn => exact normalize_ne_notANumber _ _ _

theorem abs_ne_notANumber {u : UnpackedFloat} (hu : u ≠ .notANumber) : u.abs ≠ .notANumber := by
  cases u with
  | notANumber => exact absurd rfl hu
  | infinity | zero | finite => simp [UnpackedFloat.abs]

/-! ### Amounts -/

/-- The numbers of the format that are not below zero. -/
inductive IsAmount : UnpackedFloat → Prop
  | zero (s : Sign) : IsAmount (.zero s)
  | finite {m : ℕ} {e : ℤ} (hm : 0 < m) :
      Normalized m e → e ≤ 971 → IsAmount (.finite .positive m e hm)
  | infinity : IsAmount (.infinity .positive)

namespace IsAmount

variable {u v : UnpackedFloat}

theorem isCanonical (h : IsAmount u) : IsCanonical u := by
  cases h with
  | zero s => trivial
  | finite hm hn he => exact ⟨hn, he⟩
  | infinity => trivial

theorem ne_notANumber (h : IsAmount u) : u ≠ .notANumber := by
  cases h <;> simp

theorem rank_nonneg (h : IsAmount u) : 0 ≤ rank u := by
  cases h with
  | zero s => exact le_rfl
  | finite hm hn _ => exact (hn.place_pos hm).le
  | infinity => decide

theorem rank_le (h : IsAmount u) : rank u ≤ 2047 * 2 ^ 52 := by
  cases h with
  | zero s => simp [rank]
  | finite hm hn he => exact (hn.place_lt_iff.2 he).le
  | infinity => exact le_rfl

/-- Amounts are recognized by their rank. -/
theorem of_rank_nonneg (h : IsCanonical u) (hu : u ≠ .notANumber) (h0 : 0 ≤ rank u) :
    IsAmount u := by
  cases u with
  | notANumber => exact absurd rfl hu
  | zero s => exact .zero s
  | infinity s =>
    cases s with
    | positive => exact .infinity
    | negative => exact absurd h0 (by decide)
  | finite s m e hm =>
    cases s with
    | positive => exact .finite hm h.1 h.2
    | negative => 
      have := h.1.place_pos hm
      simp only [rank, Sign.apply] at h0
      omega

/-- The rank tells the zeros from the other amounts. -/
theorem exists_eq_zero (h : IsAmount u) (h0 : ¬0 < rank u) : ∃ s, u = .zero s := by
  cases h with
  | zero s => exact ⟨s, rfl⟩
  | finite hm hn _ => exact absurd (hn.place_pos hm) h0
  | infinity => exact absurd (by decide) h0

theorem isFinite_or_rank_pos (h : IsAmount u) : u.isFinite = true ∨ 0 < rank u := by
  cases h with
  | zero s => exact .inl rfl
  | finite hm _ _ => exact .inl rfl
  | infinity => exact .inr (by decide)

end IsAmount

/-- Rounding a positive number gives an amount that is no smaller than any number of the format
below the exact value. -/
theorem isAmount_repack_round {m : ℕ} {e : ℤ} (hm : 0 < m) (he : -1074 ≤ e)
    (hfull : 2 ^ 52 ≤ m ∨ e = -1074) :
    IsAmount (repack (UnpackedFloat.round .binary64 .positive m e)) ∧
    ∀ (n d : ℕ), Normalized n (e + d) → e + d ≤ 971 → n * 2 ^ d ≤ m →
      place n (e + d) ≤ rank (repack (UnpackedFloat.round .binary64 .positive m e)) := by
  obtain ⟨k, r, f, hr, hround, hnormal, hlt, hge, hplace⟩ := round_positive hm he hfull
  rw [hround, repack_finite .positive hr hnormal]
  constructor
  · split
    · exact .finite hr hnormal ‹_›
    · exact .infinity
  · intro n d hn hd hle
    have hbelow := (place_le_place_div he hn hle hlt hge).trans hplace
    split
    · exact hbelow
    · exact (hn.place_lt_iff.2 hd).le

/-- Two positive finite numbers are added at the smaller of their exponents. -/
theorem add_finite {m n : ℕ} {e f : ℤ} (hm : 0 < m) (hn : 0 < n) :
    add .binary64 (.finite .positive m e hm) (.finite .positive n f hn) =
      UnpackedFloat.round .binary64 .positive
        (m * 2 ^ (e - min e f).toNat + n * 2 ^ (f - min e f).toNat) (min e f) := by
  have hpos : 0 < m * 2 ^ (e - min e f).toNat := Nat.mul_pos hm (Nat.two_pow_pos _)
  have hsum : (0 : ℤ) < ↑(m * 2 ^ (e - min e f).toNat) + ↑(n * 2 ^ (f - min e f).toNat) := by
    omega
  simp only [UnpackedFloat.add, decreaseExponent, Nat.shiftLeft_eq, Sign.apply,
    UnpackedFloat.normalize]
  rw [compare_gt_iff_gt.2 hsum, ← Nat.cast_add, Int.toNat_natCast]

theorem add_zero_of_ne {u : UnpackedFloat} (hu : ∀ s, u ≠ .zero s) (t : Sign) :
    add .binary64 u (.zero t) = u := by
  cases u with
  | zero s => exact absurd rfl (hu s)
  | notANumber | infinity | finite => rfl

theorem zero_add_of_ne {u : UnpackedFloat} (hu : ∀ s, u ≠ .zero s) (t : Sign) :
    add .binary64 (.zero t) u = u := by
  cases u with
  | zero s => exact absurd rfl (hu s)
  | notANumber | infinity | finite => rfl

theorem exists_zero_add_zero (s t : Sign) : ∃ r, add .binary64 (.zero s) (.zero t) = .zero r := by
  cases s <;> cases t <;> exact ⟨_, rfl⟩

/-- Adding a number other than zero to a zero gives the number itself. -/
theorem add_of_view_zero_left {x y : Float} {s : Sign} (hx : view x = .zero s)
    (hy : ∀ t, view y ≠ .zero t) : x + y = y := by
  apply view_inj.1
  rw [view_add, hx, zero_add_of_ne hy, (isCanonical_view y).repack_eq]

/-- Adding a zero to any other number leaves it as it is. -/
theorem add_of_view_zero_right {x y : Float} {t : Sign} (hx : ∀ s, view x ≠ .zero s)
    (hy : view y = .zero t) : x + y = x := by
  apply view_inj.1
  rw [view_add, hy, add_zero_of_ne hx, (isCanonical_view x).repack_eq]

theorem exists_view_add_eq_zero {x y : Float} {s t : Sign} (hx : view x = .zero s)
    (hy : view y = .zero t) : ∃ r, view (x + y) = .zero r := by
  obtain ⟨r, hr⟩ := exists_zero_add_zero s t
  exact ⟨r, by rw [view_add, hx, hy, hr, repack_zero]⟩

/-- Taking a finite number away from either zero gives the same. -/
theorem sub_eq_of_view_zero {x y z : Float} {s t r : Sign} {m : ℕ} {e : ℤ} {hm : 0 < m}
    (hx : view x = .zero s) (hy : view y = .zero t) (hz : view z = .finite r m e hm) :
    x - z = y - z := by
  apply view_inj.1
  rw [view_sub, view_sub, hx, hy, hz]
  rfl

namespace IsAmount

variable {u v : UnpackedFloat}

theorem infinity_add (hv : IsAmount v) :
    UnpackedFloat.add .binary64 (.infinity .positive) v = .infinity .positive := by
  cases hv <;> rfl

theorem add_infinity (hu : IsAmount u) :
    UnpackedFloat.add .binary64 u (.infinity .positive) = .infinity .positive := by
  cases hu <;> rfl

/-- A sum of positive finite numbers is an amount, and at least as large as both. -/
theorem add_finite_finite {m n : ℕ} {e f : ℤ} (hm : 0 < m) (hn : 0 < n) (hme : Normalized m e)
    (he : e ≤ 971) (hnf : Normalized n f) (hf : f ≤ 971) :
    IsAmount (repack (add .binary64 (.finite .positive m e hm) (.finite .positive n f hn))) ∧
    place m e ≤
      rank (repack (add .binary64 (.finite .positive m e hm) (.finite .positive n f hn))) ∧
    place n f ≤
      rank (repack (add .binary64 (.finite .positive m e hm) (.finite .positive n f hn))) := by
  -- One of the two is added unshifted, so that the sum is large enough for the common exponent.
  have hcommon : -1074 ≤ min e f := le_min hme.min_le hnf.min_le
  obtain ⟨c, hc⟩ : ∃ c : ℕ, min e f + c = e := ⟨(e - min e f).toNat, by omega⟩
  obtain ⟨d, hd⟩ : ∃ d : ℕ, min e f + d = f := ⟨(f - min e f).toNat, by omega⟩
  rw [add_finite, show (e - min e f).toNat = c by omega, show (f - min e f).toNat = d by omega]
  have hleft : m ≤ m * 2 ^ c := Nat.le_mul_of_pos_right m (Nat.two_pow_pos c)
  have hright : n ≤ n * 2 ^ d := Nat.le_mul_of_pos_right n (Nat.two_pow_pos d)
  have hfull : 2 ^ 52 ≤ m * 2 ^ c + n * 2 ^ d ∨ min e f = -1074 := by
    have := hme.full
    have := hnf.full
    omega
  obtain ⟨hamount, hbelow⟩ := isAmount_repack_round (by omega) hcommon hfull
  refine ⟨hamount, ?_, ?_⟩
  · have := hbelow m c (hc.symm ▸ hme) (by omega) (by omega)
    rwa [hc] at this
  · have := hbelow n d (hd.symm ▸ hnf) (by omega) (by omega)
    rwa [hd] at this

/-- A sum of amounts is an amount, and at least as large as both. -/
theorem add (hu : IsAmount u) (hv : IsAmount v) :
    IsAmount (repack (UnpackedFloat.add .binary64 u v)) ∧
    rank u ≤ rank (repack (UnpackedFloat.add .binary64 u v)) ∧
    rank v ≤ rank (repack (UnpackedFloat.add .binary64 u v)) := by
  by_cases hu0 : ∃ s, u = .zero s
  · obtain ⟨s, rfl⟩ := hu0
    by_cases hv0 : ∃ t, v = .zero t
    · obtain ⟨t, rfl⟩ := hv0
      obtain ⟨r, hr⟩ := exists_zero_add_zero s t
      rw [hr, repack_zero]
      exact ⟨.zero r, le_rfl, le_rfl⟩
    · rw [zero_add_of_ne (by simpa using hv0), hv.isCanonical.repack_eq]
      exact ⟨hv, hv.rank_nonneg, le_rfl⟩
  · by_cases hv0 : ∃ t, v = .zero t
    · obtain ⟨t, rfl⟩ := hv0
      rw [add_zero_of_ne (by simpa using hu0), hu.isCanonical.repack_eq]
      exact ⟨hu, le_rfl, hu.rank_nonneg⟩
    · cases hu with
      | zero s => exact absurd ⟨s, rfl⟩ hu0
      | infinity =>
        rw [hv.infinity_add, repack_infinity]
        exact ⟨.infinity, le_rfl, hv.rank_le⟩
      | finite hm hn he =>
        cases hv with
        | zero t => exact absurd ⟨t, rfl⟩ hv0
        | infinity =>
          rw [(IsAmount.finite hm hn he).add_infinity, repack_infinity]
          exact ⟨.infinity, (IsAmount.finite hm hn he).rank_le, le_rfl⟩
        | finite hm' hn' he' => exact add_finite_finite hm hm' hn he hn' he'

/-- A sum of amounts is zero only if both are. -/
theorem rank_add_pos_iff (hu : IsAmount u) (hv : IsAmount v) :
    0 < rank (repack (UnpackedFloat.add .binary64 u v)) ↔ 0 < rank u ∨ 0 < rank v := by
  constructor
  · intro h
    by_contra hzero
    obtain ⟨hu0, hv0⟩ := not_or.1 hzero
    obtain ⟨s, rfl⟩ := hu.exists_eq_zero hu0
    obtain ⟨t, rfl⟩ := hv.exists_eq_zero hv0
    obtain ⟨r, hr⟩ := exists_zero_add_zero s t
    rw [hr, repack_zero] at h
    exact absurd h (lt_irrefl 0)
  · obtain ⟨-, hleft, hright⟩ := hu.add hv
    rintro (h | h)
    · exact h.trans_le hleft
    · exact h.trans_le hright

end IsAmount

end Tabletop.Binary64
