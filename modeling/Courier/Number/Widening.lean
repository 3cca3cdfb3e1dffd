import Courier.Number.Binary

/-!
# Widening

A float of four octets is a number that eight octets have too, far below their largest one. So
widening it neither reaches infinity nor leaves it.

* `isFinite_widen`: **a float is finite if the wider one is.**
-/

namespace Courier

namespace Binary

theorem roundQuotient_le (num den : Nat) : roundQuotient num den ≤ num / den + 1 := by
  unfold roundQuotient
  dsimp only
  split
  · omega
  · split
    · omega
    · split <;> omega

theorem log2_mul_two_pow {n : Nat} (h : n ≠ 0) (k : Nat) : (n * 2 ^ k).log2 = n.log2 + k := by
  refine (Nat.log2_eq_iff (Nat.mul_ne_zero h (Nat.ne_of_gt (Nat.two_pow_pos k)))).2 ⟨?_, ?_⟩
  · rw [Nat.pow_add]
    exact Nat.mul_le_mul_right _ (Nat.log2_self_le h)
  · rw [Nat.add_right_comm, Nat.pow_add]
    exact Nat.mul_lt_mul_of_pos_right Nat.lt_log2_self (Nat.two_pow_pos k)

/-- A number that is not scaled down too far has few digits before the point. -/
theorem roundQuotient_scaled_le {significand : Nat} {exponent q : Int}
    (h : (significand.log2 : Int) + exponent ≤ q + 53) :
    roundQuotient (significand * 2 ^ exponent.toNat * 2 ^ (-q).toNat)
      (2 ^ (-exponent).toNat * 2 ^ q.toNat) ≤ 2 ^ 54 := by
  -- The significand is below the next power of two, which leaves exponents to be compared.
  have hpower : significand * 2 ^ exponent.toNat * 2 ^ (-q).toNat <
      2 ^ 54 * (2 ^ (-exponent).toNat * 2 ^ q.toNat) :=
    calc significand * 2 ^ exponent.toNat * 2 ^ (-q).toNat
      _ < 2 ^ (significand.log2 + 1) * 2 ^ exponent.toNat * 2 ^ (-q).toNat := by
        refine Nat.mul_lt_mul_of_pos_right (Nat.mul_lt_mul_of_pos_right ?_ ?_) ?_
        · exact Nat.lt_log2_self
        · exact Nat.two_pow_pos _
        · exact Nat.two_pow_pos _
      _ = 2 ^ (significand.log2 + 1 + exponent.toNat + (-q).toNat) := by
        rw [Nat.pow_add _ _ (-q).toNat, Nat.pow_add _ _ exponent.toNat]
      _ ≤ 2 ^ (54 + ((-exponent).toNat + q.toNat)) :=
        Nat.pow_le_pow_right (by decide) (by omega)
      _ = 2 ^ 54 * (2 ^ (-exponent).toNat * 2 ^ q.toNat) := by
        rw [Nat.pow_add, Nat.pow_add]
  have hquotient : significand * 2 ^ exponent.toNat * 2 ^ (-q).toNat /
      (2 ^ (-exponent).toNat * 2 ^ q.toNat) < 2 ^ 54 := by
    refine (Nat.div_lt_iff_lt_mul ?_).2 hpower
    exact Nat.mul_pos (Nat.two_pow_pos _) (Nat.two_pow_pos _)
  exact Nat.le_trans (roundQuotient_le _ _) hquotient

/-- What is far below infinity is not rounded to it. -/
theorem nearest_quotient_lt {significand : Nat} {exponent : Int}
    (h : (significand.log2 : Int) + exponent ≤ 1000) :
    double.nearest (quotient significand exponent).1 (quotient significand exponent).2 <
      double.infinity := by
  by_cases hzero : significand = 0
  · subst hzero
    simp only [quotient, nearest, Nat.zero_mul, if_true]
    decide
  have hnum : significand * 2 ^ exponent.toNat ≠ 0 :=
    Nat.mul_ne_zero hzero (Nat.ne_of_gt (Nat.two_pow_pos _))
  -- Whichever power of two the number is rounded to, its exponent lies in this range.
  have hbound : ∀ q : Int, (significand.log2 : Int) + exponent ≤ q + 53 → q ≤ 948 →
      min double.infinity ((q - double.leastExponent).toNat * 2 ^ double.fractionBits +
        roundQuotient (significand * 2 ^ exponent.toNat * 2 ^ (-q).toNat)
          (2 ^ (-exponent).toNat * 2 ^ q.toNat)) < double.infinity := by
    intro q hlow hhigh
    have hscaled := roundQuotient_scaled_le hlow
    have hexponent : (q - double.leastExponent).toNat ≤ 2022 := by
      have hleast : double.leastExponent = -1074 := rfl
      omega
    have hinfinity : double.infinity = 2047 * 2 ^ 52 := rfl
    have hfraction : double.fractionBits = 52 := rfl
    rw [hinfinity, hfraction]
    omega
  simp only [quotient, nearest, if_neg hnum, log2_mul_two_pow hzero, Nat.log2_two_pow]
  have hfraction : double.fractionBits = 52 := rfl
  have hleast : double.leastExponent = -1074 := rfl
  split
  · exact hbound _ (by omega) (by omega)
  · exact hbound _ (by omega) (by omega)

theorem toNat_ofNat_signed {magnitude : Nat} (h : magnitude ≤ double.infinity) (negative : Bool) :
    (UInt64.ofNat (magnitude + if negative then double.signBit else 0)).toNat % double.signBit =
      magnitude := by
  have hinfinity : double.infinity = 2047 * 2 ^ 52 := rfl
  have hsign : double.signBit = 2 ^ 63 := rfl
  rw [UInt64.toNat_ofNat', hsign]
  cases negative
  · rw [if_neg (by decide)]
    omega
  · rw [if_pos rfl]
    omega

/-- A finite number of four octets is far below the largest one of eight. -/
theorem log2_le_of_classify {bits significand : Nat} {negative : Bool} {exponent : Int}
    (h : single.classify bits = .finite negative significand exponent) :
    (significand.log2 : Int) + exponent ≤ 1000 := by
  have hsign : single.signBit = 2 ^ 31 := rfl
  have hinfinity : single.infinity = 255 * 2 ^ 23 := rfl
  have hleast : single.leastExponent = -149 := rfl
  have hfraction : single.fractionBits = 23 := rfl
  have hlog {n : Nat} (hn : n < 2 ^ 24) : n.log2 < 24 := by
    by_cases hzero : n = 0
    · subst hzero
      decide
    · exact (Nat.log2_lt hzero).2 hn
  simp only [classify, hsign, hinfinity, hleast, hfraction] at h
  split at h
  · cases h
  · split at h
    · cases h
    · split at h
      · cases h
        have := hlog (n := bits % 2 ^ 31 % 2 ^ 23) (by omega)
        omega
      · cases h
        have := hlog (n := 2 ^ 23 + bits % 2 ^ 31 % 2 ^ 23) (by omega)
        omega

/-- A pattern is finite if it is read as a finite number. -/
theorem isFinite_eq (f : Binary) (bits : Nat) :
    f.isFinite bits = match f.classify bits with
      | .finite _ _ _ => true
      | _ => false := by
  rcases Nat.lt_trichotomy (bits % f.signBit) f.infinity with hlt | heq | hgt
  · simp only [isFinite, classify, hlt, decide_true, if_neg (Nat.lt_asymm hlt),
      if_neg (Nat.ne_of_lt hlt)]
    by_cases hfield : bits % f.signBit / 2 ^ f.fractionBits = 0
    · rw [if_pos hfield]
    · rw [if_neg hfield]
  · simp only [isFinite, classify, heq, Nat.lt_irrefl, decide_false, if_false, if_true]
  · simp only [isFinite, classify, hgt, if_true, decide_eq_false (Nat.lt_asymm hgt)]

end Binary

open Binary

/-- **What is finite stays so, and nothing else becomes finite.** -/
theorem isFinite_widen (bits : UInt32) :
    double.isFinite (widen bits).toNat = single.isFinite bits.toNat := by
  rw [isFinite_eq single, isFinite, widen]
  cases hc : single.classify bits.toNat with
  | notANumber => decide
  | infinite negative =>
    dsimp only
    rw [toNat_ofNat_signed (Nat.le_refl _)]
    exact decide_eq_false (Nat.lt_irrefl _)
  | finite negative significand exponent =>
    have hlt := nearest_quotient_lt (log2_le_of_classify hc)
    dsimp only
    rw [toNat_ofNat_signed (Nat.le_of_lt hlt), decide_eq_true hlt]

end Courier
