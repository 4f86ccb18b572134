import Mathlib.Algebra.Order.Ring.Nat
import StatsBoard.Binary64.Basic
import StatsBoard.Proofs.Metric

/-!
# Bounds of rounded numbers

A fraction that is rounded to the nearest binary64 number is finite unless it is very large. The
bounds here are coarse, since only the exponent is looked at: a fraction up to `2 ^ k` is rounded to
a number below `2 ^ (k + 4)`. That is enough for chains of a few operations on numbers that are far
from the largest one.
-/

namespace StatsBoard.Binary64

variable {n d k : Nat} {x y : Binary64}

/-- A number that is made of a magnitude has that magnitude. -/
theorem magnitude_of_magnitude (negative : Bool) (h : n < signBit) :
    (ofMagnitude negative n).magnitude = n := by
  have hfits : (if negative then signBit else 0) + n < 2 ^ 64 := by
    have hsign : signBit = 2 ^ 63 := rfl
    split <;> omega
  rw [magnitude, ofMagnitude, UInt64.toNat_ofNat', Nat.mod_eq_of_lt hfits]
  cases negative with
  | false => rw [if_neg Bool.false_ne_true, Nat.zero_add, Nat.mod_eq_of_lt h]
  | true => rw [if_pos rfl, Nat.add_mod_left, Nat.mod_eq_of_lt h]

/-- Rounding to an integer keeps a quotient up to its bound. -/
theorem div_half_even_le {q : Nat} (h : n < q * d) : divHalfEven n d ≤ q := by
  have hquotient : n / d < q := Nat.div_lt_of_lt_mul (Nat.mul_comm q d ▸ h)
  have hstep : divHalfEven n d ≤ n / d + 1 := by
    unfold divHalfEven
    dsimp only
    split
    · omega
    · split <;> omega
  omega

/-- The exponent of the last bit of a fraction is at most that of its bound. -/
theorem last_bit_le (hn : n ≠ 0) (h : n ≤ 2 ^ k * d) : lastBit n d ≤ k - 52 := by
  have hd : d ≠ 0 := by
    rintro rfl
    omega
  have hlog : Nat.log2 n ≤ k + Nat.log2 d := by
    have hlt : n < 2 ^ (k + Nat.log2 d + 1) := by
      calc n ≤ 2 ^ k * d := h
        _ < 2 ^ k * 2 ^ (Nat.log2 d + 1) :=
          Nat.mul_lt_mul_of_pos_left Nat.lt_log2_self (Nat.two_pow_pos k)
        _ = 2 ^ (k + Nat.log2 d + 1) := by rw [← Nat.pow_add, Nat.add_assoc]
    exact Nat.lt_succ_iff.mp ((Nat.log2_lt hn).mpr hlt)
  unfold lastBit
  dsimp only
  split <;> omega

/-- In units of its last bit, a fraction is below `2 ^ 54`. -/
theorem scaled_last_bit_lt (hd : d ≠ 0) :
    (scaled n d (lastBit n d)).1 < 2 ^ 54 * (scaled n d (lastBit n d)).2 := by
  have hlow : (Nat.log2 n : Int) - Nat.log2 d - 53 ≤ lastBit n d := by
    unfold lastBit
    dsimp only
    split <;> omega
  have hupper : n < 2 ^ (Nat.log2 n + 1) := Nat.lt_log2_self
  have hlower : 2 ^ Nat.log2 d ≤ d := Nat.log2_self_le hd
  generalize lastBit n d = shift at hlow
  unfold scaled
  split
  · rw [Nat.shiftLeft_eq]
    calc n < 2 ^ (Nat.log2 n + 1) := hupper
      _ ≤ 2 ^ (54 + (Nat.log2 d + shift.toNat)) := Nat.pow_le_pow_right (by decide) (by omega)
      _ = 2 ^ 54 * (2 ^ Nat.log2 d * 2 ^ shift.toNat) := by rw [Nat.pow_add, Nat.pow_add]
      _ ≤ 2 ^ 54 * (d * 2 ^ shift.toNat) := by gcongr
  · rw [Nat.shiftLeft_eq]
    calc n * 2 ^ (-shift).toNat < 2 ^ (Nat.log2 n + 1) * 2 ^ (-shift).toNat :=
          Nat.mul_lt_mul_of_pos_right hupper (Nat.two_pow_pos _)
      _ = 2 ^ (Nat.log2 n + 1 + (-shift).toNat) := (Nat.pow_add ..).symm
      _ ≤ 2 ^ (54 + Nat.log2 d) := Nat.pow_le_pow_right (by decide) (by omega)
      _ = 2 ^ 54 * 2 ^ Nat.log2 d := by rw [Nat.pow_add]
      _ ≤ 2 ^ 54 * d := by gcongr

/-- The absolute value of the number is at most about `2 ^ k`: the magnitude is bounded by the
exponent alone. -/
def Within (k : Nat) (x : Binary64) : Prop :=
  x.magnitude ≤ (k + 1026) * hiddenBit

theorem Within.is_finite (h : x.Within k) (hk : k ≤ 1020) : x.isFinite := by
  have hbound : (k + 1026) * hiddenBit < infinityMagnitude := by
    calc (k + 1026) * hiddenBit ≤ 2046 * hiddenBit := Nat.mul_le_mul_right _ (by omega)
      _ < infinityMagnitude := by decide
  exact decide_eq_true (Nat.lt_of_le_of_lt h hbound)

/-- Rounding keeps a fraction within its bound. -/
theorem within_nearest (negative : Bool) (h : n ≤ 2 ^ k * d) (hk : k ≤ 1020) :
    (nearest negative n d).Within k := by
  have hmagnitude : nearestMagnitude n d ≤ (k + 1026) * hiddenBit := by
    by_cases hn : n = 0
    · rw [nearestMagnitude, if_pos hn]
      exact Nat.zero_le _
    · have hd : d ≠ 0 := by
        rintro rfl
        omega
      have hshift := last_bit_le hn h
      have hexponent : (lastBit n d + 1074).toNat ≤ k + 1022 := by omega
      have hfraction := @scaled_last_bit_lt n d hd
      rw [nearestMagnitude, if_neg hn]
      extract_lets shift
      split
      rename_i a b hscaled
      rw [hscaled] at hfraction
      have hround : divHalfEven a b ≤ 4 * hiddenBit := div_half_even_le hfraction
      calc min ((lastBit n d + 1074).toNat * hiddenBit + divHalfEven a b) infinityMagnitude
        _ ≤ (lastBit n d + 1074).toNat * hiddenBit + divHalfEven a b := Nat.min_le_left _ _
        _ ≤ (k + 1022) * hiddenBit + 4 * hiddenBit :=
          Nat.add_le_add (Nat.mul_le_mul_right _ hexponent) hround
        _ = (k + 1026) * hiddenBit := (Nat.add_mul ..).symm
  have hsign : (k + 1026) * hiddenBit < signBit := by
    calc (k + 1026) * hiddenBit ≤ 2046 * hiddenBit := Nat.mul_le_mul_right _ (by omega)
      _ < signBit := by decide
  rw [nearest, Within, magnitude_of_magnitude negative (Nat.lt_of_le_of_lt hmagnitude hsign)]
  exact hmagnitude

/-- The significand of a number has 53 bits. -/
theorem significand_lt : x.significand < 2 ^ 53 := by
  have hunit : 2 ^ 53 = hiddenBit + hiddenBit := by decide
  have hfraction : x.magnitude % hiddenBit < hiddenBit := Nat.mod_lt _ (by decide)
  unfold significand
  split <;> omega

/-- The fraction of a bounded number is bounded. -/
theorem Within.ratio_le (h : x.Within k) : x.ratio.1 ≤ 2 ^ (k + 4) * x.ratio.2 := by
  have hexponent : x.exponent ≤ (k : Int) - 49 := by
    have hquotient : x.magnitude / hiddenBit ≤ k + 1026 :=
      Nat.div_le_of_le_mul (Nat.mul_comm _ _ ▸ h)
    unfold exponent
    omega
  have hsignificand := Nat.le_of_lt (@significand_lt x)
  unfold ratio
  split
  · rw [Nat.shiftLeft_eq, Nat.mul_one]
    calc x.significand * 2 ^ x.exponent.toNat ≤ 2 ^ 53 * 2 ^ x.exponent.toNat := by gcongr
      _ = 2 ^ (53 + x.exponent.toNat) := (Nat.pow_add ..).symm
      _ ≤ 2 ^ (k + 4) := Nat.pow_le_pow_right (by decide) (by omega)
  · rw [Nat.shiftLeft_eq, Nat.one_mul]
    calc x.significand ≤ 2 ^ 53 := hsignificand
      _ ≤ 2 ^ (k + 4 + (-x.exponent).toNat) := Nat.pow_le_pow_right (by decide) (by omega)
      _ = 2 ^ (k + 4) * 2 ^ (-x.exponent).toNat := Nat.pow_add ..

/-- Dividing a bounded number by a number that is at least one keeps it bounded. -/
theorem Within.div (h : x.Within k) (hk : k ≤ 1016) (hy : y.isFinite) (hzero : y.magnitude ≠ 0)
    (hone : y.ratio.2 ≤ y.ratio.1) : (x.div y).Within (k + 4) := by
  have hproduct : x.ratio.1 * y.ratio.2 ≤ 2 ^ (k + 4) * (x.ratio.2 * y.ratio.1) := by
    calc x.ratio.1 * y.ratio.2 ≤ 2 ^ (k + 4) * x.ratio.2 * y.ratio.1 :=
          Nat.mul_le_mul h.ratio_le hone
      _ = 2 ^ (k + 4) * (x.ratio.2 * y.ratio.1) := Nat.mul_assoc ..
  have hx := h.is_finite (by omega)
  rw [Binary64.div]
  simp only [not_nan_of_finite, hx, hy, hzero]
  exact within_nearest _ hproduct (by omega)

/-- Integers of 64 bits are far from the largest number. -/
theorem within_of_int {i : Int} (h : i.natAbs < 2 ^ 64) : (ofInt i).Within 64 :=
  within_nearest _ (by omega) (by decide)

/-- A power of ten up to `10 ^ 308` is a finite number, and at least one. -/
theorem power_of_ten (hk : k ≤ 308) : (ofDecimal false 1 k).isFinite ∧
    (ofDecimal false 1 k).magnitude ≠ 0 ∧
    (ofDecimal false 1 k).ratio.2 ≤ (ofDecimal false 1 k).ratio.1 := by
  have hall : ∀ k < 309, (ofDecimal false 1 (k : Nat)).isFinite ∧
      (ofDecimal false 1 k).magnitude ≠ 0 ∧
      (ofDecimal false 1 k).ratio.2 ≤ (ofDecimal false 1 k).ratio.1 := by
    decide +kernel
  exact hall k (by omega)

end StatsBoard.Binary64
