import CssMinifier.Number.Binary64
import CssMinifier.Proofs.Number.Rounding

/-! Quotients in units, and units in tenths. Both roundings keep the order. A quotient of few
digits by a power of two is exact, so its tenths are rounded once. A quotient is out of range
from half a gap below the limit on, so one that is far below the greatest number is in range.
-/

namespace CssMinifier.Number.Binary64

theorem one_eq : one = 2 ^ 1074 := by
  decide +kernel

theorem one_pos : 0 < one := by
  decide +kernel

theorem limit_eq : limit = 2 ^ (53 + 2045) := by
  decide +kernel

-----------------------------------------------------------------------------------------
-- Quotients in units
-----------------------------------------------------------------------------------------

variable {num num' den : ℕ}

theorem unitsOfRatio_mono (positive : 0 < den) (h : num ≤ num')
    : unitsOfRatio num den ≤ unitsOfRatio num' den :=
  roundToBits_mono (by omega) positive (Nat.mul_le_mul_right one h)

/-- A quotient by a power of two is exact if it has few digits. -/
theorem unitsOfRatio_two_pow {n k : ℕ} (few : n < 2 ^ 53) (h : k ≤ 1074)
    : unitsOfRatio n (2 ^ k) = n * 2 ^ (1074 - k) := by
  have units : n * one = n * 2 ^ (1074 - k) * 2 ^ k := by
    rw [one_eq, Nat.mul_assoc, ← pow_add, Nat.sub_add_cancel h]
  rw [unitsOfRatio, units]
  exact roundToBits_eq_self (by omega) few _ (Nat.two_pow_pos k)

theorem unitsOfRatio_div_one {n k : ℕ} (few : n < 2 ^ 53) (h : k ≤ 1074)
    : (unitsOfRatio n (2 ^ k) : ℚ) / one = n / 2 ^ k := by
  have power : (one : ℚ) = 2 ^ (1074 - k) * 2 ^ k := by
    rw [one_eq, Nat.cast_pow, Nat.cast_ofNat, ← pow_add, Nat.sub_add_cancel h]
  have wide : (2 : ℚ) ^ (1074 - k) ≠ 0 := pow_ne_zero _ two_ne_zero
  rw [unitsOfRatio_two_pow few h, power, Nat.cast_mul, Nat.cast_pow, Nat.cast_ofNat, mul_comm,
    mul_div_mul_left _ _ wide]

theorem unitsOfRatio_mul {n : ℕ} (few : n < 2 ^ 53) (positive : 0 < den)
    : unitsOfRatio (n * den) den = n * one := by
  rw [unitsOfRatio, Nat.mul_right_comm, one_eq]
  exact roundToBits_eq_self (by omega) few 1074 positive

-----------------------------------------------------------------------------------------
-- Units in tenths
-----------------------------------------------------------------------------------------

theorem tenths_mono {units units' : ℕ} (h : units ≤ units')
    : tenths units ≤ tenths units' :=
  roundHalfEven_mono one_pos (Nat.mul_le_mul_right 10 h)

theorem tenths_mul (n : ℕ)
    : tenths (n * one) = 10 * n := by
  rw [tenths, Nat.mul_right_comm, roundHalfEven_mul _ one_pos, Nat.mul_comm]

theorem tenths_div_nonneg (units : ℕ)
    : (0 : ℚ) ≤ tenths units / 10 :=
  div_nonneg (Nat.cast_nonneg _) (by norm_num)

theorem tenths_div_mono {units units' : ℕ} (h : units ≤ units')
    : (tenths units : ℚ) / 10 ≤ tenths units' / 10 :=
  div_le_div_of_nonneg_right (Nat.cast_le.mpr (tenths_mono h)) (by norm_num)

/-- The tenths are those nearest to the number. -/
theorem nearestEven_tenths (units : ℕ)
    : NearestEven (10 * (units / one)) (tenths units) := by
  have nearest := nearestEven_roundHalfEven (units * 10) one_pos
  rwa [Nat.cast_mul, Nat.cast_ofNat, mul_comm, mul_div_assoc] at nearest

/-- The tenths of an exact quotient are those nearest to the quotient. -/
theorem nearestEven_tenths_unitsOfRatio {n k : ℕ} (few : n < 2 ^ 53) (h : k ≤ 1074)
    : NearestEven (10 * (n / 2 ^ k)) (tenths (unitsOfRatio n (2 ^ k))) := by
  rw [← unitsOfRatio_div_one few h]
  exact nearestEven_tenths _

-----------------------------------------------------------------------------------------
-- Quotients in range
-----------------------------------------------------------------------------------------

/-- A quotient is in range if it is more than half a gap below the limit. -/
theorem unitsOfRatio_lt_limit_iff (num : ℕ) (positive : 0 < den)
    : unitsOfRatio num den < limit
      ↔ 2 * (num * one) + 2 ^ 2045 * den < 2 ^ (53 + 2045 + 1) * den := by
  rw [limit_eq]
  exact roundToBits_lt_iff (by omega) (num * one) positive 2045

/-- The greatest size of quotients that are known to be in range. -/
def reach : Nat := Nat.pow 2 1021

theorem reach_eq : reach = 2 ^ 1021 := by
  decide +kernel

/-- A quotient that is within reach is in range. -/
theorem unitsOfRatio_lt_limit {factor : ℕ} (near : factor ≤ reach) (positive : 0 < den)
    (h : num ≤ factor * den)
    : unitsOfRatio num den < limit := by
  have units : num * one ≤ 2 ^ (1021 + 1074) * den :=
    calc
      num * one ≤ factor * den * one := Nat.mul_le_mul_right one h
      _ ≤ reach * den * one := Nat.mul_le_mul_right one (Nat.mul_le_mul_right den near)
      _ = reach * one * den := Nat.mul_right_comm reach den one
      _ = 2 ^ (1021 + 1074) * den := by rw [reach_eq, one_eq, pow_add]
  rw [limit_eq]
  calc
    unitsOfRatio num den ≤ 2 ^ (1021 + 1074) := roundToBits_le_two_pow (by omega) positive units
    _ < 2 ^ (53 + 2045) := pow_lt_pow_right₀ (by omega) (by omega)

theorem quotient?_natCast (num den : ℕ)
    : quotient? num den
      = if unitsOfRatio num den < limit then
          some (.finite false (unitsOfRatio num den))
        else
          none := by
  have unsigned (n : ℕ) : decide ((n : ℤ) < 0) = false :=
    decide_eq_false (Int.not_lt.mpr (Int.natCast_nonneg n))
  simp only [quotient?, Int.natAbs_natCast, unsigned, Bool.xor_false]

end CssMinifier.Number.Binary64
