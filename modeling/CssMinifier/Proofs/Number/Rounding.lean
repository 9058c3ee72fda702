import CssMinifier.Number.Rounding
import Mathlib.Algebra.Order.Field.Basic
import Mathlib.Algebra.Order.Ring.Rat
import Mathlib.Tactic.FieldSimp
import Mathlib.Tactic.Linarith
import Mathlib.Tactic.Positivity
import Mathlib.Tactic.Ring

/-! Rounded quotients. A quotient is rounded to a nearest whole number, of two to the even one.
Rounding to significant digits keeps the order of quotients, leaves numbers of few digits as
they are and moves a quotient by half a gap at most.
-/

namespace CssMinifier.Number

-----------------------------------------------------------------------------------------
-- Whole numbers nearest to a quotient
-----------------------------------------------------------------------------------------

/-- A whole number that is nearest to a number, and even if there are two. -/
structure NearestEven (x : ℚ) (n : ℕ) : Prop where
  near : |x - n| ≤ 1 / 2
  even : |x - n| = 1 / 2 → Even n

namespace NearestEven

variable {x y : ℚ} {m n : ℕ}

/-- Nearest numbers are in order. Two that were not would be neighbours with the same number
half-way between them, so both would be even.
-/
theorem le_of_le (hm : NearestEven x m) (hn : NearestEven y n) (h : x ≤ y)
    : m ≤ n := by
  by_contra above
  have apart : (n : ℚ) + 1 ≤ m := by exact_mod_cast Nat.lt_of_not_le above
  have low := (abs_le.mp hm.near).1
  have high := (abs_le.mp hn.near).2
  have next : m = n + 1 := by
    have le : (m : ℚ) ≤ n + 1 := by linarith
    exact Nat.le_antisymm (by exact_mod_cast le) (Nat.lt_of_not_le above)
  have half : x = n + 1 / 2 := by
    rw [next, Nat.cast_succ] at low
    linarith
  have half' : y = n + 1 / 2 := by linarith
  have evenNext : Even (n + 1) := by
    rw [← next]
    refine hm.even ?_
    rw [half, next, Nat.cast_succ, abs_of_nonpos] <;> linarith
  have even : Even n := by
    refine hn.even ?_
    rw [half', abs_of_nonneg] <;> linarith
  exact Nat.even_add_one.mp evenNext even

/-- A number rounds to less than an even one if it is less than half below it. -/
theorem lt_iff (h : NearestEven x n) (even : Even m)
    : n < m ↔ x < m - 1 / 2 := by
  constructor
  · intro less
    have step : (n : ℚ) + 1 ≤ m := by exact_mod_cast less
    have high := (abs_le.mp h.near).2
    refine lt_of_le_of_ne (by linarith) fun half => ?_
    have next : (m : ℚ) = n + 1 := by linarith
    have evenBelow : Even n := by
      refine h.even ?_
      rw [half, next, abs_of_nonneg] <;> linarith
    have follows : m = n + 1 := by exact_mod_cast next
    exact Nat.even_add_one.mp (follows ▸ even) evenBelow
  · intro less
    have low := (abs_le.mp h.near).1
    have below : (n : ℚ) < m := by linarith
    exact_mod_cast below

/-- A whole number is nearest to what is at most half above it. -/
theorem of_part_le_half {part : ℚ} (nonneg : 0 ≤ part) (most : part ≤ 1 / 2)
    (even : part = 1 / 2 → Even n)
    : NearestEven (n + part) n := by
  have moved : (n : ℚ) + part - n = part := by ring
  constructor <;> rw [moved, abs_of_nonneg nonneg]
  · exact most
  · exact even

/-- The next whole number is nearest to what is at least half above a whole number. -/
theorem succ_of_half_le_part {part : ℚ} (least : 1 / 2 ≤ part) (less : part < 1)
    (odd : part = 1 / 2 → ¬ Even n)
    : NearestEven (n + part) (n + 1) := by
  have moved : (n : ℚ) + part - (n + 1 : ℕ) = -(1 - part) := by
    push_cast
    ring
  constructor <;> rw [moved, abs_neg, abs_of_pos (by linarith)]
  · linarith
  · exact fun half => Nat.even_add_one.mpr (odd (by linarith))

end NearestEven

/-- A quotient is rounded to a nearest whole number. -/
theorem nearestEven_roundHalfEven (num : ℕ) {den : ℕ} (positive : 0 < den)
    : NearestEven (num / den) (roundHalfEven num den) := by
  have wide : (0 : ℚ) < den := by exact_mod_cast positive
  have parts : (num : ℚ) / den = (num / den : ℕ) + (num % den : ℕ) / den := by
    have whole : (num : ℚ) = den * (num / den : ℕ) + (num % den : ℕ) := by
      exact_mod_cast (Nat.div_add_mod num den).symm
    rw [div_eq_iff wide.ne', add_mul, div_mul_cancel₀ _ wide.ne', mul_comm _ (den : ℚ), ← whole]
  have small : ((num % den : ℕ) : ℚ) / den < 1 := by
    rw [div_lt_one wide]
    exact_mod_cast Nat.mod_lt num positive
  have nonneg : (0 : ℚ) ≤ (num % den : ℕ) / den := by positivity
  have half_iff : ((num % den : ℕ) : ℚ) / den = 1 / 2 ↔ 2 * (num % den) = den := by
    rw [div_eq_div_iff wide.ne' two_ne_zero, one_mul, mul_comm]
    exact_mod_cast Iff.rfl
  have less_iff : ((num % den : ℕ) : ℚ) / den < 1 / 2 ↔ 2 * (num % den) < den := by
    rw [div_lt_div_iff₀ wide two_pos, one_mul, mul_comm]
    exact_mod_cast Iff.rfl
  rw [parts, roundHalfEven]
  split
  · next down =>
      refine .of_part_le_half nonneg ?_ fun half => ?_
      · rcases down with less | tie
        · exact (less_iff.mpr less).le
        · exact (half_iff.mpr tie.1).le
      · rcases down with less | tie
        · exact absurd (half_iff.mp half) less.ne
        · exact Nat.even_iff.mpr tie.2
  · next up =>
      simp only [not_or, not_and] at up
      refine .succ_of_half_le_part (not_lt.mp (less_iff.not.mpr up.1)) small fun half => ?_
      exact Nat.even_iff.not.mpr (up.2 (half_iff.mp half))

theorem roundHalfEven_mono {num num' den : ℕ} (positive : 0 < den) (h : num ≤ num')
    : roundHalfEven num den ≤ roundHalfEven num' den := by
  refine (nearestEven_roundHalfEven num positive).le_of_le
    (nearestEven_roundHalfEven num' positive) ?_
  gcongr

/-- A quotient that is no more than a whole number is rounded to no more. -/
theorem roundHalfEven_le {num den n : ℕ} (positive : 0 < den) (h : num ≤ n * den)
    : roundHalfEven num den ≤ n := by
  simpa only [roundHalfEven_mul n positive] using roundHalfEven_mono positive h

theorem le_roundHalfEven {num den n : ℕ} (positive : 0 < den) (h : n * den ≤ num)
    : n ≤ roundHalfEven num den := by
  simpa only [roundHalfEven_mul n positive] using roundHalfEven_mono positive h

theorem roundHalfEven_lt_iff {den n : ℕ} (num : ℕ) (positive : 0 < den) (even : Even n)
    : roundHalfEven num den < n ↔ 2 * num + den < 2 * n * den := by
  have wide : (0 : ℚ) < den := by exact_mod_cast positive
  have halves : (n : ℚ) - 1 / 2 = (2 * n - 1) / 2 := by ring
  rw [(nearestEven_roundHalfEven num positive).lt_iff even, halves, div_lt_div_iff₀ wide two_pos,
    sub_mul, one_mul, lt_sub_iff_add_lt, mul_comm]
  exact_mod_cast Iff.rfl

-----------------------------------------------------------------------------------------
-- The gap at the size of a quotient
-----------------------------------------------------------------------------------------

/-- The exponent of a gap that fits a quotient: counted in gaps the quotient has no more than
the given number of digits, and no fewer either unless the gap is one.
-/
structure Scale (bits num den exponent : ℕ) : Prop where
  below : num < 2 ^ (bits + exponent) * den
  filled : exponent = 0 ∨ 2 ^ (bits + exponent) * den ≤ 2 * num

variable {bits num num' den e e' : ℕ}

/-- The gap between neighbours fits the quotient. -/
theorem exists_scale (digits : 0 < bits) (num : ℕ) (positive : 0 < den)
    : ∃ e, Scale bits num den e ∧ spacing bits (num / den) = 2 ^ e := by
  refine ⟨Nat.log2 (num / den) + 1 - bits, ⟨?_, ?_⟩, rfl⟩
  · rw [← Nat.div_lt_iff_lt_mul positive]
    calc
      num / den < 2 ^ (Nat.log2 (num / den) + 1) := Nat.lt_log2_self
      _ ≤ 2 ^ (bits + (Nat.log2 (num / den) + 1 - bits)) :=
        Nat.pow_le_pow_right (by omega) (by omega)
  · by_cases unit : Nat.log2 (num / den) + 1 - bits = 0
    · exact Or.inl unit
    · have size : bits + (Nat.log2 (num / den) + 1 - bits) = Nat.log2 (num / den) + 1 := by omega
      have nonzero : num / den ≠ 0 := by
        intro zero
        rw [zero, Nat.log2_zero] at unit
        omega
      refine Or.inr ?_
      rw [size, Nat.pow_succ, Nat.mul_comm _ 2, Nat.mul_assoc]
      exact Nat.mul_le_mul_left 2
        ((Nat.le_div_iff_mul_le positive).mp (Nat.log2_self_le nonzero))

/-- A quotient has no wider gap than one that is larger, or than a power of two above it. -/
theorem Scale.le_of_lt (scale : Scale bits num den e) (h : num < 2 ^ (bits + e') * den)
    : e ≤ e' := by
  rcases scale.filled with rfl | filled
  · exact Nat.zero_le e'
  · have twice : 2 ^ (bits + e) * den < 2 ^ (bits + e' + 1) * den := by
      rw [Nat.pow_succ, Nat.mul_comm _ 2, Nat.mul_assoc]
      omega
    have exponents := (Nat.pow_lt_pow_iff_right (by omega)).mp (Nat.lt_of_mul_lt_mul_right twice)
    omega

theorem roundToBits_eq (gap : spacing bits (num / den) = 2 ^ e)
    : roundToBits bits num den = roundHalfEven num (den * 2 ^ e) * 2 ^ e := by
  rw [roundToBits, gap]

/-- On its own scale a quotient is rounded to the given number of digits at most. -/
theorem Scale.roundHalfEven_le (scale : Scale bits num den e) (positive : 0 < den)
    : roundHalfEven num (den * 2 ^ e) ≤ 2 ^ bits := by
  refine Number.roundHalfEven_le (Nat.mul_pos positive (Nat.two_pow_pos e)) ?_
  have below := scale.below
  rw [Nat.pow_add, Nat.mul_assoc, Nat.mul_comm (2 ^ e)] at below
  exact below.le

/-- On a scale with a gap of two or more a quotient is rounded to no fewer digits. -/
theorem Scale.le_roundHalfEven (scale : Scale bits num den e) (digits : 0 < bits)
    (positive : 0 < den) (wide : 0 < e)
    : 2 ^ bits ≤ 2 * roundHalfEven num (den * 2 ^ e) := by
  obtain ⟨more, rfl⟩ : ∃ more, bits = more + 1 := ⟨bits - 1, by omega⟩
  have filled := scale.filled.resolve_left wide.ne'
  have least : 2 ^ more * (den * 2 ^ e) ≤ num := by
    refine Nat.le_of_mul_le_mul_left ?_ Nat.two_pos
    calc
      2 * (2 ^ more * (den * 2 ^ e)) = 2 ^ (more + 1 + e) * den := by ring
      _ ≤ 2 * num := filled
  rw [Nat.pow_succ, Nat.mul_comm _ 2]
  exact Nat.mul_le_mul_left 2
    (Number.le_roundHalfEven (Nat.mul_pos positive (Nat.two_pow_pos e)) least)

-----------------------------------------------------------------------------------------
-- Rounding to significant digits
-----------------------------------------------------------------------------------------

/-- Rounding keeps the order of quotients. Quotients with different gaps are parted by a power
of two, which neither crosses.
-/
theorem roundToBits_mono (digits : 0 < bits) (positive : 0 < den) (h : num ≤ num')
    : roundToBits bits num den ≤ roundToBits bits num' den := by
  obtain ⟨e, scale, gap⟩ := exists_scale digits num positive
  obtain ⟨e', scale', gap'⟩ := exists_scale digits num' positive
  rw [roundToBits_eq gap, roundToBits_eq gap']
  rcases (scale.le_of_lt (h.trans_lt scale'.below)).eq_or_lt with rfl | wider
  · exact Nat.mul_le_mul_right _
      (roundHalfEven_mono (Nat.mul_pos positive (Nat.two_pow_pos e)) h)
  · have most := scale.roundHalfEven_le positive
    have least := scale'.le_roundHalfEven digits positive (by omega)
    calc
      roundHalfEven num (den * 2 ^ e) * 2 ^ e
          ≤ 2 * roundHalfEven num' (den * 2 ^ e') * 2 ^ e :=
        Nat.mul_le_mul_right _ (most.trans least)
      _ = roundHalfEven num' (den * 2 ^ e') * 2 ^ (e + 1) := by ring
      _ ≤ roundHalfEven num' (den * 2 ^ e') * 2 ^ e' :=
        Nat.mul_le_mul_left _ (Nat.pow_le_pow_right (by omega) wider)

/-- A whole number with few enough digits before its zeros is its own rounding. -/
theorem roundToBits_eq_self {n : ℕ} (digits : 0 < bits) (few : n < 2 ^ bits) (e : ℕ)
    (positive : 0 < den)
    : roundToBits bits (n * 2 ^ e * den) den = n * 2 ^ e := by
  obtain ⟨g, scale, gap⟩ := exists_scale digits (n * 2 ^ e * den) positive
  have fine : g ≤ e := by
    refine scale.le_of_lt (Nat.mul_lt_mul_of_pos_right ?_ positive)
    rw [Nat.pow_add]
    exact Nat.mul_lt_mul_of_pos_right few (Nat.two_pow_pos e)
  obtain ⟨more, rfl⟩ := Nat.exists_eq_add_of_le fine
  have gaps : n * 2 ^ (g + more) * den = n * 2 ^ more * (den * 2 ^ g) := by ring
  rw [roundToBits_eq gap, gaps,
    roundHalfEven_mul _ (Nat.mul_pos positive (Nat.two_pow_pos g))]
  ring

/-- Rounding crosses no power of two. -/
theorem roundToBits_le_two_pow (digits : 0 < bits) (positive : 0 < den)
    (h : num ≤ 2 ^ e * den)
    : roundToBits bits num den ≤ 2 ^ e := by
  have fixed := roundToBits_eq_self digits (Nat.one_lt_two_pow digits.ne') e positive
  rw [Nat.one_mul] at fixed
  exact fixed ▸ roundToBits_mono digits positive h

theorem two_pow_le_roundToBits (digits : 0 < bits) (positive : 0 < den)
    (h : 2 ^ e * den ≤ num)
    : 2 ^ e ≤ roundToBits bits num den := by
  have fixed := roundToBits_eq_self digits (Nat.one_lt_two_pow digits.ne') e positive
  rw [Nat.one_mul] at fixed
  exact fixed ▸ roundToBits_mono digits positive h

/-- A quotient is moved by half a gap at most. -/
theorem roundToBits_error (digits : 0 < bits) (positive : 0 < den)
    (h : num < 2 ^ (bits + e) * den)
    : |(roundToBits bits num den : ℚ) - num / den| ≤ 2 ^ e / 2 := by
  obtain ⟨g, scale, gap⟩ := exists_scale digits num positive
  have near := (nearestEven_roundHalfEven num (Nat.mul_pos positive (Nat.two_pow_pos g))).near
  have wide : (0 : ℚ) < 2 ^ g := by positivity
  have fine : (2 : ℚ) ^ g ≤ 2 ^ e := pow_le_pow_right₀ (by norm_num) (scale.le_of_lt h)
  have exact : (num : ℚ) / den = num / (den * 2 ^ g : ℕ) * 2 ^ g := by
    have nonzero : (den : ℚ) ≠ 0 := by exact_mod_cast positive.ne'
    push_cast
    field_simp
  rw [roundToBits_eq gap, Nat.cast_mul, Nat.cast_pow, Nat.cast_ofNat, exact, ← sub_mul, abs_mul,
    abs_sub_comm, abs_of_pos wide]
  calc
    |(num : ℚ) / (den * 2 ^ g : ℕ) - roundHalfEven num (den * 2 ^ g)| * 2 ^ g
        ≤ 1 / 2 * 2 ^ g := mul_le_mul_of_nonneg_right near wide.le
    _ ≤ 2 ^ e / 2 := by linarith

/-- A quotient is rounded to less than a power of two if it is more than half a gap below it.
The power has an even count of gaps, so what is just half a gap below goes up.
-/
theorem roundToBits_lt_iff (digits : 0 < bits) (num : ℕ) (positive : 0 < den) (e : ℕ)
    : roundToBits bits num den < 2 ^ (bits + e)
      ↔ 2 * num + 2 ^ e * den < 2 ^ (bits + e + 1) * den := by
  obtain ⟨g, scale, gap⟩ := exists_scale digits num positive
  rcases Nat.lt_trichotomy g e with finer | rfl | wider
  · have less : roundToBits bits num den < 2 ^ (bits + e) :=
      calc
        roundToBits bits num den ≤ 2 ^ (bits + g) :=
          roundToBits_le_two_pow digits positive scale.below.le
        _ < 2 ^ (bits + e) := Nat.pow_lt_pow_right (by omega) (by omega)
    have far : 2 * num + 2 ^ e * den < 2 ^ (bits + e + 1) * den :=
      calc
        2 * num + 2 ^ e * den < 2 * (2 ^ (bits + g) * den) + 2 ^ e * den := by
          have below := scale.below
          omega
        _ = 2 ^ (bits + g + 1) * den + 2 ^ e * den := by ring
        _ ≤ 2 ^ (bits + e) * den + 2 ^ (bits + e) * den :=
          Nat.add_le_add
            (Nat.mul_le_mul_right _ (Nat.pow_le_pow_right (by omega) (by omega)))
            (Nat.mul_le_mul_right _ (Nat.pow_le_pow_right (by omega) (by omega)))
        _ = 2 ^ (bits + e + 1) * den := by ring
    exact iff_of_true less far
  · have even : Even (2 ^ bits) := Nat.even_pow.mpr ⟨even_two, digits.ne'⟩
    have power : 2 * 2 ^ bits * (den * 2 ^ g) = 2 ^ (bits + g + 1) * den := by ring
    rw [roundToBits_eq gap, Nat.pow_add, Nat.mul_lt_mul_right (Nat.two_pow_pos g),
      roundHalfEven_lt_iff num (Nat.mul_pos positive (Nat.two_pow_pos g)) even, power,
      Nat.mul_comm den]
  · have near : 2 ^ (bits + e + 1) * den ≤ 2 * num :=
      calc
        2 ^ (bits + e + 1) * den ≤ 2 ^ (bits + g) * den :=
          Nat.mul_le_mul_right _ (Nat.pow_le_pow_right (by omega) (by omega))
        _ ≤ 2 * num := scale.filled.resolve_left (by omega)
    have more : 2 ^ (bits + e) ≤ roundToBits bits num den := by
      refine two_pow_le_roundToBits digits positive ?_
      rw [Nat.pow_succ, Nat.mul_comm _ 2, Nat.mul_assoc] at near
      exact Nat.le_of_mul_le_mul_left near Nat.two_pos
    exact iff_of_false (Nat.not_lt.mpr more)
      (Nat.not_lt.mpr (near.trans (Nat.le_add_right _ _)))

end CssMinifier.Number
