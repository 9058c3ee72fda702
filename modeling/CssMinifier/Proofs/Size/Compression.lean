import CssMinifier.Proofs.Number.Numeral
import CssMinifier.Size

/-! Shares of a size. What is printed for the share that was saved has the sign of what was
saved, falls as the output grows, and is the exact share up to the rounding to one decimal place
and a little for the rounding of the quotient.
-/

namespace CssMinifier.Size

open CssMinifier.Number
open CssMinifier.Number.Binary64

/-- The number of percent that the text of a share shows. -/
def share? (text : String) : Option (WithBotTop ℚ) :=
  if text.toList.getLast? = some '%' then
    Numeral.extended? text.toList.dropLast
  else
    none

/-- The units of a hundred times a quotient. -/
def percentUnits (num den : ℕ) : ℕ :=
  roundToBits 53 (unitsOfRatio num den * 100) 1

-----------------------------------------------------------------------------------------
-- The text of a share
-----------------------------------------------------------------------------------------

theorem share?_toOneDecimal (negative : Bool) (units : ℕ)
    : share? ((ofUnits negative units).toOneDecimal ++ "%")
      = some (Numeral.printed negative units) := by
  have sign : ("%" : String).toList = ['%'] := rfl
  simp only [share?, String.toList_append, sign, List.getLast?_concat, List.dropLast_concat,
    if_true, Numeral.extended?_toOneDecimal]

example : share? "-0.5%" = some ((-1 / 2 : ℚ) : WithBotTop ℚ) := by
  decide +kernel

theorem compression?_zero (minified : ℤ)
    : compression? 0 minified = some ((ofUnits false 0).toOneDecimal ++ "%") := by
  have range : 0 < limit := by decide +kernel
  rw [compression?, percentage?, if_pos rfl, ofUnits, if_pos range, Option.map_some]

/-- A share has a text if the quotient is in range, and the sign of what was saved. -/
theorem compression?_eq_some_iff {source minified : ℤ} (positive : 0 < source) {text : String}
    : compression? source minified = some text
      ↔ unitsOfRatio (source - minified).natAbs source.natAbs < limit
        ∧ (ofUnits (decide (source - minified < 0))
              (percentUnits (source - minified).natAbs source.natAbs)).toOneDecimal
            ++ "%"
          = text := by
  have sign : decide (source < 0) = false := decide_eq_false (by omega)
  simp only [compression?, percentage?, if_neg positive.ne', quotient?, sign, Bool.xor_false]
  split
  · next range => simp [range, scale, percentUnits]
  · next range => simp [range]

-----------------------------------------------------------------------------------------
-- The rounding of a share
-----------------------------------------------------------------------------------------

variable {num num' den : ℕ}

theorem percentUnits_mono (positive : 0 < den) (h : num ≤ num')
    : percentUnits num den ≤ percentUnits num' den :=
  roundToBits_mono (by omega) Nat.one_pos (Nat.mul_le_mul_right 100 (unitsOfRatio_mono positive h))

theorem unitsOfRatio_le_one (positive : 0 < den) (h : num ≤ den)
    : unitsOfRatio num den ≤ one := by
  have whole := unitsOfRatio_mul (n := 1) (by omega) positive
  rw [Nat.one_mul, Nat.one_mul] at whole
  exact whole ▸ unitsOfRatio_mono positive h

theorem percentUnits_le (positive : 0 < den) (h : num ≤ den)
    : percentUnits num den ≤ 100 * one := by
  have hundred : roundToBits 53 (100 * one * 1) 1 = 100 * one := by
    rw [one_eq]
    exact roundToBits_eq_self (by omega) (by omega) 1074 Nat.one_pos
  calc
    percentUnits num den ≤ roundToBits 53 (100 * one * 1) 1 := by
      refine roundToBits_mono (by omega) Nat.one_pos ?_
      rw [Nat.mul_one, Nat.mul_comm]
      exact Nat.mul_le_mul_left 100 (unitsOfRatio_le_one positive h)
    _ = 100 * one := hundred

theorem hundred_lt_limit : 100 * one < limit := by
  decide +kernel

/-- Below one a quotient is moved by half of 2^1022 units at most. -/
theorem unitsOfRatio_error (positive : 0 < den) (h : num ≤ den)
    : |(unitsOfRatio num den : ℚ) - num / den * one| ≤ 2 ^ 1022 / 2 := by
  have below : num * one < 2 ^ (53 + 1022) * den := by
    calc
      num * one ≤ den * one := Nat.mul_le_mul_right one h
      _ < den * 2 ^ (53 + 1022) := by
        rw [one_eq]
        exact Nat.mul_lt_mul_of_pos_left (pow_lt_pow_right₀ (by omega) (by omega)) positive
      _ = 2 ^ (53 + 1022) * den := Nat.mul_comm _ _
  have error := roundToBits_error (by omega) positive below
  rwa [Nat.cast_mul, mul_div_right_comm] at error

/-- A hundred times a number up to one is moved by half of 2^1028 units at most. -/
theorem percentUnits_scale_error (positive : 0 < den) (h : num ≤ den)
    : |(percentUnits num den : ℚ) - 100 * unitsOfRatio num den| ≤ 2 ^ 1028 / 2 := by
  have below : unitsOfRatio num den * 100 < 2 ^ (53 + 1028) * 1 := by
    calc
      unitsOfRatio num den * 100 ≤ one * 100 :=
        Nat.mul_le_mul_right 100 (unitsOfRatio_le_one positive h)
      _ < one * 2 ^ 7 := Nat.mul_lt_mul_of_pos_left (by omega) Binary64.one_pos
      _ = 2 ^ (53 + 1028) * 1 := by rw [one_eq, ← pow_add, Nat.mul_one]
  have error := roundToBits_error (by omega) Nat.one_pos below
  rwa [Nat.cast_mul, Nat.cast_one, div_one, Nat.cast_ofNat, mul_comm (unitsOfRatio num den : ℚ)]
    at error

theorem percentUnits_error (positive : 0 < den) (h : num ≤ den)
    : |(percentUnits num den : ℚ) / one - 100 * (num / den)| ≤ 1 / 2 ^ 45 := by
  have quotient := unitsOfRatio_error positive h
  have percent := percentUnits_scale_error positive h
  have wide : (0 : ℚ) < 2 ^ 1022 := pow_pos two_pos 1022
  have scaled (k : ℕ) : (2 : ℚ) ^ (k + 1022) = 2 ^ k * 2 ^ 1022 := pow_add 2 k 1022
  have gap : (2 : ℚ) ^ 1028 = 2 ^ 6 * 2 ^ 1022 := scaled 6
  have unit : (one : ℚ) = 2 ^ 52 * 2 ^ 1022 := by
    rw [one_eq, Nat.cast_pow, Nat.cast_ofNat]
    exact scaled 52
  rw [gap] at percent
  rw [unit] at quotient ⊢
  generalize (2 : ℚ) ^ 1022 = p at *
  have total : |(percentUnits num den : ℚ) - 100 * (num / den) * (2 ^ 52 * p)| ≤ 82 * p := by
    rw [abs_le] at quotient percent ⊢
    constructor <;> linarith
  have positive' : 0 < 2 ^ 52 * p := mul_pos (by norm_num) wide
  have whole : (percentUnits num den : ℚ) / (2 ^ 52 * p) - 100 * (num / den)
      = (percentUnits num den - 100 * (num / den) * (2 ^ 52 * p)) / (2 ^ 52 * p) := by
    rw [sub_div, mul_div_cancel_right₀ _ positive'.ne']
  rw [whole, abs_div, abs_of_pos positive', div_le_iff₀ positive']
  calc
    |(percentUnits num den : ℚ) - 100 * (num / den) * (2 ^ 52 * p)| ≤ 82 * p := total
    _ ≤ 128 * p := by linarith only [wide]
    _ = 1 / 2 ^ 45 * (2 ^ 52 * p) := by ring

/-- Up to a hundred percent are printed, half a tenth and a little more off at most. -/
theorem tenths_percentUnits (positive : 0 < den) (h : num ≤ den)
    : tenths (percentUnits num den) ≤ 1000
      ∧ |(tenths (percentUnits num den) / 10 : ℚ) - 100 * (num / den)| ≤ 1 / 20 + 1 / 2 ^ 45 := by
  constructor
  · have hundred : tenths (100 * one) = 1000 := tenths_mul 100
    exact hundred ▸ tenths_mono (percentUnits_le positive h)
  · have error := percentUnits_error positive h
    have near := (nearestEven_tenths (percentUnits num den)).near
    generalize (percentUnits num den : ℚ) / one = units at *
    rw [abs_le] at error near ⊢
    constructor <;> linarith

-----------------------------------------------------------------------------------------
-- What printed shares say
-----------------------------------------------------------------------------------------

/-- Where nothing was lost, the share that was saved is in range. -/
theorem saved_in_range {source minified : ℤ} (positive : 0 < source) (natural : 0 ≤ minified)
    (h : minified ≤ source)
    : unitsOfRatio (source - minified).natAbs source.natAbs < limit
      ∧ percentUnits (source - minified).natAbs source.natAbs < limit := by
  have filled : 0 < source.natAbs := Int.natAbs_pos.mpr positive.ne'
  have less : (source - minified).natAbs ≤ source.natAbs := by omega
  refine ⟨?_, (percentUnits_le filled less).trans_lt hundred_lt_limit⟩
  calc
    unitsOfRatio (source - minified).natAbs source.natAbs ≤ one := unitsOfRatio_le_one filled less
    _ ≤ 100 * one := Nat.le_mul_of_pos_left one (by omega)
    _ < limit := hundred_lt_limit

/-- Where nothing was lost, the share that was saved is printed, and without a sign. -/
theorem compression?_of_le {source minified : ℤ} (natural : 0 ≤ minified)
    (h : minified ≤ source)
    : ∃ share, compression? source minified = some share ∧ share.toList.head? ≠ some '-' := by
  rcases (natural.trans h).eq_or_lt with rfl | positive
  · refine ⟨_, compression?_zero minified, ?_⟩
    exact (Numeral.head?_toOneDecimal false 0 "%").not.mpr Bool.false_ne_true
  · refine ⟨_, (compression?_eq_some_iff positive).mpr
      ⟨(saved_in_range positive natural h).1, rfl⟩, ?_⟩
    have unsigned : ¬ source - minified < 0 := by omega
    exact (Numeral.head?_toOneDecimal _ _ "%").not.mpr (decide_eq_true_iff.not.mpr unsigned)

/-- The printed share starts with a minus if and only if bytes were added; it falls as the output
grows; and where nothing was lost it is printed, from 0 to 100 percent and as good as exact. The
quotient and its hundredfold are both rounded before the share is, so half a tenth alone is no
bound.
-/
theorem compression_shows_share {source : ℤ} (positive : 0 < source)
    : (∀ minified text,
        compression? source minified = some text
        → (text.toList.head? = some '-' ↔ source < minified))
      ∧ (∀ fewer more text text',
        fewer ≤ more
        → compression? source fewer = some text
        → compression? source more = some text'
        → ∃ share share',
            share? text = some share ∧ share? text' = some share' ∧ share' ≤ share)
      ∧ ∀ minified,
        0 ≤ minified
        → minified ≤ source
        → ∃ text, ∃ share : ℚ,
            compression? source minified = some text
            ∧ share? text = some (share : WithBotTop ℚ)
            ∧ 0 ≤ share
            ∧ share ≤ 100
            ∧ |share - 100 * (source - minified) / source| ≤ 1 / 20 + 1 / 2 ^ 45 := by
  refine ⟨?_, ?_, ?_⟩
  · intro minified text printed
    obtain ⟨_, rfl⟩ := (compression?_eq_some_iff positive).mp printed
    rw [Numeral.head?_toOneDecimal, decide_eq_true_eq]
    omega
  · intro fewer more text text' h printed printed'
    obtain ⟨_, rfl⟩ := (compression?_eq_some_iff positive).mp printed
    obtain ⟨_, rfl⟩ := (compression?_eq_some_iff positive).mp printed'
    refine ⟨_, _, share?_toOneDecimal _ _, share?_toOneDecimal _ _, ?_⟩
    exact Numeral.printed_mono (percentUnits_mono (Int.natAbs_pos.mpr positive.ne')) (by omega)
  · intro minified natural h
    obtain ⟨range, range'⟩ := saved_in_range positive natural h
    have filled : 0 < source.natAbs := Int.natAbs_pos.mpr positive.ne'
    have less : (source - minified).natAbs ≤ source.natAbs := by omega
    obtain ⟨most, near⟩ := tenths_percentUnits filled less
    have unsigned : decide (source - minified < 0) = false := decide_eq_false (by omega)
    have saved : ((source - minified).natAbs : ℚ) = source - minified := by
      rw [Nat.cast_natAbs, abs_of_nonneg (by omega), Int.cast_sub]
    have size : (source.natAbs : ℚ) = source := by
      rw [Nat.cast_natAbs, abs_of_pos positive]
    refine ⟨_, tenths (percentUnits (source - minified).natAbs source.natAbs) / 10,
      (compression?_eq_some_iff positive).mpr ⟨range, rfl⟩, ?_, ?_, ?_, ?_⟩
    · rw [share?_toOneDecimal, unsigned, Numeral.printed_of_lt range']
      rfl
    · exact tenths_div_nonneg _
    · have few
          : (tenths (percentUnits (source - minified).natAbs source.natAbs) : ℚ) ≤ 1000 := by
        exact_mod_cast most
      linarith only [few]
    · rwa [saved, size, ← mul_div_assoc] at near

/-- Two thirds of three bytes are 66.7 percent, within the bounds of every source. -/
theorem compression_shows_share_thirds
    : (0 : ℤ) < 3
      ∧ compression? 3 1 = some "66.7%"
      ∧ (∀ minified text,
        compression? 3 minified = some text
        → (text.toList.head? = some '-' ↔ 3 < minified))
      ∧ (∀ fewer more text text',
        fewer ≤ more
        → compression? 3 fewer = some text
        → compression? 3 more = some text'
        → ∃ share share',
            share? text = some share ∧ share? text' = some share' ∧ share' ≤ share)
      ∧ ∀ minified,
        0 ≤ minified
        → minified ≤ 3
        → ∃ text, ∃ share : ℚ,
            compression? 3 minified = some text
            ∧ share? text = some (share : WithBotTop ℚ)
            ∧ 0 ≤ share
            ∧ share ≤ 100
            ∧ |share - 100 * ((3 : ℤ) - minified) / (3 : ℤ)| ≤ 1 / 20 + 1 / 2 ^ 45 := by
  have positive : (0 : ℤ) < 3 := by decide
  have thirds : compression? 3 1 = some "66.7%" := by decide +kernel
  exact ⟨positive, thirds, compression_shows_share positive⟩

end CssMinifier.Size
