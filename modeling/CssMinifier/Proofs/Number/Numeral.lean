import CssMinifier.Number.Reading
import CssMinifier.Proofs.Number.Quotient
import CssMinifier.Proofs.Text.Fields
import Mathlib.Data.List.TakeWhile
import Mathlib.Order.WithBotTop

/-! Numerals read back. What a text of decimal digits denotes is a rational number, without any
rounding; the words for infinity denote the infinite ones. The numerals of printed numbers are
in the order of the numbers.
-/

namespace CssMinifier.Number

open Reading

/-- The value of a decimal. -/
def Decimal.value (d : Decimal) : ℚ :=
  d.digits * (10 : ℚ) ^ d.exponent

/-- A number with a sign in front. -/
def withSign (negative : Bool) (x : ℚ) : ℚ :=
  if negative then -x else x

namespace Numeral

/-- The number that a numeral denotes. -/
def rational? (text : List Char) : Option ℚ :=
  let (negative, unsigned) := signed text
  (decimal? unsigned).map fun d => withSign negative d.value

/-- The number that a numeral denotes, or the infinite one that a word does. -/
def extended? (text : List Char) : Option (WithBotTop ℚ) :=
  if text = ['i', 'n', 'f'] then
    some ⊤
  else if text = ['-', 'i', 'n', 'f'] then
    some ⊥
  else
    (rational? text).map fun x => (x : WithBotTop ℚ)

/-- The numeral of a count of tenths. -/
def ofTenths (negative : Bool) (tenths : ℕ) : String :=
  Binary64.signText negative ++ toString (tenths / 10) ++ "." ++ toString (tenths % 10)

-----------------------------------------------------------------------------------------
-- Decimal digits
-----------------------------------------------------------------------------------------

theorem isDigit_toDigits (n : ℕ)
    : ∀ c ∈ Nat.toDigits 10 n, c.isDigit = true :=
  fun _ member => Nat.isDigit_of_mem_toDigits (by omega) (by omega) member

theorem value_eq (digits : List Char)
    : Reading.value digits = Nat.ofDigitChars 10 digits 0 := by
  simp only [Reading.value, Nat.ofDigitChars_eq_foldl, Nat.mul_comm 10]
  rfl

theorem value_toDigits_append (n : ℕ) {d : ℕ} (h : d < 10)
    : Reading.value (Nat.toDigits 10 n ++ Nat.toDigits 10 d) = 10 * n + d := by
  rw [value_eq, Nat.ofDigitChars_append, Nat.ofDigitChars_ten_toDigits,
    Nat.toDigits_of_lt_base h, Nat.ofDigitChars_cons_digitChar_of_lt_ten h, Nat.ofDigitChars_nil]

theorem decimal?_toDigits (n : ℕ)
    : decimal? (Nat.toDigits 10 n) = some ⟨n, 0⟩ := by
  have digits := isDigit_toDigits n
  have parts : mantissa (Nat.toDigits 10 n) = (Nat.toDigits 10 n, [], []) := by
    rw [mantissa, List.takeWhile_eq_self_iff.mpr digits, List.dropWhile_eq_nil_iff.mpr digits]
  simp [decimal?, parts, Nat.toDigits_ne_nil, exponent?, value_eq]

theorem decimal?_point (n : ℕ) {d : ℕ} (h : d < 10)
    : decimal? (Nat.toDigits 10 n ++ '.' :: Nat.toDigits 10 d) = some ⟨10 * n + d, -1⟩ := by
  have point : Char.isDigit '.' = false := rfl
  have whole := isDigit_toDigits n
  have fraction := isDigit_toDigits d
  have parts : mantissa (Nat.toDigits 10 n ++ '.' :: Nat.toDigits 10 d)
      = (Nat.toDigits 10 n, Nat.toDigits 10 d, []) := by
    rw [mantissa, Text.takeWhile_append_stop point, Text.dropWhile_append_stop point,
      List.takeWhile_eq_self_iff.mpr whole, List.dropWhile_eq_nil_iff.mpr whole, List.nil_append]
    simp only [List.takeWhile_eq_self_iff.mpr fraction, List.dropWhile_eq_nil_iff.mpr fraction]
  have single : (Nat.toDigits 10 d).length = 1 := by
    rw [Nat.toDigits_of_lt_base h, List.length_singleton]
  simp [decimal?, parts, Nat.toDigits_ne_nil, exponent?, value_toDigits_append n h, single]

-----------------------------------------------------------------------------------------
-- Signs
-----------------------------------------------------------------------------------------

theorem head?_toDigits_append (n : ℕ) (rest : List Char)
    : ∀ c ∈ (Nat.toDigits 10 n ++ rest).head?, c.isDigit = true := by
  obtain ⟨first, more, digits⟩ :=
    List.exists_cons_of_ne_nil (Nat.toDigits_ne_nil (n := n) (b := 10))
  have member : first ∈ Nat.toDigits 10 n := digits ▸ List.mem_cons_self
  rw [digits, List.cons_append, List.head?_cons]
  intro c found
  exact Option.some.inj found ▸ isDigit_toDigits n first member

theorem signed_signText (negative : Bool) {text : List Char}
    (h : ∀ c ∈ text.head?, c.isDigit = true)
    : signed ((Binary64.signText negative).toList ++ text) = (negative, text) := by
  cases negative with
  | true => rfl
  | false =>
      change signed text = (false, text)
      fun_cases signed text with
      | case1 rest => cases h '-' rfl
      | case2 rest => cases h '+' rfl
      | case3 => rfl

theorem toList_ofTenths (negative : Bool) (tenths : ℕ)
    : (ofTenths negative tenths).toList
      = (Binary64.signText negative).toList
        ++ (Nat.toDigits 10 (tenths / 10) ++ '.' :: Nat.toDigits 10 (tenths % 10)) := by
  simp [ofTenths, Nat.toList_repr]

theorem rational?_ofTenths (negative : Bool) (tenths : ℕ)
    : rational? (ofTenths negative tenths).toList = some (withSign negative (tenths / 10)) := by
  have value : (⟨10 * (tenths / 10) + tenths % 10, -1⟩ : Decimal).value = tenths / 10 := by
    rw [Decimal.value, Nat.div_add_mod, zpow_neg_one, div_eq_mul_inv]
  rw [rational?, toList_ofTenths, signed_signText negative (head?_toDigits_append _ _)]
  simp only [decimal?_point _ (Nat.mod_lt tenths (by omega : 0 < 10)), Option.map_some, value]

theorem rational?_digits (negative : Bool) (n : ℕ)
    : rational? ((Binary64.signText negative).toList ++ Nat.toDigits 10 n)
      = some (withSign negative n) := by
  have digits := head?_toDigits_append n []
  rw [List.append_nil] at digits
  rw [rational?, signed_signText negative digits]
  simp only [decimal?_toDigits, Decimal.value, zpow_zero, mul_one, Option.map_some]

theorem toList_toString (n : ℤ)
    : (toString n).toList
      = (Binary64.signText (decide (n < 0))).toList ++ Nat.toDigits 10 n.natAbs := by
  cases n with
  | ofNat n => exact Nat.toList_repr
  | negSucc n =>
      change ("-" ++ Nat.repr (n + 1)).toList = _
      rw [String.toList_append, Nat.toList_repr, decide_eq_true (Int.negSucc_lt_zero n)]
      rfl

theorem rational?_toString (n : ℤ)
    : rational? (toString n).toList = some (n : ℚ) := by
  have value : withSign (decide (n < 0)) n.natAbs = n := by
    rw [withSign, Nat.cast_natAbs]
    split
    · next negative =>
        rw [abs_of_neg (of_decide_eq_true negative), Int.cast_neg, neg_neg]
    · next natural =>
        rw [abs_of_nonneg (not_lt.mp (of_decide_eq_false (Bool.eq_false_of_not_eq_true natural)))]
  rw [toList_toString, rational?_digits, value]

theorem space_not_mem_toDigits (n : ℕ)
    : ' ' ∉ Nat.toDigits 10 n := by
  intro member
  cases isDigit_toDigits n ' ' member

theorem space_not_mem_toString (n : ℤ)
    : ' ' ∉ (toString n).toList := by
  rw [toList_toString]
  cases decide (n < 0) <;> simp [Binary64.signText, space_not_mem_toDigits]

theorem space_not_mem_ofTenths (negative : Bool) (tenths : ℕ)
    : ' ' ∉ (ofTenths negative tenths).toList := by
  rw [toList_ofTenths]
  cases negative <;> simp [Binary64.signText, space_not_mem_toDigits]

-----------------------------------------------------------------------------------------
-- Numerals of floating-point numbers
-----------------------------------------------------------------------------------------

/-- The number that a count of units is printed as. -/
def printed (negative : Bool) (units : ℕ) : WithBotTop ℚ :=
  if units < Binary64.limit then
    (withSign negative (Binary64.tenths units / 10) : ℚ)
  else if negative then
    ⊥
  else
    ⊤

theorem extended?_ofTenths (negative : Bool) (tenths : ℕ)
    : extended? (ofTenths negative tenths).toList
      = some (withSign negative (tenths / 10) : ℚ) := by
  have read := rational?_ofTenths negative tenths
  have noWord (word : List Char) (h : rational? word = none)
      : (ofTenths negative tenths).toList ≠ word := by
    intro same
    rw [same, h] at read
    cases read
  rw [extended?, if_neg (noWord _ (by decide)), if_neg (noWord _ (by decide)), read]
  rfl

theorem extended?_toOneDecimal (negative : Bool) (units : ℕ)
    : extended? (Binary64.ofUnits negative units).toOneDecimal.toList
      = some (printed negative units) := by
  rw [Binary64.ofUnits, printed]
  split
  · exact extended?_ofTenths negative (Binary64.tenths units)
  · cases negative <;> rfl

/-- The text of a number starts with its sign, also if the number is printed as zero. -/
theorem head?_toOneDecimal (negative : Bool) (units : ℕ) (rest : String)
    : ((Binary64.ofUnits negative units).toOneDecimal ++ rest).toList.head? = some '-'
      ↔ negative = true := by
  have text
      : ∃ behind,
          (Binary64.ofUnits negative units).toOneDecimal.toList
            = (Binary64.signText negative).toList ++ behind
          ∧ (behind ++ rest.toList).head? ≠ some '-' := by
    rw [Binary64.ofUnits]
    split
    · refine ⟨_, toList_ofTenths negative (Binary64.tenths units), ?_⟩
      rw [List.append_assoc]
      intro sign
      cases head?_toDigits_append _ _ '-' sign
    · exact ⟨['i', 'n', 'f'], by rw [Binary64.toOneDecimal, String.toList_append]; rfl, by simp⟩
  obtain ⟨behind, same, bare⟩ := text
  rw [String.toList_append, same, List.append_assoc]
  cases negative with
  | true => exact iff_of_true rfl rfl
  | false => exact iff_of_false bare Bool.false_ne_true

-----------------------------------------------------------------------------------------
-- Order of printed numbers
-----------------------------------------------------------------------------------------

theorem printed_of_lt {negative : Bool} {units : ℕ} (range : units < Binary64.limit)
    : printed negative units
      = (withSign negative (Binary64.tenths units / 10) : ℚ) :=
  if_pos range

theorem printed_false_of_le {units : ℕ} (range : Binary64.limit ≤ units)
    : printed false units = ⊤ :=
  if_neg (Nat.not_lt.mpr range)

theorem printed_true_of_le {units : ℕ} (range : Binary64.limit ≤ units)
    : printed true units = ⊥ :=
  if_neg (Nat.not_lt.mpr range)

theorem printed_false_mono {units units' : ℕ} (h : units ≤ units')
    : printed false units ≤ printed false units' := by
  rcases Nat.lt_or_ge units' Binary64.limit with range | range
  · rw [printed_of_lt range, printed_of_lt (h.trans_lt range), WithBotTop.coe_le_coe]
    exact Binary64.tenths_div_mono h
  · rw [printed_false_of_le range]
    exact le_top

theorem printed_true_antitone {units units' : ℕ} (h : units ≤ units')
    : printed true units' ≤ printed true units := by
  rcases Nat.lt_or_ge units' Binary64.limit with range | range
  · rw [printed_of_lt range, printed_of_lt (h.trans_lt range), WithBotTop.coe_le_coe]
    exact neg_le_neg (Binary64.tenths_div_mono h)
  · rw [printed_true_of_le range]
    exact bot_le

theorem printed_true_le_printed_false (units units' : ℕ)
    : printed true units ≤ printed false units' := by
  rcases Nat.lt_or_ge units Binary64.limit with range | range
  · rcases Nat.lt_or_ge units' Binary64.limit with range' | range'
    · rw [printed_of_lt range, printed_of_lt range', WithBotTop.coe_le_coe]
      exact (neg_nonpos.mpr (Binary64.tenths_div_nonneg units)).trans
        (Binary64.tenths_div_nonneg units')
    · rw [printed_false_of_le range']
      exact le_top
  · rw [printed_true_of_le range]
    exact bot_le

/-- Signed numbers are printed in their order if their units grow with their size. -/
theorem printed_mono {units : ℕ → ℕ} (grows : ∀ {m n}, m ≤ n → units m ≤ units n) {m n : ℤ}
    (h : m ≤ n)
    : printed (decide (m < 0)) (units m.natAbs) ≤ printed (decide (n < 0)) (units n.natAbs) := by
  rcases lt_or_ge m 0 with negative | positive
  · rw [decide_eq_true negative]
    rcases lt_or_ge n 0 with negative' | positive'
    · rw [decide_eq_true negative']
      exact printed_true_antitone (grows (by omega))
    · rw [decide_eq_false (Int.not_lt.mpr positive')]
      exact printed_true_le_printed_false _ _
  · rw [decide_eq_false (Int.not_lt.mpr positive),
      decide_eq_false (Int.not_lt.mpr (positive.trans h))]
    exact printed_false_mono (grows (by omega))

end Numeral

end CssMinifier.Number
