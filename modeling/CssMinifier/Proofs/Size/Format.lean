import CssMinifier.Proofs.Number.Numeral
import CssMinifier.Size

/-! Sizes with a unit. Below 2^53 bytes the numeral is the exact number of kilobytes or
megabytes, rounded once. Read back in bytes, printed sizes are in the order of the sizes, also
where the unit changes. Only sizes that are out of range as megabytes are not printed.
-/

namespace CssMinifier.Size

open CssMinifier.Number
open CssMinifier.Number.Binary64
open CssMinifier.Text

/-- The bytes in a unit. -/
def unit? (name : List Char) : Option ℚ :=
  if name = ['B'] then
    some 1
  else if name = ['K', 'B'] then
    some 1024
  else if name = ['M', 'B'] then
    some (1024 * 1024)
  else
    none

/-- The number of bytes that the text of a size shows. -/
def bytes? (text : String) : Option ℚ := do
  let number ← Numeral.rational? (before ' ' text.toList)
  let unit ← unit? (behind ' ' text.toList)
  return number * unit

-----------------------------------------------------------------------------------------
-- The text of a size
-----------------------------------------------------------------------------------------

theorem bytes?_append {numeral unit : String} {name : List Char} {number factor : ℚ}
    (bare : ' ' ∉ numeral.toList) (read : Numeral.rational? numeral.toList = some number)
    (parted : unit.toList = ' ' :: name) (known : unit? name = some factor)
    : bytes? (numeral ++ unit) = some (number * factor) := by
  simp [bytes?, parted, bare, read, known]

theorem bytes?_ofTenths {unit : String} {name : List Char} {factor : ℚ} (tenths : ℕ)
    (parted : unit.toList = ' ' :: name) (known : unit? name = some factor)
    : bytes? (Numeral.ofTenths false tenths ++ unit) = some (tenths / 10 * factor) :=
  bytes?_append (Numeral.space_not_mem_ofTenths false tenths)
    (Numeral.rational?_ofTenths false tenths) parted known

example : bytes? "1.5 KB" = some 1536 := by
  decide +kernel

theorem format?_bytes {bytes : ℤ} (below : bytes < 1024)
    : format? bytes = some (toString bytes ++ " B") :=
  if_pos below

theorem format?_kilobytes {bytes : ℕ} (least : 1024 ≤ bytes) (below : bytes < 1024 * 1024)
    : format? bytes
      = some (Numeral.ofTenths false (tenths (unitsOfRatio bytes 1024)) ++ " KB") := by
  have unit : kilobyte = (1024 : ℕ) := rfl
  have near : 1024 ≤ reach := by decide +kernel
  have range := unitsOfRatio_lt_limit near (by omega : 0 < 1024) below.le
  have least' : ¬ (bytes : ℤ) < kilobyte := by
    rw [unit]
    omega
  have below' : (bytes : ℤ) < megabyte := by
    rw [megabyte]
    omega
  rw [format?, if_neg least', if_pos below', unit, quotient?_natCast, if_pos range]
  rfl

theorem format?_megabytes {bytes : ℕ} (least : 1024 * 1024 ≤ bytes)
    : format? bytes
      = if unitsOfRatio bytes (1024 * 1024) < limit then
          some (Numeral.ofTenths false (tenths (unitsOfRatio bytes (1024 * 1024))) ++ " MB")
        else
          none := by
  have unit : megabyte = (1024 * 1024 : ℕ) := rfl
  have least' : ¬ (bytes : ℤ) < kilobyte := by
    rw [kilobyte]
    omega
  have least'' : ¬ (bytes : ℤ) < megabyte := by
    rw [megabyte]
    omega
  rw [format?, if_neg least', if_neg least'', unit, quotient?_natCast]
  split <;> rfl

-----------------------------------------------------------------------------------------
-- The bytes that are printed
-----------------------------------------------------------------------------------------

/-- The bytes that are printed of a size that is counted in units. -/
def rounded (bytes unit : ℕ) : ℚ :=
  tenths (unitsOfRatio bytes unit) / 10 * unit

/-- The bytes that are printed of a size. -/
def printedBytes (bytes : ℤ) : ℚ :=
  if bytes < 1024 then
    bytes
  else if bytes < 1024 * 1024 then
    rounded bytes.toNat 1024
  else
    rounded bytes.toNat (1024 * 1024)

theorem rounded_mono {bytes bytes' unit : ℕ} (positive : 0 < unit) (h : bytes ≤ bytes')
    : rounded bytes unit ≤ rounded bytes' unit :=
  mul_le_mul_of_nonneg_right (tenths_div_mono (unitsOfRatio_mono positive h))
    (Nat.cast_nonneg unit)

theorem rounded_mul {n unit : ℕ} (few : n < 2 ^ 53) (positive : 0 < unit)
    : rounded (n * unit) unit = n * unit := by
  rw [rounded, unitsOfRatio_mul few positive, tenths_mul, Nat.cast_mul, Nat.cast_ofNat,
    mul_div_cancel_left₀ _ (by norm_num)]

theorem le_rounded {bytes unit : ℕ} (positive : 0 < unit) (h : unit ≤ bytes)
    : (unit : ℚ) ≤ rounded bytes unit := by
  have whole := rounded_mul (n := 1) (by omega) positive
  rw [Nat.one_mul, Nat.cast_one, one_mul] at whole
  exact whole ▸ rounded_mono positive h

theorem rounded_le {bytes : ℕ} (h : bytes ≤ 1024 * 1024)
    : rounded bytes 1024 ≤ 1024 * 1024 := by
  have whole : rounded (1024 * 1024) 1024 = (1024 : ℕ) * (1024 : ℕ) :=
    rounded_mul (by omega) (by omega)
  rw [Nat.cast_ofNat] at whole
  exact whole ▸ rounded_mono (by omega) h

/-- Sizes are printed in their order: within a unit rounding keeps it, and no size crosses the
thousand and twenty-four units at which the unit changes.
-/
theorem printedBytes_mono {fewer more : ℤ} (h : fewer ≤ more)
    : printedBytes fewer ≤ printedBytes more := by
  have kilobytes (_ : 1024 ≤ more) : (1024 : ℚ) ≤ rounded more.toNat 1024 := by
    have least : ((1024 : ℕ) : ℚ) ≤ rounded more.toNat 1024 := le_rounded (by omega) (by omega)
    rwa [Nat.cast_ofNat] at least
  have megabytes (_ : 1024 * 1024 ≤ more)
      : (1024 * 1024 : ℚ) ≤ rounded more.toNat (1024 * 1024) := by
    have least : ((1024 * 1024 : ℕ) : ℚ) ≤ rounded more.toNat (1024 * 1024) :=
      le_rounded (by omega) (by omega)
    rwa [Nat.cast_mul, Nat.cast_ofNat] at least
  rw [printedBytes, printedBytes]
  rcases lt_or_ge fewer 1024 with bytes | least
  · have small : (fewer : ℚ) ≤ 1024 := by exact_mod_cast bytes.le
    rw [if_pos bytes]
    split_ifs with bytes' below'
    · exact_mod_cast h
    · exact small.trans (kilobytes (by omega))
    · exact (small.trans (by norm_num)).trans (megabytes (by omega))
  · rw [if_neg (by omega : ¬ fewer < 1024), if_neg (by omega : ¬ more < 1024)]
    rcases lt_or_ge fewer (1024 * 1024) with below | least'
    · rw [if_pos below]
      split_ifs with below'
      · exact rounded_mono (by omega) (by omega)
      · exact (rounded_le (by omega)).trans (megabytes (by omega))
    · rw [if_neg (by omega), if_neg (by omega)]
      exact rounded_mono (by omega) (by omega)

/-- What is printed of a size shows the bytes it is rounded to. -/
theorem bytes?_of_format? {bytes : ℤ} {text : String} (h : format? bytes = some text)
    : bytes? text = some (printedBytes bytes) := by
  rw [printedBytes]
  rcases lt_or_ge bytes 1024 with below | least
  · rw [format?_bytes below, Option.some.injEq] at h
    have shown : bytes? (toString bytes ++ " B") = some ((bytes : ℚ) * 1) :=
      bytes?_append (Numeral.space_not_mem_toString bytes) (Numeral.rational?_toString bytes)
        rfl rfl
    rw [if_pos below, ← h, shown, mul_one]
  · obtain ⟨n, rfl⟩ := Int.eq_ofNat_of_zero_le (by omega : 0 ≤ bytes)
    rw [if_neg (by omega), Int.toNat_natCast]
    rcases lt_or_ge n (1024 * 1024) with below | least'
    · rw [format?_kilobytes (by omega) below, Option.some.injEq] at h
      rw [if_pos (by omega), ← h, bytes?_ofTenths _ rfl rfl, rounded, Nat.cast_ofNat]
    · rw [format?_megabytes least'] at h
      split at h
      · rw [Option.some.injEq] at h
        rw [if_neg (by omega), ← h, bytes?_ofTenths _ rfl rfl, rounded, Nat.cast_mul,
          Nat.cast_ofNat]
      · cases h

-----------------------------------------------------------------------------------------
-- Sizes that are not printed
-----------------------------------------------------------------------------------------

theorem unitsOfRatio_megabyte_lt_limit_iff (bytes : ℕ)
    : unitsOfRatio bytes (1024 * 1024) < limit ↔ bytes + 2 ^ 990 < 2 ^ 1044 := by
  have unit : 1024 * 1024 = 2 ^ 20 := by norm_num
  have left : 2 * (bytes * 2 ^ 1074) + 2 ^ (2045 + 20) = (bytes + 2 ^ 990) * 2 ^ 1075 := by
    rw [Nat.mul_left_comm, ← pow_succ', Nat.add_mul, ← pow_add]
  have right : 2 ^ (53 + 2045 + 1 + 20) = 2 ^ 1044 * 2 ^ 1075 := by
    rw [← pow_add]
  rw [unitsOfRatio_lt_limit_iff _ (by omega), unit, one_eq, ← pow_add, ← pow_add, left, right,
    Nat.mul_lt_mul_right (pow_pos Nat.two_pos 1075)]

/-- The sizes that are not printed are those from 2^1044 - 2^990 bytes on. -/
theorem format?_eq_none_iff (bytes : ℤ)
    : format? bytes = none ↔ 2 ^ 1044 - 2 ^ 990 ≤ bytes := by
  have scaled : (2 : ℤ) ^ 1044 = 2 ^ 54 * 2 ^ 990 := pow_add 2 54 990
  have far : (1024 * 1024 : ℤ) ≤ 2 ^ 1044 - 2 ^ 990 := by
    have unit : (2 : ℤ) ^ 20 ≤ 2 ^ 990 := pow_le_pow_right₀ (by omega) (by omega)
    rw [scaled]
    generalize (2 : ℤ) ^ 990 = p at unit
    omega
  rcases lt_or_ge bytes 1024 with below | least
  · rw [format?_bytes below]
    exact iff_of_false (by simp) (by omega)
  · obtain ⟨n, rfl⟩ := Int.eq_ofNat_of_zero_le (by omega : 0 ≤ bytes)
    rcases lt_or_ge n (1024 * 1024) with below | least'
    · rw [format?_kilobytes (by omega) below]
      exact iff_of_false (by simp) (by omega)
    · have natural : (n : ℤ) + 2 ^ 990 < 2 ^ 1044 ↔ n + 2 ^ 990 < 2 ^ 1044 := by
        exact_mod_cast Iff.rfl
      have range := (unitsOfRatio_megabyte_lt_limit_iff n).trans natural.symm
      rw [format?_megabytes least', sub_le_iff_le_add]
      split
      · next fits => exact iff_of_false (by simp) (not_le.mpr (range.mp fits))
      · next wide => exact iff_of_true rfl (not_lt.mp (range.not.mp wide))

/-- Below 2^53 bytes a printed numeral is the exact number of units, rounded once to the tenths
nearest to it; sizes that are printed show bytes in the order of the sizes; and just the sizes
from half a gap below the limit on are not printed.
-/
theorem format_shows_bytes
    : (∀ bytes : ℤ,
        1024 ≤ bytes
        → bytes < 1024 * 1024
        → ∃ tenths : ℕ,
            NearestEven (10 * (bytes / 1024)) tenths
            ∧ format? bytes = some (Numeral.ofTenths false tenths ++ " KB"))
      ∧ (∀ bytes : ℤ,
        1024 * 1024 ≤ bytes
        → bytes < 2 ^ 53
        → ∃ tenths : ℕ,
            NearestEven (10 * (bytes / (1024 * 1024))) tenths
            ∧ format? bytes = some (Numeral.ofTenths false tenths ++ " MB"))
      ∧ (∀ fewer more text text',
        fewer ≤ more
        → format? fewer = some text
        → format? more = some text'
        → ∃ size size', bytes? text = some size ∧ bytes? text' = some size' ∧ size ≤ size')
      ∧ ∀ bytes, format? bytes = none ↔ 2 ^ 1044 - 2 ^ 990 ≤ bytes := by
  refine ⟨?_, ?_, ?_, format?_eq_none_iff⟩
  · intro bytes least below
    obtain ⟨n, rfl⟩ := Int.eq_ofNat_of_zero_le (by omega : 0 ≤ bytes)
    have unit : (2 : ℚ) ^ 10 = 1024 := by norm_num
    have nearest : NearestEven (10 * (n / 2 ^ 10)) (tenths (unitsOfRatio n 1024)) :=
      nearestEven_tenths_unitsOfRatio (by omega) (by omega)
    have text := format?_kilobytes (by omega : 1024 ≤ n) (by omega)
    rw [unit, ← Int.cast_natCast] at nearest
    exact ⟨_, nearest, text⟩
  · intro bytes least below
    obtain ⟨n, rfl⟩ := Int.eq_ofNat_of_zero_le (by omega : 0 ≤ bytes)
    have unit : (2 : ℚ) ^ 20 = 1024 * 1024 := by norm_num
    have nearest : NearestEven (10 * (n / 2 ^ 20)) (tenths (unitsOfRatio n (1024 * 1024))) :=
      nearestEven_tenths_unitsOfRatio (by omega) (by omega)
    have text := format?_megabytes (by omega : 1024 * 1024 ≤ n)
    have near : 2 ^ 53 ≤ reach := by decide +kernel
    rw [if_pos (unitsOfRatio_lt_limit near (by omega) (by omega))] at text
    rw [unit, ← Int.cast_natCast] at nearest
    exact ⟨_, nearest, text⟩
  · intro fewer more text text' h shown shown'
    exact ⟨_, _, bytes?_of_format? shown, bytes?_of_format? shown', printedBytes_mono h⟩

end CssMinifier.Size
