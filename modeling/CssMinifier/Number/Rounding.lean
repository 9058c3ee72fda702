/-! Rounding of quotients of natural numbers, to whole numbers and to a number of significant
binary digits. A half goes to the even neighbour.
-/

namespace CssMinifier.Number

/-- The whole number nearest to the quotient; of two equally near ones the even one. -/
def roundHalfEven (num den : Nat) : Nat :=
  let quotient := num / den
  let remainder := num % den
  if 2 * remainder < den ∨ (2 * remainder = den ∧ quotient % 2 = 0) then
    quotient
  else
    quotient + 1

/-- The gap between neighbours that have the given number of significant binary digits, at
the size of the given whole number. It is one as long as all digits fit.
-/
def spacing (bits whole : Nat) : Nat :=
  Nat.pow 2 (Nat.log2 whole + 1 - bits)

/-- The quotient rounded to the given number of significant binary digits, no finer than
whole numbers.
-/
def roundToBits (bits num den : Nat) : Nat :=
  let gap := spacing bits (num / den)
  roundHalfEven num (den * gap) * gap

/-- A quotient without remainder is its own rounding. -/
theorem roundHalfEven_mul (n : Nat) {den : Nat} (h : 0 < den)
    : roundHalfEven (n * den) den = n := by
  simp [roundHalfEven, Nat.mul_div_cancel _ h, h]

end CssMinifier.Number
