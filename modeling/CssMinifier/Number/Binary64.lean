import CssMinifier.Number.Rounding

/-! Binary floating point with 53 significant digits. A finite number is counted in units of
the least positive one, 2^-1074, so every operation is exact arithmetic on whole numbers and
one rounding.
-/

namespace CssMinifier.Number

/-- A floating-point number: a signed count of units, an infinity, or no number. -/
inductive Binary64
  | finite (negative : Bool) (units : Nat)
  | infinite (negative : Bool)
  | nan
deriving DecidableEq

namespace Binary64

/-- How many units make one. -/
def one : Nat := Nat.pow 2 1074

/-- The least number of units that is out of range. -/
def limit : Nat := Nat.pow 2 2098

/-- The units of a quotient of whole numbers, correctly rounded. They may be out of range. -/
def unitsOfRatio (num den : Nat) : Nat :=
  roundToBits 53 (num * one) den

/-- The number with the given units, or the infinity if they are out of range. -/
def ofUnits (negative : Bool) (units : Nat) : Binary64 :=
  if units < limit then .finite negative units else .infinite negative

/-- The quotient of two integers, or nothing if it is out of range. A quotient of zero takes
its sign from the two integers.
-/
def quotient? (num den : Int) : Option Binary64 :=
  let units := unitsOfRatio num.natAbs den.natAbs
  if units < limit then
    some (.finite (decide (num < 0) ^^ decide (den < 0)) units)
  else
    none

/-- A number times a natural factor. -/
def scale (factor : Nat) : Binary64 → Binary64
  | .finite negative units => ofUnits negative (roundToBits 53 (units * factor) 1)
  | .infinite negative => .infinite negative
  | .nan => .nan

/-- The sign as it is printed. -/
def signText (negative : Bool) : String :=
  if negative then "-" else ""

/-- The tenths of a count of units, a half going to the even neighbour. -/
def tenths (units : Nat) : Nat :=
  roundHalfEven (units * 10) one

/-- The text with one decimal place. The sign of a negative number that rounds to zero stays.
-/
def toOneDecimal : Binary64 → String
  | .finite negative units =>
      signText negative ++ toString (tenths units / 10) ++ "." ++ toString (tenths units % 10)
  | .infinite negative => signText negative ++ "inf"
  | .nan => "nan"

end Binary64

end CssMinifier.Number
