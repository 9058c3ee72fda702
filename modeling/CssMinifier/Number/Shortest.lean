import CssMinifier.Number.Binary64

/-! The shortest decimal text of a floating-point number: the fewest digits that read back,
and of those the nearest to the number. It is positional from 0.0001 up to below 10^16 and
has an exponent otherwise.
-/

namespace CssMinifier.Number

/-- A positive decimal: digits times a power of ten. -/
structure Decimal where
  digits : Nat
  exponent : Int

namespace Decimal

/-- Numerator and denominator of a decimal. -/
def ratio (d : Decimal) : Nat × Nat :=
  (d.digits * Nat.pow 10 d.exponent.toNat, Nat.pow 10 (-d.exponent).toNat)

/-- The units of the floating-point number nearest to a decimal. -/
def units (d : Decimal) : Nat :=
  Binary64.unitsOfRatio d.ratio.1 d.ratio.2

/-- The number of decimal digits of a natural number; none for zero. -/
def width (n : Nat) : Nat :=
  if n = 0 then 0 else (toString n).length

end Decimal

namespace Shortest

/-- The power of ten of the leading digit of a positive count of units. -/
def leadingExponent (units : Nat) : Int :=
  if Binary64.one ≤ units then
    (Decimal.width (units / Binary64.one) : Int) - 1
  else
    -(Decimal.width ((Binary64.one - 1) / units) : Int)

/-- The count of units on the decimal grid of the given exponent, as a quotient. -/
def onGrid (units : Nat) (exponent : Int) : Nat × Nat :=
  (units * Nat.pow 10 (-exponent).toNat, Binary64.one * Nat.pow 10 exponent.toNat)

/-- The decimal with the given exponent that reads back as the units, if there is one: one
of the two grid neighbours, the nearer one if both do, and the even one of two equally near.
-/
def readingBack? (units : Nat) (exponent : Int) : Option Decimal :=
  let (num, den) := onGrid units exponent
  let below : Decimal := ⟨num / den, exponent⟩
  let above : Decimal := ⟨num / den + 1, exponent⟩
  let nearest : Decimal := ⟨roundHalfEven num den, exponent⟩
  match decide (below.units = units), decide (above.units = units) with
  | true, true => some nearest
  | true, false => some below
  | false, true => some above
  | false, false => none

/-- The shortest decimal of a positive count of units. Seventeen digits always suffice. -/
def decimal (units : Nat) : Decimal :=
  let lead := leadingExponent units
  match (List.range 17).findSome? fun (k : Nat) => readingBack? units (lead - (k : Int)) with
  | some d => d
  | none => ⟨units, 0⟩

/-- The digits without the zeros at their end. -/
def significant (digits : List Char) : List Char :=
  (digits.reverse.dropWhile (· == '0')).reverse

/-- The text of a decimal: digits, and the power of ten of the first digit. -/
def written (digits : List Char) (lead : Int) : List Char :=
  if -4 ≤ lead ∧ lead < 16 then
    if lead < 0 then
      '0' :: '.' :: List.replicate (-lead - 1).toNat '0' ++ digits
    else
      let whole := lead.toNat + 1
      let fraction := digits.drop whole
      digits.take whole ++ List.replicate (whole - digits.length) '0' ++ '.'
        :: (if fraction.isEmpty then ['0'] else fraction)
  else
    let power := (toString lead.natAbs).toList
    digits.take 1
      ++ (if digits.length ≤ 1 then [] else '.' :: digits.drop 1)
      ++ 'e' :: (if lead < 0 then '-' else '+')
      :: (if power.length < 2 then '0' :: power else power)

end Shortest

/-- The shortest text that reads back as the number. -/
def Binary64.text : Binary64 → String
  | .finite negative units =>
      if units = 0 then
        signText negative ++ "0.0"
      else
        let d := Shortest.decimal units
        let digits := (toString d.digits).toList
        let lead := (digits.length : Int) - 1 + d.exponent
        signText negative ++ String.ofList (Shortest.written (Shortest.significant digits) lead)
  | .infinite negative => signText negative ++ "inf"
  | .nan => "nan"

end CssMinifier.Number
