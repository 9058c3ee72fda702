import CssMinifier.Number.Shortest
import CssMinifier.Text.Class

/-! Reading of floating-point numbers. A number is a sign and either a word for infinity or
for no number, or decimal digits of any script with a point and an exponent. Blanks may stand
around it, and single underscores between its digits.
-/

namespace CssMinifier.Number.Reading

open CssMinifier.Text

/-- Holds for the blanks that may stand around a number: all but the four
information separators.
-/
def isPadding (c : Char) : Bool :=
  isBlank c && !(0x1C ≤ c.toNat && c.toNat ≤ 0x1F)

/-- The digit of the first script that has the same value; any other character as it is. -/
def plainDigit (c : Char) : Char :=
  match digit? c with
  | some n => Char.ofNat (0x30 + n)
  | none => c

/-- The text between the padding, with plain digits. -/
def trimmed (text : List Char) : List Char :=
  ((text.dropWhile isPadding).reverse.dropWhile isPadding).reverse.map plainDigit

/-- The text without its underscores, if each of them stands between two digits. The flag
tells whether the character before was a digit.
-/
def withoutUnderscores? (afterDigit : Bool) : List Char → Option (List Char)
  | [] => some []
  | '_' :: c :: rest =>
      if afterDigit && c.isDigit then
        (withoutUnderscores? true rest).map (c :: ·)
      else
        none
  | ['_'] => none
  | c :: rest => (withoutUnderscores? c.isDigit rest).map (c :: ·)

/-- The value of a run of plain digits. -/
def value (digits : List Char) : Nat :=
  digits.foldl (fun total c => total * 10 + (c.toNat - 0x30)) 0

/-- A sign, if there is one, and the rest. The sign is negative for a minus. -/
def signed : List Char → Bool × List Char
  | '-' :: rest => (true, rest)
  | '+' :: rest => (false, rest)
  | rest => (false, rest)

/-- The exponent part: nothing, or a letter e with a signed run of digits. -/
def exponent? : List Char → Option Int
  | [] => some 0
  | c :: rest =>
      let (negative, digits) := signed rest
      if (c = 'e' ∨ c = 'E') ∧ digits ≠ [] ∧ digits.all Char.isDigit then
        some (if negative then -(value digits : Int) else value digits)
      else
        none

/-- The digits before the point, those after it, and what follows. -/
def mantissa (text : List Char) : List Char × List Char × List Char :=
  let whole := text.takeWhile Char.isDigit
  match text.dropWhile Char.isDigit with
  | '.' :: rest => (whole, rest.takeWhile Char.isDigit, rest.dropWhile Char.isDigit)
  | rest => (whole, [], rest)

/-- The decimal that an unsigned text denotes. -/
def decimal? (text : List Char) : Option Decimal :=
  let (whole, fraction, rest) := mantissa text
  if whole ++ fraction = [] then
    none
  else
    (exponent? rest).map fun e => ⟨value (whole ++ fraction), e - fraction.length⟩

/-- The number nearest to a decimal. Far outside the range no power of ten is computed. -/
def nearest (negative : Bool) (d : Decimal) : Binary64 :=
  let magnitude := (Decimal.width d.digits : Int) + d.exponent
  if d.digits = 0 ∨ magnitude < -400 then
    .finite negative 0
  else if 400 < magnitude then
    .infinite negative
  else
    Binary64.ofUnits negative d.units

/-- The words for an infinity, in lower case. -/
def infinityWords : List String := ["inf", "infinity"]

/-- The number that a text without padding and underscores denotes. -/
def number? (text : List Char) : Option Binary64 :=
  let (negative, unsigned) := signed text
  let word := String.ofList (unsigned.map Char.toLower)
  if infinityWords.contains word then
    some (.infinite negative)
  else if word = "nan" then
    some .nan
  else
    (decimal? unsigned).map (nearest negative)

/-- The number that a text denotes, if it denotes one. -/
def read? (text : List Char) : Option Binary64 :=
  (withoutUnderscores? false (trimmed text)).bind number?

end CssMinifier.Number.Reading
