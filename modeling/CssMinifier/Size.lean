import CssMinifier.Number.Binary64

/-! Sizes and savings as they are reported: byte counts with a unit, and a percentage with one
decimal place.
-/

namespace CssMinifier.Size

open CssMinifier.Number

/-- Bytes in a kilobyte. -/
def kilobyte : Int := 1024

/-- Bytes in a megabyte. -/
def megabyte : Int := 1024 * 1024

/-- The text of a byte count, or nothing if it is too large to be divided. Negative counts
stay in bytes, with all their digits: a limit on the digits of a printed number is not modelled.
-/
def format? (bytes : Int) : Option String :=
  if bytes < kilobyte then
    some (toString bytes ++ " B")
  else if bytes < megabyte then
    (Binary64.quotient? bytes kilobyte).map fun q => q.toOneDecimal ++ " KB"
  else
    (Binary64.quotient? bytes megabyte).map fun q => q.toOneDecimal ++ " MB"

/-- The share of a source's size that was saved, in percent, or nothing if the quotient is too
large. An empty source saves nothing.
-/
def percentage? (source minified : Int) : Option Binary64 :=
  if source = 0 then
    some (.finite false 0)
  else
    (Binary64.quotient? (source - minified) source).map (Binary64.scale 100)

/-- The text of the share that was saved. -/
def compression? (source minified : Int) : Option String :=
  (percentage? source minified).map (·.toOneDecimal ++ "%")

end CssMinifier.Size
