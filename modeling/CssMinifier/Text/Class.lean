/-! Classes of characters: classes by the code points at which membership changes, decimal
digits of every script, and blanks. Two classes matter to a stylesheet: the blanks, which may
stand around punctuation, and the fillers, which also count the byte order mark and collapse
to a space.
-/

namespace CssMinifier.Text

-----------------------------------------------------------------------------------------
-- Classes by their changes
-----------------------------------------------------------------------------------------

/-- Holds when an odd number of entries of the ascending list lie at or
below the code point, so membership starts false and changes at every entry.
-/
def oddFlips : List Nat → Nat → Bool
  | [], _ => false
  | flip :: rest, n => if flip ≤ n then !oddFlips rest n else false

-----------------------------------------------------------------------------------------
-- Decimal digits
-----------------------------------------------------------------------------------------

/-- The code point of the digit zero in each script. The ten digits of a script are
consecutive.
-/
def digitZeros : List Nat :=
  [0x30, 0x660, 0x6f0, 0x7c0, 0x966, 0x9e6, 0xa66, 0xae6, 0xb66, 0xbe6, 0xc66, 0xce6, 0xd66,
   0xde6, 0xe50, 0xed0, 0xf20, 0x1040, 0x1090, 0x17e0, 0x1810, 0x1946, 0x19d0, 0x1a80, 0x1a90,
   0x1b50, 0x1bb0, 0x1c40, 0x1c50, 0xa620, 0xa8d0, 0xa900, 0xa9d0, 0xa9f0, 0xaa50, 0xabf0, 0xff10,
   0x104a0, 0x10d30, 0x11066, 0x110f0, 0x11136, 0x111d0, 0x112f0, 0x11450, 0x114d0, 0x11650,
   0x116c0, 0x11730, 0x118e0, 0x11950, 0x11c50, 0x11d50, 0x11da0, 0x16a60, 0x16ac0, 0x16b50,
   0x1d7ce, 0x1d7d8, 0x1d7e2, 0x1d7ec, 0x1d7f6, 0x1e140, 0x1e2f0, 0x1e950, 0x1fbf0]

/-- The value of a decimal digit of any script. -/
def digit? (c : Char) : Option Nat :=
  (digitZeros.find? fun first => first ≤ c.toNat && c.toNat < first + 10).map (c.toNat - ·)

-----------------------------------------------------------------------------------------
-- Blanks
-----------------------------------------------------------------------------------------

/-- Holds for the white space of every script, the four information separators
and the next-line control included.
-/
def isBlank (c : Char) : Bool :=
  let n := c.toNat
  (0x9 ≤ n && n ≤ 0xD) || (0x1C ≤ n && n ≤ 0x20) || n == 0x85 || n == 0xA0 || n == 0x1680
    || (0x2000 ≤ n && n ≤ 0x200A) || n == 0x2028 || n == 0x2029 || n == 0x202F || n == 0x205F
    || n == 0x3000

/-- The byte order mark, a zero-width character that some editors put at the front. -/
def byteOrderMark : Char := '\ufeff'

/-- Holds for blanks and for the byte order mark. -/
def isFiller (c : Char) : Bool :=
  isBlank c || c == byteOrderMark

/-- Every blank is a filler. -/
theorem isFiller_of_isBlank {c : Char} (h : isBlank c = true)
    : isFiller c = true := by
  simp [isFiller, h]

/-- The text without the blanks at its two ends. -/
def strip (text : List Char) : List Char :=
  ((text.dropWhile isBlank).reverse.dropWhile isBlank).reverse

end CssMinifier.Text
