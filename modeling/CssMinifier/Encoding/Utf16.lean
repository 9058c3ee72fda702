import CssMinifier.Encoding.Fault

/-! The sixteen-bit encoding: one unit a character, or a pair of surrogate units for characters
beyond the first 65536. A unit is two bytes in either order.
-/

namespace CssMinifier.Encoding.Utf16

/-- The order of the two bytes of a unit. -/
inductive Order
  | little
  | big
deriving DecidableEq

namespace Order

/-- The name of the encoding with this order. -/
def codec : Order → String
  | .little => "utf-16-le"
  | .big => "utf-16-be"

/-- The unit of two bytes. -/
def unit : Order → UInt8 → UInt8 → Nat
  | .little, a, b => a.toNat + 256 * b.toNat
  | .big, a, b => 256 * a.toNat + b.toNat

/-- The two bytes of a unit. -/
def bytes (order : Order) (unit : Nat) : Bytes :=
  match order with
  | .little => [UInt8.ofNat (unit % 256), UInt8.ofNat (unit / 256)]
  | .big => [UInt8.ofNat (unit / 256), UInt8.ofNat (unit % 256)]

end Order

/-- The units of a character. -/
def units (c : Char) : List Nat :=
  let n := c.toNat
  if n < 0x10000 then
    [n]
  else
    [0xD800 + (n - 0x10000) / 0x400, 0xDC00 + (n - 0x10000) % 0x400]

/-- The bytes of a text. -/
def encode (order : Order) (text : List Char) : Bytes :=
  text.flatMap fun c => (units c).flatMap order.bytes

/-- Holds for the first unit of a pair. -/
def isHigh (unit : Nat) : Bool :=
  0xD800 ≤ unit && unit < 0xDC00

/-- Holds for the second unit of a pair. -/
def isLow (unit : Nat) : Bool :=
  0xDC00 ≤ unit && unit < 0xE000

/-- The character of a pair of units. -/
def paired (high low : Nat) : Char :=
  Char.ofNat (0x10000 + (high - 0xD800) * 0x400 + (low - 0xDC00))

/-- The text of a byte sequence whose first byte has the given position. -/
def decodeFrom (order : Order) (position : Nat) : Bytes → Except Fault (List Char)
  | [] => .ok []
  | [a] => .error ⟨order.codec, a, position, 1, .truncated⟩
  | a :: b :: rest =>
      let unit := order.unit a b
      if isLow unit then
        .error ⟨order.codec, a, position, 2, .illegalEncoding⟩
      else if isHigh unit then
        match rest with
        | c :: d :: more =>
            if isLow (order.unit c d) then
              (decodeFrom order (position + 4) more).map (paired unit (order.unit c d) :: ·)
            else
              .error ⟨order.codec, a, position, 2, .illegalSurrogate⟩
        | short => .error ⟨order.codec, a, position, 2 + short.length, .unexpectedEnd⟩
      else
        (decodeFrom order (position + 2) rest).map (Char.ofNat unit :: ·)

/-- The order that a byte order mark at the start tells, if there is one. -/
def marked? : Bytes → Option Order
  | 0xFF :: 0xFE :: _ => some .little
  | 0xFE :: 0xFF :: _ => some .big
  | _ => none

/-- The mark of an order. -/
def mark (order : Order) : Bytes :=
  order.bytes 0xFEFF

end CssMinifier.Encoding.Utf16
