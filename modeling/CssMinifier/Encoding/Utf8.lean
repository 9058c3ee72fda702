import CssMinifier.Encoding.Fault

/-! The eight-bit encoding of all characters: one to four bytes a character, the first of which
tells how many follow. Only the shortest form of a character decodes, and no surrogates.
-/

namespace CssMinifier.Encoding.Utf8

/-- The bytes of a character. -/
def encodeChar (c : Char) : Bytes :=
  let n := c.toNat
  let follow := fun unit : Nat => UInt8.ofNat (0x80 + n / unit % 0x40)
  if n < 0x80 then
    [UInt8.ofNat n]
  else if n < 0x800 then
    [UInt8.ofNat (0xC0 + n / 0x40), follow 1]
  else if n < 0x10000 then
    [UInt8.ofNat (0xE0 + n / 0x1000), follow 0x40, follow 1]
  else
    [UInt8.ofNat (0xF0 + n / 0x40000), follow 0x1000, follow 0x40, follow 1]

/-- The bytes of a text. -/
def encode (text : List Char) : Bytes :=
  text.flatMap encodeChar

/-- The bits that a first byte gives, and the least and greatest value of each byte that has
to follow; nothing for bytes that start no character.
-/
def lead? (b : Nat) : Option (Nat × List (Nat × Nat)) :=
  if b < 0x80 then
    some (b, [])
  else if b < 0xC2 then
    none
  else if b < 0xE0 then
    some (b - 0xC0, [(0x80, 0xBF)])
  else if b < 0xF0 then
    let second := if b = 0xE0 then (0xA0, 0xBF) else if b = 0xED then (0x80, 0x9F) else (0x80, 0xBF)
    some (b - 0xE0, [second, (0x80, 0xBF)])
  else if b < 0xF5 then
    let second := if b = 0xF0 then (0x90, 0xBF) else if b = 0xF4 then (0x80, 0x8F) else (0x80, 0xBF)
    some (b - 0xF0, [second, (0x80, 0xBF), (0x80, 0xBF)])
  else
    none

/-- The value of a character whose first bits are known and whose other bytes come next, or
the number of bytes that were still right and what is wrong with the next one.
-/
def continued (bits : Nat) : List (Nat × Nat) → Bytes → Except (Nat × Reason) Nat
  | [], _ => .ok bits
  | _ :: _, [] => .error (0, .unexpectedEnd)
  | (low, high) :: more, b :: rest =>
      if low ≤ b.toNat ∧ b.toNat ≤ high then
        match continued (bits * 64 + (b.toNat - 0x80)) more rest with
        | .ok value => .ok value
        | .error (right, reason) => .error (right + 1, reason)
      else
        .error (0, .invalidContinuation)

/-- The first character of a non-empty byte sequence and the number of bytes behind its first
one, or the number of faulty bytes and the reason.
-/
def first (b : UInt8) (rest : Bytes) : Except (Nat × Reason) (Char × Nat) :=
  match lead? b.toNat with
  | none => .error (1, .invalidStart)
  | some (bits, following) =>
      match continued bits following rest with
      | .ok value => .ok (Char.ofNat value, following.length)
      | .error (right, reason) => .error (right + 1, reason)

/-- The text of a byte sequence whose first byte has the given position. -/
def decodeFrom (position : Nat) : Bytes → Except Fault (List Char)
  | [] => .ok []
  | b :: rest =>
      match first b rest with
      | .error (length, reason) => .error ⟨"utf-8", b, position, length, reason⟩
      | .ok (c, more) =>
          match decodeFrom (position + more + 1) (rest.drop more) with
          | .error fault => .error fault
          | .ok text => .ok (c :: text)
termination_by bytes => bytes.length
decreasing_by simp only [List.length_drop, List.length_cons]; omega

/-- The text of a byte sequence. -/
def decode (bytes : Bytes) : Except Fault (List Char) :=
  decodeFrom 0 bytes

/-- The byte order mark in this encoding. -/
def mark : Bytes := [0xEF, 0xBB, 0xBF]

/-- The bytes without the mark, if they start with it. -/
def unmarked (bytes : Bytes) : Bytes :=
  if mark.isPrefixOf bytes then bytes.drop mark.length else bytes

end CssMinifier.Encoding.Utf8
