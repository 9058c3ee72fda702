import CssMinifier.Encoding.Fault

/-! Encodings of one byte a character: seven bits, the first 256 characters, and the Western
code page that fills the upper controls with punctuation.
-/

namespace CssMinifier.Encoding

/-- A one-byte encoding: its name, what a byte means, how a character is written, and why a
byte may mean nothing.
-/
structure SingleByte where
  codec : String
  char? : UInt8 → Option Char
  byte? : Char → Option UInt8
  reason : Reason

namespace SingleByte

/-- The seven-bit characters. -/
def ascii : SingleByte where
  codec := "ascii"
  char? b := if b.toNat < 128 then some (Char.ofNat b.toNat) else none
  byte? c := if c.toNat < 128 then some (UInt8.ofNat c.toNat) else none
  reason := .outOfRange

/-- The first 256 characters. -/
def latin1 : SingleByte where
  codec := "latin-1"
  char? b := some (Char.ofNat b.toNat)
  byte? c := if c.toNat < 256 then some (UInt8.ofNat c.toNat) else none
  reason := .undefined

/-- What the Western code page means by the bytes from 80 to 9F. Five of them mean nothing. -/
def westernUpper : List (Option Char) :=
  [some '\u20ac', none, some '\u201a', some '\u0192', some '\u201e', some '\u2026',
   some '\u2020', some '\u2021', some '\u02c6', some '\u2030', some '\u0160', some '\u2039',
   some '\u0152', none, some '\u017d', none, none, some '\u2018', some '\u2019', some '\u201c',
   some '\u201d', some '\u2022', some '\u2013', some '\u2014', some '\u02dc', some '\u2122',
   some '\u0161', some '\u203a', some '\u0153', none, some '\u017e', some '\u0178']

/-- Holds for the codes that the Western code page fills on its own. -/
def isUpper (n : Nat) : Bool :=
  0x80 ≤ n && n < 0xA0

/-- The Western code page. -/
def western : SingleByte where
  codec := "charmap"
  char? b :=
    if isUpper b.toNat then
      (westernUpper[b.toNat - 0x80]?).join
    else
      some (Char.ofNat b.toNat)
  byte? c :=
    if c.toNat < 256 && !isUpper c.toNat then
      some (UInt8.ofNat c.toNat)
    else
      (westernUpper.findIdx? (· = some c)).map fun k => UInt8.ofNat (0x80 + k)
  reason := .undefined

/-- The bytes of a text, if every character has one. -/
def encode? (code : SingleByte) (text : List Char) : Option Bytes :=
  text.mapM code.byte?

/-- The text of a byte sequence whose first byte has the given position. -/
def decodeFrom (code : SingleByte) (position : Nat) : Bytes → Except Fault (List Char)
  | [] => .ok []
  | b :: rest =>
      match code.char? b with
      | none => .error ⟨code.codec, b, position, 1, code.reason⟩
      | some c => (decodeFrom code (position + 1) rest).map (c :: ·)

end SingleByte

end CssMinifier.Encoding
