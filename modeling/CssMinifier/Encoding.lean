import CssMinifier.Encoding.SingleByte
import CssMinifier.Encoding.Utf16
import CssMinifier.Encoding.Utf8

/-! Text encodings. Bytes that come as a whole are decoded as they stand. A text file is read
with its line ends made uniform and is stricter or more lenient about its byte order mark.
-/

namespace CssMinifier.Encoding

/-- The encodings that a stylesheet may have. -/
inductive Codec
  | utf8
  | utf8Marked
  | ascii
  | latin1
  | western
  | utf16
  | utf16Little
  | utf16Big
deriving DecidableEq

/-- Why bytes are no text. -/
inductive DecodeError
  | fault (found : Fault)
  | noMark
deriving DecidableEq

/-- The text of a decoding error. -/
def DecodeError.message : DecodeError → String
  | .fault found => found.message
  | .noMark => "UTF-16 stream does not start with BOM"

namespace Codec

/-- The bytes of a text, with the byte order mark if the encoding has one; nothing if a
character cannot be written.
-/
def encode? (codec : Codec) (text : List Char) : Option Bytes :=
  match codec with
  | .utf8 => some (Utf8.encode text)
  | .utf8Marked => some (Utf8.mark ++ Utf8.encode text)
  | .ascii => SingleByte.ascii.encode? text
  | .latin1 => SingleByte.latin1.encode? text
  | .western => SingleByte.western.encode? text
  | .utf16 => some (Utf16.mark .little ++ Utf16.encode .little text)
  | .utf16Little => some (Utf16.encode .little text)
  | .utf16Big => some (Utf16.encode .big text)

/-- The text of bytes that come as a whole. Without a mark sixteen-bit units are little-endian;
the positions in a fault count the sixteen-bit mark and not the eight-bit one.
-/
def decodeWhole (codec : Codec) (bytes : Bytes) : Except Fault (List Char) :=
  match codec with
  | .utf8 => Utf8.decode bytes
  | .utf8Marked => Utf8.decode (Utf8.unmarked bytes)
  | .ascii => SingleByte.ascii.decodeFrom 0 bytes
  | .latin1 => SingleByte.latin1.decodeFrom 0 bytes
  | .western => SingleByte.western.decodeFrom 0 bytes
  | .utf16 =>
      match Utf16.marked? bytes with
      | some order => Utf16.decodeFrom order 2 (bytes.drop 2)
      | none => Utf16.decodeFrom .little 0 bytes
  | .utf16Little => Utf16.decodeFrom .little 0 bytes
  | .utf16Big => Utf16.decodeFrom .big 0 bytes

end Codec

/-- The text with every line end as one line feed. -/
def uniformLines : List Char → List Char
  | '\r' :: '\n' :: rest => '\n' :: uniformLines rest
  | '\r' :: rest => '\n' :: uniformLines rest
  | c :: rest => c :: uniformLines rest
  | [] => []

namespace Codec

/-- The text of a file before its line ends are made uniform. A file that ends inside the
eight-bit mark is empty; a file of sixteen-bit units of unknown order needs a mark.
-/
def decodeStored (codec : Codec) (bytes : Bytes) : Except DecodeError (List Char) :=
  if codec = .utf8Marked ∧ bytes.length < 3 ∧ bytes.isPrefixOf Utf8.mark then
    .ok []
  else
    match codec.decodeWhole bytes with
    | .error fault => .error (.fault fault)
    | .ok text =>
        if codec = .utf16 ∧ bytes ≠ [] ∧ Utf16.marked? bytes = none then
          .error .noMark
        else
          .ok text

/-- The text of a file. -/
def decodeFile (codec : Codec) (bytes : Bytes) : Except DecodeError (List Char) :=
  (codec.decodeStored bytes).map uniformLines

end Codec

end CssMinifier.Encoding
