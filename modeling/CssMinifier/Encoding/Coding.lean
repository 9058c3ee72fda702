import CssMinifier.Encoding.SingleByte
import CssMinifier.Text.Fields

/-! Further encodings, known by what they do, and the one of them that encodes host names. Of the
latter only plain labels are supported. Dots part a text into labels, and every label that a dot
ends has one to sixty-three characters when it is written; no such thing is asked of a label that
is read.
-/

namespace CssMinifier.Encoding

/-- A bound on the characters that a byte stands for, and on the bytes that a character takes.
-/
def spread : Nat := 1024

/-- A text encoding that is known by what it does, with a message where a source or a file makes
it give up. Bytes that come as a whole and bytes of a file are decoded each in their own way. So
are texts encoded: a file gets its text in one piece and is closed without a word that this was
the last one, so what an encoding holds back for the next piece is lost.
-/
structure Coding where
  decodeWhole : Bytes → Except String (List Char)
  decodeStored : Bytes → Except String (List Char)
  encode? : List Char → Option Bytes
  store : List Char → Except String Bytes
  length_decodeWhole
    : ∀ bytes text, decodeWhole bytes = .ok text → text.length ≤ spread * (bytes.length + 1)
  length_decodeStored
    : ∀ bytes text, decodeStored bytes = .ok text → text.length ≤ spread * (bytes.length + 1)
  length_store
    : ∀ text bytes, store text = .ok bytes → bytes.length ≤ spread * (text.length + 1)

-----------------------------------------------------------------------------------------
-- Host names
-----------------------------------------------------------------------------------------

namespace Labels

/-- The byte that parts labels. -/
def dot : UInt8 := 46

/-- The bytes in front of a label that stands for characters of other scripts. -/
def escape : Bytes := [120, 110, 45, 45]

/-- The greatest length of a label. -/
def limit : Nat := 63

/-- What is said about labels that stand for characters of other scripts. -/
def unsupported : String := "labels of other scripts are not supported"

/-- Why a label is not read, if it is not. -/
def fault? (label : Bytes) : Option String :=
  if escape.isPrefixOf label then
    some unsupported
  else
    match SingleByte.ascii.decodeFrom 0 label with
    | .error fault => some fault.message
    | .ok _ => none

/-- The text of bytes that come as a whole. They are read label by label, so the positions in a
fault count from the start of a label.
-/
def decodeWhole (bytes : Bytes) : Except String (List Char) :=
  match (Text.fields dot bytes).findSome? fault? with
  | some message => .error message
  | none => .ok (bytes.map fun b => Char.ofNat b.toNat)

/-- The text of a file, whose bytes are looked at before its labels. -/
def decodeStored (bytes : Bytes) : Except String (List Char) :=
  match SingleByte.ascii.decodeFrom 0 bytes with
  | .error fault => .error fault.message
  | .ok _ => decodeWhole bytes

/-- The bytes of a text of plain characters. -/
def plain? (text : List Char) : Option Bytes :=
  if text.all (·.toNat < 128) then some (text.map fun c => UInt8.ofNat c.toNat) else none

/-- Holds for bytes of which every label that a dot ends can be written. -/
def isClosed (bytes : Bytes) : Bool :=
  (Text.fields dot bytes).dropLast.all fun label => label ≠ [] && label.length ≤ limit

/-- The bytes of a whole text, if its labels can be written. The last label may be empty. -/
def encode? (text : List Char) : Option Bytes :=
  (plain? text).filter fun bytes =>
    isClosed bytes && (Text.behindLast dot bytes).length ≤ limit

/-- The bytes that a file gets of a text: the labels that a dot ends. The last label might go on
in a next piece, and is held back.
-/
def store (text : List Char) : Except String Bytes :=
  match plain? text with
  | none => .error unsupported
  | some bytes =>
      if !isClosed bytes then
        .error "label empty or too long"
      else
        .ok (bytes.reverse.dropWhile (· ≠ dot)).reverse

/-- A label is read as one character a byte. -/
theorem length_decodeWhole {bytes : Bytes} {text : List Char}
    (h : decodeWhole bytes = .ok text)
    : text.length = bytes.length := by
  rw [decodeWhole] at h
  split at h
  · cases h
  · obtain rfl := Except.ok.inj h
    exact List.length_map _

theorem length_decodeStored {bytes : Bytes} {text : List Char}
    (h : decodeStored bytes = .ok text)
    : text.length = bytes.length := by
  rw [decodeStored] at h
  split at h
  · cases h
  · exact length_decodeWhole h

theorem length_plain? {text : List Char} {bytes : Bytes} (h : plain? text = some bytes)
    : bytes.length = text.length := by
  rw [plain?] at h
  split at h
  · obtain rfl := Option.some.inj h
    exact List.length_map _
  · cases h

/-- A file gets one byte a character at most. -/
theorem length_store {text : List Char} {bytes : Bytes} (h : store text = .ok bytes)
    : bytes.length ≤ text.length := by
  rw [store] at h
  split at h
  · cases h
  · next plain found =>
      split at h
      · cases h
      · obtain rfl := Except.ok.inj h
        calc
          (plain.reverse.dropWhile (· ≠ dot)).reverse.length
              = (plain.reverse.dropWhile (· ≠ dot)).length := List.length_reverse
          _ ≤ plain.reverse.length := (List.dropWhile_sublist _).length_le
          _ = plain.length := List.length_reverse
          _ = text.length := length_plain? found

/-- The encoding of host names. -/
def coding : Coding where
  decodeWhole := decodeWhole
  decodeStored := decodeStored
  encode? := encode?
  store := store
  length_decodeWhole bytes text h := by
    rw [length_decodeWhole h, spread]
    omega
  length_decodeStored bytes text h := by
    rw [length_decodeStored h, spread]
    omega
  length_store text bytes h := by
    have shorter := length_store h
    rw [spread]
    omega

end Labels

end CssMinifier.Encoding
