import CssMinifier.Proofs.Encoding.Decoding
import Mathlib.Algebra.GroupWithZero.Nat

/-! Byte counts. An encoded text takes the bytes of its characters and of the mark that the
codec writes, and no character takes fewer than a space. What is written back from decoded
bytes takes as many again, but for a mark that the bytes did not have.
-/

namespace CssMinifier.Encoding

theorem SingleByte.length_of_encode? {code : SingleByte} {text : List Char} {bytes : Bytes}
    (h : code.encode? text = some bytes)
    : bytes.length = (text.map fun _ => 1).sum := by
  induction text generalizing bytes with
  | nil =>
      obtain rfl : [] = bytes := by simpa [encode?] using h
      rfl
  | cons c rest ih =>
      obtain ⟨b, tail, _, behind, rfl⟩ := encode?_cons h
      rw [List.length_cons, ih behind, List.map_cons, List.sum_cons, Nat.add_comm]

theorem Utf8.length_encodeChar_pos (c : Char)
    : 0 < (encodeChar c).length := by
  obtain ⟨b, more, written, _⟩ := first_encodeChar c []
  simp [written]

theorem Utf16.length_bytes (order : Order) (unit : Nat)
    : (order.bytes unit).length = 2 := by
  cases order <;> rfl

theorem Utf16.length_units_pos (c : Char)
    : 0 < (units c).length := by
  simp only [units]
  split <;> simp

theorem Utf16.length_encode (order : Order) (text : List Char)
    : (encode order text).length = (text.map fun c => 2 * (units c).length).sum := by
  have pairs (c : Char) : ((units c).flatMap order.bytes).length = 2 * (units c).length := by
    simp only [units]
    split <;> simp [length_bytes]
  simp only [encode, List.length_flatMap] at pairs ⊢
  simp only [pairs]

theorem Utf16.length_swapped (bytes : Bytes)
    : (swapped bytes).length = bytes.length := by
  fun_induction swapped bytes with
  | case1 a b rest ih => simp [ih]
  | case2 short => rfl

namespace Codec

/-- The bytes that a character takes. -/
def charSize (codec : Codec) (c : Char) : Nat :=
  match codec with
  | .utf8 | .utf8Marked => (Utf8.encodeChar c).length
  | .ascii | .latin1 | .western => 1
  | .utf16 | .utf16Little | .utf16Big => 2 * (Utf16.units c).length

/-- The mark that a codec writes in front of every text. -/
def ownMark : Codec → Bytes
  | .utf8Marked => Utf8.mark
  | .utf16 => Utf16.mark .little
  | .utf8 | .ascii | .latin1 | .western | .utf16Little | .utf16Big => []

/-- The bytes that a mark adds if decoded bytes are written back: none if they had one. -/
def addedMark (codec : Codec) (bytes : Bytes) : Nat :=
  match codec with
  | .utf8Marked => if Utf8.mark.isPrefixOf bytes then 0 else 3
  | .utf16 => if (Utf16.marked? bytes).isSome then 0 else 2
  | .utf8 | .ascii | .latin1 | .western | .utf16Little | .utf16Big => 0

theorem charSize_space_le (codec : Codec) (c : Char)
    : codec.charSize ' ' ≤ codec.charSize c := by
  cases codec with
  | utf8 | utf8Marked => exact Utf8.length_encodeChar_pos c
  | ascii | latin1 | western => exact Nat.le_refl 1
  | utf16 | utf16Little | utf16Big => exact Nat.mul_le_mul_left 2 (Utf16.length_units_pos c)

theorem length_of_encode? {codec : Codec} {text : List Char} {bytes : Bytes}
    (h : codec.encode? text = some bytes)
    : bytes.length = codec.ownMark.length + (text.map codec.charSize).sum := by
  have eight : (Utf8.encode text).length = (text.map utf8.charSize).sum := List.length_flatMap
  have sixteen (order : Utf16.Order)
      : (Utf16.encode order text).length = (text.map utf16.charSize).sum :=
    Utf16.length_encode order text
  cases codec with
  | utf8 =>
      obtain rfl := Option.some.inj h
      rw [eight, ownMark, List.length_nil, Nat.zero_add]
  | utf8Marked =>
      obtain rfl := Option.some.inj h
      rw [List.length_append, eight]
      rfl
  | ascii | latin1 | western =>
      rw [SingleByte.length_of_encode? h, ownMark, List.length_nil, Nat.zero_add]
      rfl
  | utf16 =>
      obtain rfl := Option.some.inj h
      rw [List.length_append, sixteen]
      rfl
  | utf16Little | utf16Big =>
      obtain rfl := Option.some.inj h
      rw [sixteen, ownMark, List.length_nil, Nat.zero_add]
      rfl

theorem length_rewritten (codec : Codec) (bytes : Bytes)
    : (codec.rewritten bytes).length = bytes.length + codec.addedMark bytes := by
  cases codec with
  | utf8Marked =>
      simp only [rewritten, addedMark, Utf8.unmarked]
      split
      · next marked =>
          have long := (List.isPrefixOf_iff_prefix.mp marked).length_le
          simp only [List.length_append, List.length_drop]
          omega
      · simp only [List.length_append, Utf8.mark, List.length_cons, List.length_nil]
        omega
  | utf16 =>
      simp only [rewritten, addedMark, Utf16.mark, List.length_append, Utf16.length_bytes]
      cases marked : Utf16.marked? bytes with
      | none => simp [Nat.add_comm]
      | some order =>
          have long : 2 ≤ bytes.length := by
            rcases bytes with _ | ⟨a, _ | ⟨b, rest⟩⟩
            · cases marked
            · simp [Utf16.marked?] at marked
            · simp
          cases order <;> simp [Utf16.length_swapped] <;> omega
  | utf8 | ascii | latin1 | western | utf16Little | utf16Big => rfl

/-- Decoded bytes are written back to as many, but for an added mark. -/
theorem length_of_decodeWhole {codec : Codec} {bytes : Bytes} {text : List Char}
    (h : codec.decodeWhole bytes = .ok text)
    : codec.ownMark.length + (text.map codec.charSize).sum
      = bytes.length + codec.addedMark bytes := by
  rw [← length_of_encode? (encode?_of_decodeWhole h), length_rewritten]

end Codec

end CssMinifier.Encoding
