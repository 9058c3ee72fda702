import CssMinifier.Encoding
import CssMinifier.Proofs.Encoding.Reencoding

/-! Re-encoding decoded texts. Every codec encodes what it has decoded, to the same bytes
but for the mark and the byte order that it writes itself, and a text encodes if its
characters do. Files decode to what their bytes as a whole decode to, but for two kinds of
bytes.
-/

namespace CssMinifier.Encoding

namespace Utf16

/-- Bytes with each two of them exchanged. -/
def swapped : Bytes → Bytes
  | a :: b :: rest => b :: a :: swapped rest
  | short => short

theorem encode_little (text : List Char)
    : encode .little text = swapped (encode .big text) := by
  induction text with
  | nil => rfl
  | cons c rest ih =>
      rw [encode] at ih ⊢
      rw [encode, List.flatMap_cons, List.flatMap_cons, ih]
      simp only [units]
      split <;> rfl

end Utf16

namespace Codec

/-- Bytes as the codec writes the text that it has decoded from them: behind its mark,
and in its own byte order.
-/
def rewritten (codec : Codec) (bytes : Bytes) : Bytes :=
  match codec with
  | .utf8Marked => Utf8.mark ++ Utf8.unmarked bytes
  | .utf16 =>
      Utf16.mark .little
        ++ match Utf16.marked? bytes with
          | some .little => bytes.drop 2
          | some .big => Utf16.swapped (bytes.drop 2)
          | none => bytes
  | .utf8 | .ascii | .latin1 | .western | .utf16Little | .utf16Big => bytes

/-- Every codec encodes what it has decoded, by the round trip of each encoding. -/
theorem encode?_of_decodeWhole {codec : Codec} {bytes : Bytes} {text : List Char}
    (h : codec.decodeWhole bytes = .ok text)
    : codec.encode? text = some (codec.rewritten bytes) := by
  cases codec with
  | utf8 => exact congrArg some (Utf8.encode_decodeFrom h)
  | utf8Marked =>
      exact congrArg (fun tail => some (Utf8.mark ++ tail)) (Utf8.encode_decodeFrom h)
  | ascii => exact SingleByte.encode?_decodeFrom SingleByte.ascii_faithful h
  | latin1 => exact SingleByte.encode?_decodeFrom SingleByte.latin1_faithful h
  | western => exact SingleByte.encode?_decodeFrom SingleByte.western_faithful h
  | utf16 =>
      simp only [decodeWhole] at h
      simp only [encode?, rewritten]
      cases mark : Utf16.marked? bytes with
      | none =>
          rw [mark] at h
          rw [Utf16.encode_decodeFrom h]
      | some order =>
          rw [mark] at h
          cases order with
          | little => rw [Utf16.encode_decodeFrom h]
          | big => rw [Utf16.encode_little, Utf16.encode_decodeFrom h]
  | utf16Little => exact congrArg some (Utf16.encode_decodeFrom h)
  | utf16Big => exact congrArg some (Utf16.encode_decodeFrom h)

/-- A text encodes exactly if each of its characters does. -/
theorem encode?_isSome_iff (codec : Codec) (text : List Char)
    : (codec.encode? text).isSome = true
      ↔ ∀ c ∈ text, (codec.encode? [c]).isSome = true := by
  cases codec with
  | ascii | latin1 | western => simp [encode?, SingleByte.encode?_isSome_iff]
  | utf8 | utf8Marked | utf16 | utf16Little | utf16Big => simp [encode?]

/-- Texts of characters of an encodable text, spaces and line feeds are encodable. -/
theorem encode?_isSome_of_mem {codec : Codec} {text other : List Char}
    (h : (codec.encode? text).isSome = true)
    (from_ : ∀ c ∈ other, c = ' ' ∨ c = '\n' ∨ c ∈ text)
    : (codec.encode? other).isSome = true := by
  rw [encode?_isSome_iff] at h ⊢
  intro c member
  rcases from_ c member with space | feed | old
  · rw [space]
    cases codec <;> rfl
  · rw [feed]
    cases codec <;> rfl
  · exact h c old

end Codec

theorem mem_uniformLines {text : List Char} {c : Char} (h : c ∈ uniformLines text)
    : c = '\n' ∨ c ∈ text := by
  fun_induction uniformLines text with
  | case1 rest ih =>
      rcases List.mem_cons.mp h with rfl | later
      · exact Or.inl rfl
      · exact (ih later).imp_right (by simp +contextual)
  | case2 rest hne ih =>
      rcases List.mem_cons.mp h with rfl | later
      · exact Or.inl rfl
      · exact (ih later).imp_right (by simp +contextual)
  | case3 d rest hne hne' ih =>
      rcases List.mem_cons.mp h with rfl | later
      · exact Or.inr (by simp)
      · exact (ih later).imp_right (by simp +contextual)
  | case4 => cases h

namespace Codec

@[simp]
theorem decodeWhole_nil (codec : Codec)
    : codec.decodeWhole [] = .ok [] := by
  cases codec <;> simp [decodeWhole, Utf8.decode, Utf8.unmarked, Utf8.mark, Utf8.decodeFrom,
    SingleByte.decodeFrom, Utf16.marked?, Utf16.decodeFrom]

/-- Bytes that end inside the eight-bit mark. -/
def CutMark (codec : Codec) (bytes : Bytes) : Prop :=
  codec = .utf8Marked ∧ (bytes = [0xEF] ∨ bytes = [0xEF, 0xBB])

/-- Bytes of sixteen-bit units whose order no mark tells. -/
def Unordered (codec : Codec) (bytes : Bytes) : Prop :=
  codec = .utf16 ∧ bytes ≠ [] ∧ Utf16.marked? bytes = none

theorem cutMark_of_isPrefixOf {bytes : Bytes} (short : bytes.length < 3)
    (cut : bytes.isPrefixOf Utf8.mark = true)
    : bytes = [] ∨ CutMark .utf8Marked bytes := by
  rcases bytes with _ | ⟨a, _ | ⟨b, _ | ⟨c, rest⟩⟩⟩
  · exact Or.inl rfl
  · simp_all [CutMark, Utf8.mark]
  · simp_all [CutMark, Utf8.mark]
  · simp only [List.length_cons] at short
    omega

/-- A cut mark is no text as a whole. -/
theorem CutMark.undecodable {codec : Codec} {bytes : Bytes} (h : CutMark codec bytes)
    (text : List Char)
    : codec.decodeWhole bytes ≠ .ok text := by
  obtain ⟨rfl, rfl | rfl⟩ := h <;>
    simp [decodeWhole, Utf8.decode, Utf8.unmarked, Utf8.mark, Utf8.decodeFrom, Utf8.first,
      Utf8.lead?, Utf8.continued]

/-- Files are decoded like whole bytes, but for a cut mark, which is an empty text, and for
units of unknown order, which are none.
-/
theorem decodeStored_ok_iff {codec : Codec} {bytes : Bytes} {text : List Char}
    : codec.decodeStored bytes = .ok text
      ↔ (CutMark codec bytes ∧ text = [])
        ∨ (codec.decodeWhole bytes = .ok text ∧ ¬ Unordered codec bytes) := by
  rw [decodeStored]
  split
  · next cut =>
      obtain ⟨rfl, short, start⟩ := cut
      rcases cutMark_of_isPrefixOf short start with rfl | cut
      · have ordered : ¬ Unordered .utf8Marked [] := fun unordered => unordered.2.1 rfl
        simp [ordered, CutMark]
      · have undecodable := cut.undecodable text
        simp [cut, undecodable, @eq_comm _ [] text]
  · next whole =>
      have uncut : ¬ CutMark codec bytes := by
        intro cut
        obtain ⟨rfl, rfl | rfl⟩ := cut <;> exact whole ⟨rfl, by decide, rfl⟩
      cases found : codec.decodeWhole bytes with
      | error fault => simp [uncut]
      | ok other =>
          simp only
          split
          · next unordered =>
              have unordered : Unordered codec bytes := unordered
              simp [uncut, unordered]
          · next ordered =>
              have ordered : ¬ Unordered codec bytes := ordered
              simp [uncut, ordered]

theorem decodeFile_ok_iff {codec : Codec} {bytes : Bytes} {text : List Char}
    : codec.decodeFile bytes = .ok text
      ↔ ∃ stored, codec.decodeStored bytes = .ok stored ∧ uniformLines stored = text := by
  rw [decodeFile]
  cases codec.decodeStored bytes <;> simp [Except.map]

/-- Every codec encodes what it has read from a file, line ends included. -/
theorem encode?_of_decodeFile {codec : Codec} {bytes : Bytes} {text : List Char}
    (h : codec.decodeFile bytes = .ok text)
    : (codec.encode? text).isSome = true := by
  obtain ⟨stored, found, rfl⟩ := decodeFile_ok_iff.mp h
  -- Line ends are made uniform behind decoding, so the line feeds may be new.
  have encodes : (codec.encode? stored).isSome = true := by
    rcases decodeStored_ok_iff.mp found with ⟨_, rfl⟩ | ⟨whole, _⟩
    · rw [encode?_isSome_iff]
      simp
    · rw [encode?_of_decodeWhole whole]
      rfl
  exact encode?_isSome_of_mem encodes fun c member => Or.inr (mem_uniformLines member)

end Codec

end CssMinifier.Encoding
