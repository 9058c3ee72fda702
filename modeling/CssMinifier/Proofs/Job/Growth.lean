import CssMinifier.Proofs.Encoding.ByteCount
import CssMinifier.Proofs.Job.Finishing
import CssMinifier.Proofs.Size.Compression
import CssMinifier.Proofs.Stylesheet.Compact
import Mathlib.Algebra.Order.BigOperators.Group.List
import Mathlib.Algebra.Order.Group.Nat

/-! Growth. A run writes no more bytes than it has read, but for a mark that the codec writes
and the source did not have.
-/

namespace CssMinifier

open CssMinifier.Encoding

theorem Encoding.Codec.charSize_minify_le (codec : Codec) (text : List Char)
    : ((Stylesheet.minify text).map codec.charSize).sum ≤ (text.map codec.charSize).sum := by
  calc
    ((Stylesheet.minify text).map codec.charSize).sum
        ≤ ((Stylesheet.dropComments text).map codec.charSize).sum :=
      Stylesheet.weight_minify_le codec.charSize codec.charSize_space_le text
    _ ≤ (text.map codec.charSize).sum :=
      ((Stylesheet.dropComments_sublist text).map codec.charSize).sum_le_sum (by simp)

/-- A cut mark is shorter than the mark that is written for it. -/
theorem Encoding.Codec.CutMark.addedMark_eq {codec : Codec} {bytes : Bytes}
    (h : codec.CutMark bytes)
    : codec.addedMark bytes = codec.ownMark.length := by
  obtain ⟨rfl, rfl | rfl⟩ := h <;> rfl

/-- What is written of a source takes the bytes of the source and of an added mark at most.
-/
theorem Source.Reads.length_written_le {machine : Machine} {disk : Disk} {web : Web}
    {source name : String} {text : List Char} {bytes written : Bytes}
    (h : Source.Reads machine disk web source name text bytes) {codec : Codec}
    (named : Name.meaning? name = some (.text codec))
    (encoded : codec.encode? (Stylesheet.minify text) = some written)
    : written.length ≤ bytes.length + codec.addedMark bytes := by
  have size := Codec.length_of_encode? encoded
  rcases h.minify_eq named with ⟨cut, rfl⟩ | ⟨whole, decoded, same⟩
  · have empty := codec.charSize_minify_le []
    have mark := cut.addedMark_eq
    simp only [List.map_nil, List.sum_nil] at empty
    omega
  · have source := Codec.length_of_decodeWhole decoded
    have shorter := codec.charSize_minify_le whole
    rw [same] at size
    omega

namespace Job

/-- A run with a report has not made its source bigger, unless by a mark. Where no mark is
added nothing is lost, and the share that was saved is printed without a sign.
-/
theorem run_ok_size {job : Job} {machine : Machine} {disk : Disk} {web : Web} {report : Report}
    {name : String} {codec : Codec} (given : job.encoding = some name)
    (named : Name.meaning? name = some (.text codec))
    (done : (job.run machine disk web).result = .ok report)
    : ∃ bytes,
        Source.bytes disk web job.input = .ok bytes
        ∧ report.sourceSize = bytes.length
        ∧ report.minifiedSize ≤ report.sourceSize + codec.addedMark bytes
        ∧ (codec.addedMark bytes = 0
          → 0 ≤ report.saved
            ∧ ∃ share, report.compression? = some share ∧ share.toList.head? ≠ some '-') := by
  have finishes := run_ok_iff.mp ⟨done, rfl⟩
  generalize (job.run machine disk web).disk = after at finishes
  cases finishes with
  | @written name' text bytes path written _ given' _ reads _ writes =>
      obtain rfl : name = name' := Option.some.inj (given.symm.trans given')
      cases writes with
      | file _ _ known stored =>
          obtain rfl := Machine.scheme_unique known named
          have bound := reads.length_written_le named (Scheme.stored_codec_iff.mp stored)
          refine ⟨bytes, reads.bytes_eq, rfl, ?_, fun bare => ?_⟩
          · exact Int.ofNat_le.mpr bound
          · have less : (written.length : Int) ≤ bytes.length := by omega
            have natural := Int.natCast_nonneg written.length
            exact ⟨Int.sub_nonneg_of_le less, Size.compression?_of_le natural less⟩

/-- One byte without a mark grows by the mark. -/
theorem run_ok_size_unmarked
    : let job : Job := ⟨"http://h/a.css", some (Path.parse "a.css"), some "utf-8-sig", none⟩
      let disk : Disk := ⟨[], []⟩
      let web : Web := ⟨[("http://h/a.css", .answer 200 [97])]⟩
      let report : Report := ⟨"http://h/a.css", Path.parse "a.css", 1, 4⟩
      Name.meaning? "utf-8-sig" = some (.text .utf8Marked)
      ∧ (job.run .standard disk web).result = .ok report
      ∧ ∃ bytes,
          Source.bytes disk web job.input = .ok bytes
          ∧ report.sourceSize = bytes.length
          ∧ report.minifiedSize ≤ report.sourceSize + Codec.utf8Marked.addedMark bytes
          ∧ (Codec.utf8Marked.addedMark bytes = 0
            → 0 ≤ report.saved
              ∧ ∃ share,
                  report.compression? = some share ∧ share.toList.head? ≠ some '-') := by
  intro job disk web report
  have named : Name.meaning? "utf-8-sig" = some (.text .utf8Marked) := by decide +kernel
  have done : (job.run .standard disk web).result = .ok report := by decide +kernel
  exact ⟨named, done, run_ok_size rfl named done⟩

end Job

end CssMinifier
