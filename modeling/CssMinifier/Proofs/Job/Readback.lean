import CssMinifier.Proofs.Encoding.Decoding
import CssMinifier.Proofs.Job.Finishing
import CssMinifier.Proofs.Path
import CssMinifier.Proofs.Stylesheet.Compact

/-! Reading an output back. The output of a finished run under the name of a codec is a source
that is read to the very text that was written, since that text holds no line end for reading
to change.
-/

namespace CssMinifier

open CssMinifier.Encoding

/-- A minified text holds no carriage return. -/
theorem Stylesheet.uniformLines_minify (text : List Char)
    : uniformLines (minify text) = minify text := by
  refine uniformLines_eq_self fun member => ?_
  have space : '\r' = ' ' := (compact_minify text).fillers '\r' member rfl
  cases space

/-- A run writes to a path that comes from a text if its explicit output does. -/
theorem Job.proper_target {job : Job} {path : Path}
    (explicit : ∀ output, job.output = some output → output.Proper)
    (h : job.target = .ok path)
    : path.Proper := by
  rw [target] at h
  split at h
  · next output given => exact Except.ok.inj h ▸ explicit output given
  · split at h
    · next output named => exact Except.ok.inj h ▸ Source.proper_output named
    · cases h

/-- A file that was written is a source with the text that was written, and its size is the
number of bytes written.
-/
theorem Disk.Writes.read {disk after : Disk} {machine : Machine} {path : Path} {name : String}
    {text : List Char} {bytes : Bytes} (h : disk.Writes machine path name text bytes after)
    {codec : Codec} (named : Name.meaning? name = some (.text codec))
    (clean : '\x00' ∉ name.toList) (proper : path.Proper) (uniform : uniformLines text = text)
    (web : Web)
    : Source.read machine after web path.text (some name) = .ok (text, bytes.length) := by
  cases h with
  | file plain writable known stored =>
      obtain rfl := Machine.scheme_unique known named
      have decoded := Codec.decodeFile_of_encode? (Scheme.stored_codec_iff.mp stored) uniform
      obtain ⟨leads, free⟩ := Disk.writable_ok writable
      refine Source.read_ok_iff.mpr ⟨name, bytes, ⟨rfl, clean⟩, ?_, rfl⟩
      refine .file (Source.isRemote_text proper) ?_ known
        (Scheme.fileText_codec_iff.mpr decoded)
      rw [proper.parse_text]
      exact Disk.file?_put_of_locate free bytes plain leads

namespace Job

/-- The output of a run with a report under the name of a codec is read back to the minified text
of its source, with the size that the report gives, whatever the web answers by then. An
explicit output is one that a text gives.
-/
theorem run_ok_reads_back {job : Job} {machine : Machine} {output : Option String} {disk : Disk}
    {web : Web} {report : Report} {name : String} {codec : Codec}
    (explicit : job.output = output.map Path.parse) (given : job.encoding = some name)
    (named : Name.meaning? name = some (.text codec))
    (done : (job.run machine disk web).result = .ok report)
    : ∃ (text : List Char) (size written : Nat),
        Source.read machine disk web job.input job.encoding = .ok (text, size)
        ∧ report.minifiedSize = written
        ∧ ∀ later,
            Source.read machine (job.run machine disk web).disk later report.output.text
                job.encoding
              = .ok (Stylesheet.minify text, written) := by
  have finishes := run_ok_iff.mp ⟨done, rfl⟩
  generalize (job.run machine disk web).disk = after at finishes ⊢
  cases finishes with
  | @written found text bytes path _ _ own clean reads target writes =>
      obtain rfl : name = found := Option.some.inj (given.symm.trans own)
      have proper : path.Proper := by
        refine proper_target (fun output chosen => ?_) target
        obtain ⟨text, _, rfl⟩ := Option.map_eq_some_iff.mp (explicit ▸ chosen)
        exact Path.proper_parse text
      refine ⟨text, _, _, Source.read_ok_iff.mpr ⟨_, _, ⟨given, clean⟩, reads, rfl⟩, rfl, ?_⟩
      intro later
      rw [given]
      exact writes.read named clean proper (Stylesheet.uniformLines_minify text) later

/-- An output whose text starts like an address is a file all the same. -/
theorem run_ok_reads_back_schemelike
    : let job : Job :=
        ⟨"a.css", some (Path.parse "http://b.css"), some "utf-16", none⟩
      let disk : Disk :=
        ⟨[], [(["http:".toList], .directory),
          (["a.css".toList], .file [0xFE, 0xFF, 0, 97, 0, 13, 0, 98])]⟩
      let web : Web := ⟨[]⟩
      let report : Report := ⟨"a.css", Path.parse "http://b.css", 8, 8⟩
      job.output = (some "http://b.css").map Path.parse
      ∧ Name.meaning? "utf-16" = some (.text .utf16)
      ∧ (job.run .standard disk web).result = .ok report
      ∧ ∃ (text : List Char) (size written : Nat),
          Source.read .standard disk web job.input job.encoding = .ok (text, size)
          ∧ report.minifiedSize = written
          ∧ ∀ later,
              Source.read .standard (job.run .standard disk web).disk later report.output.text
                  job.encoding
                = .ok (Stylesheet.minify text, written) := by
  intro job disk web report
  have done : (job.run .standard disk web).result = .ok report := by decide +kernel
  have explicit : job.output = (some "http://b.css").map Path.parse := rfl
  have named : Name.meaning? "utf-16" = some (.text .utf16) := by decide +kernel
  exact ⟨explicit, named, done, run_ok_reads_back explicit rfl named done⟩

end Job

end CssMinifier
