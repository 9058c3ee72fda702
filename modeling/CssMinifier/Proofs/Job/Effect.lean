import CssMinifier.Proofs.Job.Finishing
import Mathlib.Data.List.Basic

/-! The effect of a finished run. One file is created or replaced, by the minified text of
what the source held before, and the report gives the sizes of the two. A file gets the bytes
of the whole text unless its encoding holds some of them back.
-/

namespace CssMinifier

open CssMinifier.Encoding

namespace Scheme

/-- The bytes of a whole text, if it has them. -/
def encode? (scheme : Scheme) (text : List Char) : Option Bytes :=
  match scheme with
  | .codec own => own.encode? text
  | .coding further => further.encode? text

/-- Files get the bytes of whole texts, with nothing held back. -/
def Complete (scheme : Scheme) : Prop :=
  ∀ text bytes, scheme.stored text = .ok bytes → scheme.encode? text = some bytes

/-- The encodings of this library's own are complete. -/
theorem complete_codec (own : Codec) : (codec own).Complete :=
  fun _ _ => stored_codec_iff.mp

end Scheme

namespace Job

variable {job : Job} {machine : Machine} {disk : Disk} {web : Web} {report : Report}

/-- What a finished run has done: the bytes of the source as they were, their text and the
written bytes, and where those stand. Every other location and every path that leads
elsewhere keeps its file.
-/
structure Effect (job : Job) (machine : Machine) (disk : Disk) (web : Web) (report : Report)
    (scheme : Scheme) (bytes : Bytes) (text : List Char) (written : Bytes)
    (location : Location)
    : Prop where
  encoding : ∃ name, job.encoding = some name ∧ machine.scheme .file name = .ok scheme
  source : Source.bytes disk web job.input = .ok bytes
  decoded : Source.decoded machine job.encoding job.input bytes = .ok text
  stored : scheme.stored (Stylesheet.minify text) = .ok written
  encoded : scheme.Complete → scheme.encode? (Stylesheet.minify text) = some written
  own
    : ∀ codec,
        scheme = .codec codec
        → Source.text? codec job.input bytes = some text
          ∧ codec.encode? (Stylesheet.minify text) = some written
  target : job.target = .ok report.output
  leads : disk.locate report.output = .ok location
  entries
    : ∀ other,
        (job.run machine disk web).disk.find? other
          = if other = location then some (.file written) else disk.find? other
  replaced
    : ∀ path,
        path.hasNul = false
        → disk.locate path = .ok location
        → (job.run machine disk web).disk.file? path = .ok (some written)
  kept
    : ∀ path,
        disk.locate path ≠ .ok location
        → (job.run machine disk web).disk.file? path = disk.file? path
  input : report.input = job.input
  sourceSize : report.sourceSize = bytes.length
  minifiedSize : report.minifiedSize = written.length

/-- A run that has a report has had its effect, and has made the one request that its source
asks for.
-/
theorem run_ok_effect (done : (job.run machine disk web).result = .ok report)
    : (∃ scheme bytes text written location,
        job.Effect machine disk web report scheme bytes text written location)
      ∧ (job.run machine disk web).requests
        = if Source.isRemote job.input then [⟨job.input, job.timeout⟩] else [] := by
  refine ⟨?_, run_requests job machine disk web⟩
  have finishes := run_ok_iff.mp ⟨done, rfl⟩
  generalize left : (job.run machine disk web).disk = after at finishes
  cases finishes with
  | @written name text bytes path content _ given clean reads named writes =>
      cases writes with
      | @file scheme location _ plain writable known stored =>
          obtain ⟨found, free⟩ := Disk.writable_ok writable
          refine ⟨scheme, bytes, text, content, location, ?_⟩
          exact
            { encoding := ⟨name, given, known⟩
              source := reads.bytes_eq
              decoded := given ▸ reads.decoded_eq clean
              stored := stored
              encoded := fun complete => complete _ _ stored
              own := by
                rintro codec rfl
                have named := (machine.scheme_codec_iff .file).mp known
                exact ⟨reads.text?_eq named, Scheme.complete_codec codec _ _ stored⟩
              target := named
              leads := found
              entries := by
                intro other
                simp [left, free]
              replaced := by
                intro path plain here
                rw [left]
                exact Disk.file?_put_of_locate free _ plain here
              kept := by
                intro path elsewhere
                rw [left]
                exact Disk.file?_put_of_ne free _ elsewhere
              input := rfl
              sourceSize := rfl
              minifiedSize := rfl }

/-- A file that is minified in place, through a double dot, is read before it is replaced. -/
theorem run_ok_effect_in_place
    : let job : Job :=
        ⟨"a.css", some (Path.parse "d/..//a.css"), some "latin-1", none⟩
      let disk : Disk :=
        ⟨[], [(["d".toList], .directory), (["a.css".toList], .file [97, 32, 58, 32, 98])]⟩
      let web : Web := ⟨[]⟩
      let report : Report := ⟨"a.css", Path.parse "d/..//a.css", 5, 3⟩
      (job.run .standard disk web).result = .ok report
      ∧ (∃ scheme bytes text written location,
          job.Effect .standard disk web report scheme bytes text written location)
      ∧ (job.run .standard disk web).requests
        = if Source.isRemote job.input then [⟨job.input, job.timeout⟩] else [] := by
  intro job disk web report
  have done : (job.run .standard disk web).result = .ok report := by
    decide +kernel
  exact ⟨done, run_ok_effect done⟩

/-- The encoding of host names holds back a label that no dot ends, so a rule that can be written
as a whole leaves an empty file.
-/
theorem run_ok_effect_held_back
    : let job : Job := ⟨"a.css", some (Path.parse "b.css"), some "idna", none⟩
      let bytes : Bytes := [97, 123, 98, 58, 99, 125]
      let text : List Char := ['a', '{', 'b', ':', 'c', '}']
      let disk : Disk := ⟨[], [(["a.css".toList], .file bytes)]⟩
      let web : Web := ⟨[]⟩
      (job.run .standard disk web).result = .ok ⟨"a.css", Path.parse "b.css", 6, 0⟩
      ∧ Source.decoded .standard job.encoding job.input bytes = .ok text
      ∧ (Machine.standard.scheme .file "idna").map (·.encode? (Stylesheet.minify text))
        = .ok (some bytes)
      ∧ (job.run .standard disk web).disk.file? (Path.parse "b.css") = .ok (some []) := by
  intro job bytes text disk web
  refine ⟨?_, ?_, ?_, ?_⟩ <;> decide +kernel

end Job

end CssMinifier
