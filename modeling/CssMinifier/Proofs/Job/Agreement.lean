import CssMinifier.Proofs.Job.Finishing
import Mathlib.Data.List.Basic

/-! Agreement of files and addresses. The same bytes are minified to the same output whether a
file holds them or an address answers them, but for two cases: a cut mark is a text in a file
only, and units of unknown order are a text in an answer only.
-/

namespace CssMinifier.Job

open CssMinifier.Encoding

/-- Two runs that both have a report, with the same sizes and the same share saved, and leave
the same disk, with the same bytes at the output.
-/
structure Agree (output : Path) (one other : Outcome) : Prop where
  disk : one.disk = other.disk
  written
    : ∃ bytes, one.disk.file? output = .ok (some bytes) ∧ other.disk.file? output = .ok (some bytes)
  reports
    : ∃ report report',
        one.result = .ok report
        ∧ other.result = .ok report'
        ∧ report.output = output
        ∧ report'.output = output
        ∧ report.sourceSize = report'.sourceSize
        ∧ report.minifiedSize = report'.minifiedSize
        ∧ report.compression? = report'.compression?

/-- Runs that read texts with the same minified form from bytes of the same size agree, if one
of them writes it.
-/
theorem agree_of_writes {one other : Job} {machine : Machine} {disk after : Disk}
    {web web' : Web} {name : String} {text text' : List Char} {bytes written : Bytes}
    {output : Path}
    (encoding : one.encoding = some name) (encoding' : other.encoding = some name)
    (target : one.output = some output) (target' : other.output = some output)
    (clean : '\x00' ∉ name.toList)
    (reads : Source.Reads machine disk web one.input name text bytes)
    (reads' : Source.Reads machine disk web' other.input name text' bytes)
    (same : Stylesheet.minify text = Stylesheet.minify text')
    (writes : disk.Writes machine output name (Stylesheet.minify text) written after)
    : Agree output (one.run machine disk web) (other.run machine disk web') := by
  have named : one.target = .ok output := by rw [Job.target, target]
  have named' : other.target = .ok output := by rw [Job.target, target']
  obtain ⟨done, left⟩ := run_ok_iff.mpr (.written encoding clean reads named writes)
  obtain ⟨done', left'⟩ :=
    run_ok_iff.mpr (.written encoding' clean reads' named' (same ▸ writes))
  refine ⟨left.trans left'.symm, ?_, _, _, done, done', rfl, rfl, rfl, rfl, rfl⟩
  rw [left, left']
  cases writes with
  | file plain writable known encoded =>
      obtain ⟨leads, free⟩ := Disk.writable_ok writable
      have found := Disk.file?_put_of_locate free written plain leads
      exact ⟨written, found, found⟩

/-- A run over a file and a run over an address with the same bytes, under the same codec and
with the same output.
-/
structure Paired (near far : Job) (disk : Disk) (web : Web) (codec : Codec) (output : Path)
    (bytes : Bytes)
    : Prop where
  encoding : ∃ name, near.encoding = some name ∧ far.encoding = some name
    ∧ Name.meaning? name = some (.text codec)
  output : near.output = some output ∧ far.output = some output
  stored : Source.isRemote near.input = false
    ∧ disk.file? (Path.parse near.input) = .ok (some bytes)
  answered : Source.isRemote far.input = true
    ∧ ∃ status, web.fetch far.input = .answer status bytes ∧ status < 300

namespace Paired

variable {near far : Job} {disk : Disk} {web : Web} {codec : Codec} {output : Path}
  {bytes : Bytes}

theorem near_bytes (h : Paired near far disk web codec output bytes) (other : Web)
    : Source.bytes disk other near.input = .ok bytes := by
  rw [Source.bytes, if_neg (by simp [h.stored.1])]
  exact Source.stored_ok_iff.mpr h.stored.2

theorem far_bytes (h : Paired near far disk web codec output bytes)
    : Source.bytes disk web far.input = .ok bytes := by
  rw [Source.bytes, if_pos h.answered.1]
  exact Source.fetched_ok_iff.mpr h.answered.2

/-- The address is read to the text of its bytes as a whole, which for no bytes is empty. -/
theorem far_reads (h : Paired near far disk web codec output bytes) {name : String}
    (named : Name.meaning? name = some (.text codec)) {text : List Char}
    (decoded : codec.decodeWhole bytes = .ok text)
    (machine : Machine)
    : Source.Reads machine disk web far.input name text bytes := by
  obtain ⟨remote, status, answered, accepted⟩ := h.answered
  by_cases empty : bytes = []
  · subst empty
    rw [codec.decodeWhole_nil] at decoded
    obtain rfl := Except.ok.inj decoded
    exact .nothing remote answered accepted
  · have known := (machine.scheme_codec_iff .body).mpr named
    exact .body remote answered accepted empty known (Scheme.bodyText_codec_iff.mpr decoded)

/-- The file is read to the same text with its line ends made uniform, if its order is known. -/
theorem near_reads (h : Paired near far disk web codec output bytes) {name : String}
    (named : Name.meaning? name = some (.text codec)) {text : List Char}
    (decoded : codec.decodeWhole bytes = .ok text) (ordered : ¬ codec.Unordered bytes)
    (machine : Machine) (other : Web)
    : Source.Reads machine disk other near.input name (uniformLines text) bytes := by
  have stored := Codec.decodeStored_ok_iff.mpr (Or.inr ⟨decoded, ordered⟩)
  have known := (machine.scheme_codec_iff .file).mpr named
  have read := Scheme.fileText_codec_iff.mpr (Codec.decodeFile_ok_iff.mpr ⟨text, stored, rfl⟩)
  exact .file h.stored.1 h.stored.2 known read

end Paired

/-- A file and an address with the same bytes agree: the address succeeds where the file does
unless the bytes are a cut mark, and the file succeeds where the address does unless they are
units of unknown order.
-/
theorem near_far_agree {near far : Job} {disk : Disk} {web : Web} {codec : Codec}
    {output : Path} {bytes : Bytes} (paired : Paired near far disk web codec output bytes)
    (machine : Machine) (other : Web)
    : (¬ codec.CutMark bytes
        → (∃ report, (near.run machine disk other).result = .ok report)
        → Agree output (near.run machine disk other) (far.run machine disk web))
      ∧ (¬ codec.Unordered bytes
        → (∃ report, (far.run machine disk web).result = .ok report)
        → Agree output (near.run machine disk other) (far.run machine disk web)) := by
  obtain ⟨name, given, given', known⟩ := paired.encoding
  obtain ⟨chosen, chosen'⟩ := paired.output
  constructor
  · intro uncut done
    obtain ⟨report, done⟩ := done
    cases run_ok_iff.mp ⟨done, rfl⟩ with
    | @written found text held path written after own clean reads target writes =>
        obtain rfl : name = found := Option.some.inj (given.symm.trans own)
        obtain rfl : output = path := by simpa [Job.target, chosen] using target
        have source := reads.bytes_eq
        rw [paired.near_bytes] at source
        obtain rfl : bytes = held := Except.ok.inj source
        rcases reads.minify_eq known with ⟨cut, _⟩ | ⟨whole, decoded, same⟩
        · exact absurd cut uncut
        · exact agree_of_writes given given' chosen chosen' clean reads
            (paired.far_reads known decoded machine) same writes
  · intro ordered done
    obtain ⟨report, done⟩ := done
    cases run_ok_iff.mp ⟨done, rfl⟩ with
    | @written found text held path written after own clean reads target writes =>
        obtain rfl : name = found := Option.some.inj (given'.symm.trans own)
        obtain rfl : output = path := by simpa [Job.target, chosen'] using target
        have source := reads.bytes_eq
        have decoded := reads.text?_eq known
        rw [paired.far_bytes] at source
        obtain rfl : bytes = held := Except.ok.inj source
        have whole : codec.decodeWhole bytes = .ok text := by
          rw [Source.text?, if_pos paired.answered.1] at decoded
          cases found : codec.decodeWhole bytes with
          | error fault => simp [found, Except.toOption] at decoded
          | ok other => simpa [found, Except.toOption] using decoded
        have same := Stylesheet.minify_uniformLines text
        rw [← same] at writes
        exact agree_of_writes given given' chosen chosen' clean
          (paired.near_reads known whole ordered machine other) reads same writes

/-- A big-endian file with a mark and a line end of two characters agrees with the address that
answers its bytes.
-/
theorem near_far_agree_marked
    : let near : Job := ⟨"a.css", some (Path.parse "b.css"), some "utf-16", none⟩
      let far : Job := ⟨"http://h/a.css", some (Path.parse "b.css"), some "utf-16", none⟩
      let bytes : Bytes := [0xFE, 0xFF, 0, 97, 0, 13, 0, 10, 0, 98]
      let disk : Disk := ⟨[], [(["a.css".toList], .file bytes)]⟩
      let web : Web := ⟨[("http://h/a.css", .answer 200 bytes)]⟩
      Paired near far disk web .utf16 (Path.parse "b.css") bytes
      ∧ ¬ Codec.utf16.CutMark bytes
      ∧ ¬ Codec.utf16.Unordered bytes
      ∧ (near.run .standard disk web).result = .ok ⟨"a.css", Path.parse "b.css", 10, 8⟩
      ∧ Agree (Path.parse "b.css") (near.run .standard disk web) (far.run .standard disk web) := by
  intro near far bytes disk web
  have known : Name.meaning? "utf-16" = some (.text .utf16) := by decide +kernel
  have stored : disk.file? (Path.parse "a.css") = .ok (some bytes) := by decide +kernel
  have paired : Paired near far disk web .utf16 (Path.parse "b.css") bytes :=
    ⟨⟨"utf-16", rfl, rfl, known⟩, ⟨rfl, rfl⟩, ⟨by decide +kernel, stored⟩,
      ⟨by decide +kernel, 200, by decide +kernel, by decide⟩⟩
  have uncut : ¬ Codec.utf16.CutMark bytes := by
    intro cut
    cases cut.1
  have ordered : ¬ Codec.utf16.Unordered bytes := by
    intro unordered
    cases unordered.2.2
  have done : (near.run .standard disk web).result = .ok ⟨"a.css", Path.parse "b.css", 10, 8⟩ := by
    decide +kernel
  exact ⟨paired, uncut, ordered, done, (near_far_agree paired .standard web).1 uncut ⟨_, done⟩⟩

/-- A file that ends inside the mark is minified to the mark alone, and an address that
answers its bytes is refused.
-/
theorem near_far_disagree
    : let near : Job := ⟨"a.css", some (Path.parse "b.css"), some "utf-8-sig", none⟩
      let far : Job := ⟨"http://h/a.css", some (Path.parse "b.css"), some "utf-8-sig", none⟩
      let disk : Disk := ⟨[], [(["a.css".toList], .file [0xEF])]⟩
      let web : Web := ⟨[("http://h/a.css", .answer 200 [0xEF])]⟩
      Paired near far disk web .utf8Marked (Path.parse "b.css") [0xEF]
      ∧ (near.run .standard disk web).result = .ok ⟨"a.css", Path.parse "b.css", 1, 3⟩
      ∧ ¬ ∃ report, (far.run .standard disk web).result = .ok report := by
  intro near far disk web
  have known : Name.meaning? "utf-8-sig" = some (.text .utf8Marked) := by decide +kernel
  have stored : disk.file? (Path.parse "a.css") = .ok (some [0xEF]) := by decide +kernel
  have refused
      : (far.run .standard disk web).result
        = .error (.undecodable (.fault ⟨"utf-8", 0xEF, 0, 1, .unexpectedEnd⟩)) := by
    decide +kernel
  refine ⟨⟨⟨"utf-8-sig", rfl, rfl, known⟩, ⟨rfl, rfl⟩, ⟨by decide +kernel, stored⟩,
    ⟨by decide +kernel, 200, by decide +kernel, by decide⟩⟩, by decide +kernel, ?_⟩
  intro done
  obtain ⟨report, done⟩ := done
  rw [refused] at done
  cases done

end CssMinifier.Job
