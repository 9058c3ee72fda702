import CssMinifier.Proofs.Disk
import CssMinifier.Proofs.Job.Reading
import CssMinifier.Proofs.Stylesheet.Collapse

/-! Finished runs. A run finishes exactly if its source can be read, its output has a name
and the minified text can be written there, and it leaves one written file.
-/

namespace CssMinifier

open CssMinifier.Encoding

-----------------------------------------------------------------------------------------
-- The bytes of a source and their text
-----------------------------------------------------------------------------------------

namespace Source

/-- The bytes of a source: what an address answers or what a file holds. -/
def bytes (disk : Disk) (web : Web) (source : String) : Except Failure Bytes :=
  if isRemote source then fetched web source else stored disk source

/-- The text of the bytes of a source, if they decode: of an address as a whole, of a file
with its line ends made uniform.
-/
def text? (codec : Codec) (source : String) (bytes : Bytes) : Option (List Char) :=
  if isRemote source then
    (codec.decodeWhole bytes).toOption
  else
    (codec.decodeFile bytes).toOption

/-- The text of the bytes of a source under a name of an encoding. -/
def decoded (machine : Machine) (encoding : Option String) (source : String) (bytes : Bytes)
    : Except Failure (List Char) :=
  if isRemote source then
    bodyText machine encoding bytes
  else
    fileText machine encoding bytes

variable {machine : Machine} {disk : Disk} {web : Web} {source name : String}
  {text : List Char} {bytes : Bytes} {codec : Codec}

/-- A source is read from its own bytes. -/
theorem Reads.bytes_eq (h : Reads machine disk web source name text bytes)
    : Source.bytes disk web source = .ok bytes := by
  cases h with
  | nothing remote answered accepted =>
      rw [Source.bytes, if_pos remote]
      exact fetched_ok_iff.mpr ⟨_, answered, accepted⟩
  | body remote answered accepted =>
      rw [Source.bytes, if_pos remote]
      exact fetched_ok_iff.mpr ⟨_, answered, accepted⟩
  | file near kept =>
      rw [Source.bytes, if_neg (by simp [near])]
      exact stored_ok_iff.mpr kept

theorem Reads.decoded_eq (h : Reads machine disk web source name text bytes)
    (clean : '\x00' ∉ name.toList)
    : decoded machine (some name) source bytes = .ok text := by
  cases h with
  | nothing remote =>
      rw [decoded, if_pos remote]
      exact bodyText_ok_iff.mpr ⟨name, ⟨rfl, clean⟩, Or.inl ⟨rfl, rfl⟩⟩
  | body remote _ _ filled known read =>
      rw [decoded, if_pos remote]
      exact bodyText_ok_iff.mpr ⟨name, ⟨rfl, clean⟩, Or.inr ⟨filled, _, known, read⟩⟩
  | file near _ known read =>
      rw [decoded, if_neg (by simp [near])]
      exact fileText_ok_iff.mpr ⟨name, ⟨rfl, clean⟩, _, known, read⟩

/-- Under the name of a codec the text of a source is what the codec decodes. -/
theorem Reads.text?_eq (h : Reads machine disk web source name text bytes)
    (named : Name.meaning? name = some (.text codec))
    : text? codec source bytes = some text := by
  cases h with
  | nothing remote =>
      simp [text?, remote, Except.toOption]
  | body remote _ _ _ known read =>
      obtain rfl := Machine.scheme_unique known named
      rw [text?, if_pos remote, Scheme.bodyText_codec_iff.mp read]
      rfl
  | file near _ known read =>
      obtain rfl := Machine.scheme_unique known named
      rw [text?, if_neg (by simp [near]), Scheme.fileText_codec_iff.mp read]
      rfl

/-- A source is minified to what its bytes as a whole are minified to, since line ends make
no difference. Only a cut mark is no text as a whole.
-/
theorem Reads.minify_eq (h : Reads machine disk web source name text bytes)
    (named : Name.meaning? name = some (.text codec))
    : (codec.CutMark bytes ∧ text = [])
      ∨ ∃ whole,
          codec.decodeWhole bytes = .ok whole
          ∧ Stylesheet.minify text = Stylesheet.minify whole := by
  cases h with
  | nothing => exact Or.inr ⟨[], codec.decodeWhole_nil, rfl⟩
  | body _ _ _ _ known read =>
      obtain rfl := Machine.scheme_unique known named
      exact Or.inr ⟨text, Scheme.bodyText_codec_iff.mp read, rfl⟩
  | file _ _ known read =>
      obtain rfl := Machine.scheme_unique known named
      obtain ⟨stored, found, rfl⟩ :=
        Codec.decodeFile_ok_iff.mp (Scheme.fileText_codec_iff.mp read)
      rcases Codec.decodeStored_ok_iff.mp found with ⟨cut, rfl⟩ | ⟨whole, _⟩
      · exact Or.inl ⟨cut, rfl⟩
      · exact Or.inr ⟨stored, whole, Stylesheet.minify_uniformLines stored⟩

end Source

-----------------------------------------------------------------------------------------
-- Writing that succeeds
-----------------------------------------------------------------------------------------

namespace Disk

/-- What a write leaves that succeeds: the bytes of the text in a file where the path leads. -/
inductive Writes (disk : Disk) (machine : Machine) (path : Path) (name : String)
    (text : List Char)
    : Bytes → Disk → Prop
  | file {scheme : Scheme} {location : Location} {bytes : Bytes} (clean : path.hasNul = false)
    (writable : disk.writable path = .ok location)
    (known : machine.scheme .file name = .ok scheme) (stored : scheme.stored text = .ok bytes)
    (uncut : machine.cut? location bytes = none)
    : Writes disk machine path name text bytes (disk.put location (.file bytes))

theorem write_ok_iff {disk after : Disk} {machine : Machine} {path : Path}
    {encoding : Option String} {text : List Char} {written : Nat}
    : disk.write machine path encoding text = (.ok written, after)
      ↔ ∃ name bytes,
          (encoding = some name ∧ '\x00' ∉ name.toList)
          ∧ disk.Writes machine path name text bytes after
          ∧ bytes.length = written := by
  constructor
  · intro h
    rw [write] at h
    cases usable : usableName .file encoding with
    | error cause => simp [usable] at h
    | ok name =>
        simp only [usable] at h
        split at h
        · cases h
        next clean =>
        cases free : disk.writable path with
        | error refusal => simp [free] at h
        | ok location =>
            simp only [free] at h
            cases known : machine.scheme .file name with
            | error cause => simp [known] at h
            | ok scheme =>
                cases stored : scheme.stored text with
                | error cause => simp [known, stored] at h
                | ok bytes =>
                    cases uncut : machine.cut? location bytes with
                    | some cut => simp [known, stored, uncut] at h
                    | none =>
                        simp only [known, stored, uncut, Prod.mk.injEq, Except.ok.injEq] at h
                        obtain ⟨sized, rfl⟩ := h
                        refine ⟨name, bytes, (usableName_ok_iff .file).mp usable, ?_, sized⟩
                        exact .file (Bool.eq_false_iff.mpr clean) free known stored uncut
  · intro h
    obtain ⟨name, bytes, usable, writes, sized⟩ := h
    cases writes with
    | file clean free known stored uncut =>
        rw [write, (usableName_ok_iff .file).mpr usable]
        simp only [clean, free, known, stored, uncut, sized]
        rfl

end Disk

-----------------------------------------------------------------------------------------
-- Runs that finish
-----------------------------------------------------------------------------------------

namespace Job

/-- How a run finishes, with its report and the disk that is left. -/
inductive Finishes (job : Job) (machine : Machine) (disk : Disk) (web : Web)
    : Report → Disk → Prop
  | written {name : String} {text : List Char} {bytes : Bytes} {path : Path} {written : Bytes}
    {after : Disk} (given : job.encoding = some name) (clean : '\x00' ∉ name.toList)
    (reads : Source.Reads machine disk web job.input name text bytes)
    (named : job.target = .ok path)
    (writes : disk.Writes machine path name (Stylesheet.minify text) written after)
    : Finishes job machine disk web ⟨job.input, path, bytes.length, written.length⟩ after

/-- A run has a report exactly if it finishes with it, by its three steps. -/
theorem run_ok_iff {job : Job} {machine : Machine} {disk after : Disk} {web : Web}
    {report : Report}
    : (job.run machine disk web).result = .ok report ∧ (job.run machine disk web).disk = after
      ↔ job.Finishes machine disk web report after := by
  constructor
  · intro h
    rw [run] at h
    cases read : Source.read machine disk web job.input job.encoding with
    | error cause => simp [read] at h
    | ok found =>
        obtain ⟨text, size⟩ := found
        cases named : job.target with
        | error cause => simp [read, named] at h
        | ok path =>
            cases done : disk.write machine path job.encoding (Stylesheet.minify text) with
            | mk result left =>
                cases result with
                | error cause => simp [read, named, done] at h
                | ok written =>
                    simp only [read, named, done, Except.ok.injEq] at h
                    obtain ⟨rfl, rfl⟩ := h
                    obtain ⟨name, bytes, ⟨given, clean⟩, reads, rfl⟩ :=
                      Source.read_ok_iff.mp read
                    obtain ⟨name', written, ⟨given', _⟩, writes, rfl⟩ :=
                      Disk.write_ok_iff.mp done
                    obtain rfl : name = name' := Option.some.inj (given.symm.trans given')
                    exact .written given clean reads named writes
  · intro h
    cases h with
    | written given clean reads named writes =>
        have read := Source.read_ok_iff.mpr ⟨_, _, ⟨given, clean⟩, reads, rfl⟩
        have done := Disk.write_ok_iff.mpr ⟨_, _, ⟨given, clean⟩, writes, rfl⟩
        rw [run, read]
        simp only [named, done, and_self]

theorem run_requests (job : Job) (machine : Machine) (disk : Disk) (web : Web)
    : (job.run machine disk web).requests = Source.requests job.input job.timeout := by
  rw [run]
  split
  · rfl
  · split
    · rfl
    · split <;> rfl

end Job

end CssMinifier
