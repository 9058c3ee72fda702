import CssMinifier.Proofs.Job.Failing

/-! Failed runs and the disk. Whatever fails, nothing but the output changes, and the output
changes in three cases only: an empty body was read under a name that no encoding has, a further
encoding gave up the text that it had read itself, or the disk cut the write short.
-/

namespace CssMinifier.Job

open CssMinifier.Encoding

variable {job : Job} {machine : Machine} {disk : Disk} {web : Web} {failure : Failure}

-----------------------------------------------------------------------------------------
-- The output and the cases that spoil it
-----------------------------------------------------------------------------------------

/-- Where the file stands that a job writes. -/
def Destination (job : Job) (disk : Disk) (location : Location) : Prop :=
  ∃ path, job.target = .ok path ∧ disk.locate path = .ok location

/-- An address answers with an empty body, and the name of the encoding has none. -/
structure Codeless (job : Job) (machine : Machine) (web : Web) : Prop where
  remote : Source.isRemote job.input = true
  empty : ∃ status, web.fetch job.input = .answer status [] ∧ status < 300
  unknown
    : ∃ name failure, job.encoding = some name ∧ machine.scheme .file name = .error failure

/-- How a failed run leaves its output at a location without the text that was to be written:
empty, or with a beginning of the bytes.
-/
inductive Spoils (job : Job) (machine : Machine) (disk : Disk) (web : Web) (location : Location)
    : Failure → Bytes → Prop
  | codeless {failure : Failure} (codeless : job.Codeless machine web)
    : Spoils job machine disk web location failure []
  | givenUp {name : String} {further : Coding} {text : List Char} {size : Nat} {message : String}
    (given : job.encoding = some name)
    (known : machine.scheme .file name = .ok (.coding further))
    (read : Source.read machine disk web job.input job.encoding = .ok (text, size))
    (refused : further.store (Stylesheet.minify text) = .error message)
    : Spoils job machine disk web location (.breakdown (.encoder message)) []
  | cut {name : String} {scheme : Scheme} {text : List Char} {size : Nat} {bytes : Bytes}
    {cut : Cut} (given : job.encoding = some name)
    (known : machine.scheme .file name = .ok scheme)
    (read : Source.read machine disk web job.input job.encoding = .ok (text, size))
    (stored : scheme.stored (Stylesheet.minify text) = .ok bytes)
    (early : machine.cut? location bytes = some cut)
    : Spoils job machine disk web location (.breakdown (.disk cut.message))
        (bytes.take cut.kept)

/-- An open file without its text is one of the three cases: reading has looked the name up as
well unless there was nothing to decode, and no codec gives up what it has read.
-/
theorem spoils_of_spoilt {name : String} {text : List Char} {bytes left : Bytes}
    {location : Location} (given : job.encoding = some name) (clean : '\x00' ∉ name.toList)
    (reads : Source.Reads machine disk web job.input name text bytes)
    (spoilt : Disk.Spoilt machine name location (Stylesheet.minify text) failure left)
    : job.Spoils machine disk web location failure left := by
  have read : Source.read machine disk web job.input job.encoding = .ok (text, bytes.length) :=
    Source.read_ok_iff.mpr ⟨name, bytes, ⟨given, clean⟩, reads, rfl⟩
  cases spoilt with
  | unknown failed =>
      cases reads with
      | nothing remote answered accepted =>
          exact .codeless ⟨remote, ⟨_, answered, accepted⟩, ⟨name, failure, given, failed⟩⟩
      | body _ _ _ _ known =>
          obtain ⟨other, known'⟩ := Machine.scheme_file_of_body known
          rw [known'] at failed
          cases failed
      | file _ _ known =>
          rw [known] at failed
          cases failed
  | unstored known failed =>
      obtain ⟨further, message, rfl, refused, rfl⟩ := reads.givenUp known failed
      exact .givenUp given known read refused
  | cut known stored early => exact .cut given known read stored early

/-- The output that a failed run spoils stands where no directory did. -/
theorem Remains.disk_eq {after : Disk} (h : job.Remains machine disk web failure after)
    : after = disk
      ∨ ∃ location left,
          job.Destination disk location
          ∧ job.Spoils machine disk web location failure left
          ∧ disk.find? location ≠ some .directory
          ∧ after = disk.put location (.file left) := by
  cases h with
  | untouched => exact Or.inl rfl
  | spoilt given clean reads named writable spoilt =>
      obtain ⟨found, free⟩ := Disk.writable_ok writable
      have spoils := spoils_of_spoilt given clean reads spoilt
      exact Or.inr ⟨_, _, ⟨_, named, found⟩, spoils, free, rfl⟩

-----------------------------------------------------------------------------------------
-- Atomicity
-----------------------------------------------------------------------------------------

/-- A failed run changes nothing but its output: every other location keeps what stood
there, every path that leads elsewhere finds the same file, and the output is as it was
unless it is spoilt in one of the three cases, which tell what it holds.
-/
theorem run_error_frame (failed : (job.run machine disk web).result = .error failure)
    : (∀ location,
        ¬ job.Destination disk location
        → (job.run machine disk web).disk.find? location = disk.find? location)
      ∧ (∀ path,
          (∀ location, job.Destination disk location → disk.locate path ≠ .ok location)
          → (job.run machine disk web).disk.file? path = disk.file? path)
      ∧ ((job.run machine disk web).disk = disk
        ∨ ∃ location left,
            job.Destination disk location
            ∧ job.Spoils machine disk web location failure left
            ∧ (job.run machine disk web).disk.find? location = some (.file left)) := by
  rcases (fails_of_run failed).remains.disk_eq with
    same | ⟨location, left, destination, spoils, free, spoilt⟩
  · rw [same]
    exact ⟨fun _ _ => rfl, fun _ _ => rfl, Or.inl rfl⟩
  · rw [spoilt]
    refine ⟨?_, ?_, Or.inr ⟨location, left, destination, spoils, ?_⟩⟩
    · intro other elsewhere
      have apart : other ≠ location := by
        intro meets
        exact elsewhere (meets ▸ destination)
      simp [free, apart]
    · intro path elsewhere
      exact Disk.file?_put_of_ne free left (elsewhere location destination)
    · simp [free]

/-- A disk that is full behind four bytes leaves those of an output that held another. -/
theorem run_error_frame_cut
    : let machine : Machine :=
        { Machine.standard with
          cut? _ bytes := if 4 < bytes.length then some ⟨4, "No space left"⟩ else none }
      let job : Job := ⟨"a.css", some (Path.parse "b.css"), some "utf-8", none⟩
      let disk : Disk :=
        ⟨[], [(["a.css".toList], .file [97, 123, 98, 58, 32, 99, 125]),
          (["b.css".toList], .file [120])]⟩
      let web : Web := ⟨[]⟩
      (job.run machine disk web).result = .error (.breakdown (.disk "No space left"))
      ∧ (job.run machine disk web).disk.find? ["b.css".toList]
        = some (.file [97, 123, 98, 58])
      ∧ ((job.run machine disk web).disk = disk
        ∨ ∃ location left,
            job.Destination disk location
            ∧ job.Spoils machine disk web location (.breakdown (.disk "No space left")) left
            ∧ (job.run machine disk web).disk.find? location = some (.file left)) := by
  intro machine job disk web
  have failed
      : (job.run machine disk web).result = .error (.breakdown (.disk "No space left")) := by
    decide +kernel
  exact ⟨failed, by decide +kernel, (run_error_frame failed).2.2⟩

/-- The encoding of host names reads a rule for a class from a file, and gives up its empty first
label when it is written: the output that held a byte is empty.
-/
theorem run_error_frame_givenUp
    : let job : Job := ⟨"a.css", some (Path.parse "b.css"), some "idna", none⟩
      let disk : Disk :=
        ⟨[], [(["a.css".toList], .file [46, 97, 123, 116, 111, 112, 58, 48, 125]),
          (["b.css".toList], .file [120])]⟩
      let web : Web := ⟨[]⟩
      (job.run .standard disk web).result
        = .error (.breakdown (.encoder "label empty or too long"))
      ∧ Source.isRemote job.input = false
      ∧ disk.find? ["b.css".toList] = some (.file [120])
      ∧ (job.run .standard disk web).disk.find? ["b.css".toList] = some (.file []) := by
  intro job disk web
  refine ⟨?_, ?_, ?_, ?_⟩ <;> decide +kernel

end CssMinifier.Job
