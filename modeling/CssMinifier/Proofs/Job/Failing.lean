import CssMinifier.Proofs.Encoding.Codec
import CssMinifier.Proofs.Job.Writing
import CssMinifier.Proofs.Stylesheet.Comment

/-! Failed runs. A run fails while it reads, while it names its output or while it writes. A
text that was read under a codec is written under it once minified, so behind the opened file
such a write fails only if the disk cuts it short.
-/

namespace CssMinifier

open CssMinifier.Encoding

-----------------------------------------------------------------------------------------
-- Minified texts under the codec that read them
-----------------------------------------------------------------------------------------

/-- Minifying adds no characters but spaces. -/
theorem Stylesheet.mem_minify {text : List Char} {c : Char} (h : c ∈ minify text)
    : c = ' ' ∨ c ∈ text := by
  rw [minify_eq, Layout.assembled] at h
  rcases mem_assemble h with space | ⟨solid, member, rfl⟩
  · exact Or.inl space
  · have kept : solid.char ∈ (Layout.ofText (dropComments text)).solids.map Solid.char :=
      List.mem_map_of_mem member
    rw [Layout.map_char_solids, Layout.text_ofText, List.mem_filter] at kept
    exact Or.inr ((dropComments_sublist text).mem kept.1)

/-- A codec encodes what it has read, minified. An empty body is a text under every
codec.
-/
theorem Source.Reads.encodes_minify {machine : Machine} {disk : Disk} {web : Web}
    {source name : String} {text : List Char} {bytes : Bytes}
    (h : Source.Reads machine disk web source name text bytes) {codec : Codec}
    (named : Name.meaning? name = some (.text codec))
    : (codec.encode? (Stylesheet.minify text)).isSome = true := by
  have encodes : (codec.encode? text).isSome = true := by
    cases h with
    | nothing =>
        rw [Codec.encode?_of_decodeWhole codec.decodeWhole_nil]
        rfl
    | body _ _ _ _ known decoded =>
        obtain rfl := Machine.scheme_unique known named
        rw [Codec.encode?_of_decodeWhole (Scheme.bodyText_codec_iff.mp decoded)]
        rfl
    | file _ _ known decoded =>
        obtain rfl := Machine.scheme_unique known named
        exact Codec.encode?_of_decodeFile (Scheme.fileText_codec_iff.mp decoded)
  refine Codec.encode?_isSome_of_mem encodes fun c member => ?_
  exact (Stylesheet.mem_minify member).imp_right Or.inr

/-- Only a further encoding gives up a text that it has read, minified. -/
theorem Source.Reads.givenUp {machine : Machine} {disk : Disk} {web : Web}
    {source name : String} {text : List Char} {bytes : Bytes}
    (h : Source.Reads machine disk web source name text bytes) {scheme : Scheme}
    {failure : Failure} (known : machine.scheme .file name = .ok scheme)
    (failed : scheme.stored (Stylesheet.minify text) = .error failure)
    : ∃ further message,
        scheme = .coding further
        ∧ further.store (Stylesheet.minify text) = .error message
        ∧ failure = .breakdown (.encoder message) := by
  rcases Scheme.stored_error failed with ⟨own, rfl, refused, _⟩ | gaveUp
  · have encodes := h.encodes_minify ((machine.scheme_codec_iff .file).mp known)
    rw [refused] at encodes
    cases encodes
  · exact gaveUp

-----------------------------------------------------------------------------------------
-- Where a run fails
-----------------------------------------------------------------------------------------

namespace Job

variable {job : Job} {machine : Machine} {disk after : Disk} {web : Web} {failure : Failure}

/-- Where a run fails, with the disk that is left. -/
inductive Fails (job : Job) (machine : Machine) (disk : Disk) (web : Web)
    : Failure → Disk → Prop
  | reading {failure : Failure}
    (refused : Source.read machine disk web job.input job.encoding = .error failure)
    : Fails job machine disk web failure disk
  | naming {text : List Char} {size : Nat} {failure : Failure}
    (read : Source.read machine disk web job.input job.encoding = .ok (text, size))
    (unnamed : job.target = .error failure)
    : Fails job machine disk web failure disk
  | writing {text : List Char} {size : Nat} {path : Path} {failure : Failure} {after : Disk}
    (read : Source.read machine disk web job.input job.encoding = .ok (text, size))
    (named : job.target = .ok path)
    (failed
      : disk.write machine path job.encoding (Stylesheet.minify text) = (.error failure, after))
    : Fails job machine disk web failure after

/-- A job has no target only if no output is given and none can be named after its input. -/
theorem target_error (h : job.target = .error failure)
    : job.output = none
      ∧ ∃ error, Source.output job.input = .error error ∧ failure = .unnamed error := by
  rw [target] at h
  split at h
  · cases h
  · next none =>
      split at h
      · cases h
      · next error unnamed => exact ⟨none, error, unnamed, (Except.error.inj h).symm⟩

/-- A failed run fails at one of its three steps, in their order. -/
theorem fails_of_run (failed : (job.run machine disk web).result = .error failure)
    : job.Fails machine disk web failure (job.run machine disk web).disk := by
  rw [run] at failed ⊢
  cases read : Source.read machine disk web job.input job.encoding with
  | error cause =>
      simp only [read, Except.error.injEq] at failed ⊢
      exact failed ▸ .reading read
  | ok found =>
      obtain ⟨text, size⟩ := found
      cases named : job.target with
      | error cause =>
          simp only [read, named, Except.error.injEq] at failed ⊢
          exact failed ▸ .naming read named
      | ok path =>
          cases written : disk.write machine path job.encoding (Stylesheet.minify text) with
          | mk result after =>
              simp only [read, named, written] at failed ⊢
              cases result with
              | error cause =>
                  simp only [Except.error.injEq] at failed ⊢
                  exact failed ▸ .writing read named written
              | ok bytes => cases failed

/-- What a failed run leaves: the disk as it was, or the output without its text. -/
inductive Remains (job : Job) (machine : Machine) (disk : Disk) (web : Web)
    : Failure → Disk → Prop
  | untouched {failure : Failure} (other : failure.isWriting = false)
    : Remains job machine disk web failure disk
  | spoilt {failure : Failure} {name : String} {text : List Char} {bytes left : Bytes}
    {path : Path} {location : Location} (given : job.encoding = some name)
    (clean : '\x00' ∉ name.toList)
    (reads : Source.Reads machine disk web job.input name text bytes)
    (named : job.target = .ok path) (writable : disk.writable path = .ok location)
    (spoilt : Disk.Spoilt machine name location (Stylesheet.minify text) failure left)
    : Remains job machine disk web failure (disk.put location (.file left))

/-- A failed run leaves the disk in one of the two ways, by the step that fails. -/
theorem Fails.remains (h : job.Fails machine disk web failure after)
    : job.Remains machine disk web failure after := by
  cases h with
  | reading refused => exact .untouched (Source.unread_of_read refused).isWriting
  | naming _ unnamed =>
      obtain ⟨_, _, _, rfl⟩ := target_error unnamed
      exact .untouched rfl
  | writing read named failed =>
      obtain ⟨name, bytes, ⟨given, clean⟩, reads, _⟩ := Source.read_ok_iff.mp read
      cases Disk.unwritten_of_write failed with
      | unusable refused =>
          refine .untouched ?_
          rcases usableName_error refused with ⟨_, rfl⟩ | ⟨_, _, _, rfl⟩ <;> rfl
      | nul | refused => exact .untouched rfl
      | spoilt given' writable spoilt =>
          obtain rfl : name = _ := Option.some.inj (given.symm.trans given')
          exact .spoilt given clean reads named writable spoilt

/-- Under the name of a codec an open file gets its text unless the disk cuts it short: the name
is known, and the codec has read the text.
-/
theorem Remains.cut_of_codec (h : job.Remains machine disk web failure after) {name : String}
    {codec : Codec} (given : job.encoding = some name)
    (named : Name.meaning? name = some (.text codec))
    : (failure.isWriting = false ∧ after = disk)
      ∨ ∃ message, failure = .breakdown (.disk message) := by
  cases h with
  | untouched other => exact Or.inl ⟨other, rfl⟩
  | spoilt given' _ reads _ _ spoilt =>
      obtain rfl : name = _ := Option.some.inj (given.symm.trans given')
      have known := (machine.scheme_codec_iff .file).mpr named
      cases spoilt with
      | unknown failed =>
          rw [known] at failed
          cases failed
      | unstored known' failed =>
          obtain ⟨_, _, rfl, _⟩ := reads.givenUp known' failed
          rw [known] at known'
          cases known'
      | cut => exact Or.inr ⟨_, rfl⟩

/-- No run fails on a character that its codec does not know. -/
theorem Remains.ne_unencodable (h : job.Remains machine disk web failure after)
    : failure ≠ .unencodable := by
  rintro rfl
  cases h with
  | untouched other => cases other
  | spoilt given _ reads _ _ spoilt =>
      cases spoilt with
      | unknown failed => rcases Machine.scheme_error failed with other | other <;> cases other
      | unstored known failed =>
          obtain ⟨_, _, _, _, other⟩ := reads.givenUp known failed
          cases other

end Job

end CssMinifier
