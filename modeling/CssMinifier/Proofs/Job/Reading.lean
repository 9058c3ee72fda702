import CssMinifier.Job

/-! Reading. A text is read in one of three ways: from an empty body, which needs no encoding, from
a body, or from a file. Where it fails, nothing has been written.
-/

namespace CssMinifier

open CssMinifier.Encoding

@[simp]
theorem usableName_ok_iff (use : Use) {encoding : Option String} {name : String}
    : usableName use encoding = .ok name ↔ encoding = some name ∧ '\x00' ∉ name.toList := by
  cases encoding with
  | none => simp [usableName]
  | some given =>
      rw [usableName]
      split
      · next nul =>
          simp only [reduceCtorEq, Option.some.injEq, false_iff]
          intro clean
          exact clean.2 (clean.1 ▸ List.contains_iff_mem.mp nul)
      · next clean =>
          simp only [Except.ok.injEq, Option.some.injEq, iff_self_and]
          intro same
          exact same ▸ fun nul => clean (List.contains_iff_mem.mpr nul)

/-- A name cannot be passed on if it is missing or holds the character zero. -/
theorem usableName_error {use : Use} {encoding : Option String} {failure : Failure}
    (h : usableName use encoding = .error failure)
    : encoding = none ∧ failure = .noEncoding use
      ∨ ∃ name, encoding = some name ∧ '\x00' ∈ name.toList ∧ failure = .nulInEncoding := by
  cases encoding with
  | none =>
      cases h
      exact Or.inl ⟨rfl, rfl⟩
  | some name =>
      rw [usableName] at h
      split at h
      · next nul =>
          cases h
          exact Or.inr ⟨name, rfl, List.contains_iff_mem.mp nul, rfl⟩
      · cases h

namespace Source

variable {machine : Machine} {disk : Disk} {web : Web} {source : String}
  {encoding : Option String}

/-- How a text is read under a name of an encoding, and the bytes that it is read from.
-/
inductive Reads (machine : Machine) (disk : Disk) (web : Web) (source name : String)
    : List Char → Bytes → Prop
  | nothing {status : Int} (remote : isRemote source = true)
    (answered : web.fetch source = .answer status []) (accepted : status < 300)
    : Reads machine disk web source name [] []
  | body {status : Int} {scheme : Scheme} {text : List Char} {bytes : Bytes}
    (remote : isRemote source = true) (answered : web.fetch source = .answer status bytes)
    (accepted : status < 300) (filled : bytes ≠ [])
    (known : machine.scheme .body name = .ok scheme) (decoded : scheme.bodyText bytes = .ok text)
    : Reads machine disk web source name text bytes
  | file {scheme : Scheme} {text : List Char} {bytes : Bytes}
    (near : isRemote source = false)
    (stored : disk.file? (Path.parse source) = .ok (some bytes))
    (known : machine.scheme .file name = .ok scheme) (decoded : scheme.fileText bytes = .ok text)
    : Reads machine disk web source name text bytes

theorem bodyText_ok_iff {body : Bytes} {text : List Char}
    : bodyText machine encoding body = .ok text
      ↔ ∃ name,
          (encoding = some name ∧ '\x00' ∉ name.toList)
          ∧ (body = [] ∧ text = []
            ∨ body ≠ []
              ∧ ∃ scheme,
                  machine.scheme .body name = .ok scheme
                  ∧ scheme.bodyText body = .ok text) := by
  simp only [← usableName_ok_iff .body]
  rw [bodyText]
  cases usableName .body encoding with
  | error failure => simp
  | ok name =>
      by_cases empty : body = []
      · simp [empty, eq_comm]
      · cases found : machine.scheme .body name <;> simp [empty, found]

theorem fileText_ok_iff {bytes : Bytes} {text : List Char}
    : fileText machine encoding bytes = .ok text
      ↔ ∃ name,
          (encoding = some name ∧ '\x00' ∉ name.toList)
          ∧ ∃ scheme,
              machine.scheme .file name = .ok scheme
              ∧ scheme.fileText bytes = .ok text := by
  simp only [← usableName_ok_iff .file]
  rw [fileText]
  cases usableName .file encoding with
  | error failure => simp
  | ok name => cases found : machine.scheme .file name <;> simp [found]

theorem fetched_ok_iff {web : Web} {url : String} {body : Bytes}
    : fetched web url = .ok body
      ↔ ∃ status, web.fetch url = .answer status body ∧ status < 300 := by
  rw [fetched]
  split
  · next failed => simp [failed]
  · next failed => simp [failed]
  · next status found answered =>
      rw [answered]
      by_cases refused : 300 ≤ status
      · simp [refused]
      · have accepted : status < 300 := Int.not_le.mp refused
        simp only [if_neg refused, Except.ok.injEq, Response.answer.injEq]
        constructor
        · intro same
          exact ⟨status, ⟨rfl, same⟩, accepted⟩
        · intro answered
          obtain ⟨_, ⟨_, same⟩, _⟩ := answered
          exact same

theorem stored_ok_iff {disk : Disk} {source : String} {bytes : Bytes}
    : stored disk source = .ok bytes ↔ disk.file? (Path.parse source) = .ok (some bytes) := by
  rw [stored]
  split
  · next refused => simp [refused]
  · next absent => simp [absent]
  · next found => simp [found]

theorem read_remote (remote : isRemote source = true) {text : List Char} {size : Nat}
    : read machine disk web source encoding = .ok (text, size)
      ↔ ∃ body,
          fetched web source = .ok body
          ∧ bodyText machine encoding body = .ok text
          ∧ body.length = size := by
  rw [read, if_pos remote]
  cases fetched web source with
  | error failure => simp
  | ok body => cases found : bodyText machine encoding body <;> simp [found, Except.map]

theorem read_near (near : isRemote source = false) {text : List Char} {size : Nat}
    : read machine disk web source encoding = .ok (text, size)
      ↔ ∃ bytes,
          stored disk source = .ok bytes
          ∧ fileText machine encoding bytes = .ok text
          ∧ bytes.length = size := by
  rw [read, if_neg (by simp [near])]
  cases stored disk source with
  | error failure => simp
  | ok bytes => cases found : fileText machine encoding bytes <;> simp [found, Except.map]

/-- A source is read exactly in one of the three ways, by the kind of source. -/
theorem read_ok_iff {text : List Char} {size : Nat}
    : read machine disk web source encoding = .ok (text, size)
      ↔ ∃ name bytes,
          (encoding = some name ∧ '\x00' ∉ name.toList)
          ∧ Reads machine disk web source name text bytes
          ∧ bytes.length = size := by
  constructor
  · intro h
    cases remote : isRemote source with
    | true =>
        obtain ⟨body, answer, decoded, sized⟩ := (read_remote remote).mp h
        obtain ⟨status, answered, accepted⟩ := fetched_ok_iff.mp answer
        obtain ⟨name, usable, whole⟩ := bodyText_ok_iff.mp decoded
        refine ⟨name, body, usable, ?_, sized⟩
        rcases whole with ⟨rfl, rfl⟩ | ⟨filled, scheme, known, decoded⟩
        · exact .nothing remote answered accepted
        · exact .body remote answered accepted filled known decoded
    | false =>
        obtain ⟨bytes, found, decoded, sized⟩ := (read_near remote).mp h
        obtain ⟨name, usable, scheme, known, decoded⟩ := fileText_ok_iff.mp decoded
        exact ⟨name, bytes, usable, .file remote (stored_ok_iff.mp found) known decoded, sized⟩
  · intro h
    obtain ⟨name, bytes, usable, reads, sized⟩ := h
    cases reads with
    | nothing remote answered accepted =>
        have answer := fetched_ok_iff.mpr ⟨_, answered, accepted⟩
        have decoded : bodyText machine encoding [] = .ok [] :=
          bodyText_ok_iff.mpr ⟨name, usable, Or.inl ⟨rfl, rfl⟩⟩
        exact (read_remote remote).mpr ⟨[], answer, decoded, sized⟩
    | body remote answered accepted filled known decoded =>
        have answer := fetched_ok_iff.mpr ⟨_, answered, accepted⟩
        have decoded := bodyText_ok_iff.mpr ⟨name, usable, Or.inr ⟨filled, _, known, decoded⟩⟩
        exact (read_remote remote).mpr ⟨bytes, answer, decoded, sized⟩
    | file near kept known decoded =>
        have found := stored_ok_iff.mpr kept
        have decoded := fileText_ok_iff.mpr ⟨name, usable, _, known, decoded⟩
        exact (read_near near).mpr ⟨bytes, found, decoded, sized⟩

end Source

-----------------------------------------------------------------------------------------
-- Failed reading
-----------------------------------------------------------------------------------------

/-- Holds for the failures of a text that was to be written to an open file. -/
def Failure.isWriting : Failure → Bool
  | .unencodable | .breakdown (.encoder _) | .breakdown (.disk _) => true
  | _ => false

namespace Source

variable {machine : Machine} {disk : Disk} {web : Web} {source : String}
  {encoding : Option String}

theorem fetched_error {web : Web} {url : String} {failure : Failure}
    (h : fetched web url = .error failure)
    : (∃ message, failure = .requestFailed message)
      ∨ (∃ status, failure = .badStatus url status)
      ∨ ∃ message, web.fetch url = .breakdown message ∧ failure = .breakdown (.web message) := by
  rw [fetched] at h
  split at h
  · next message _ =>
      cases h
      exact Or.inl ⟨message, rfl⟩
  · next message answered =>
      cases h
      exact Or.inr (Or.inr ⟨message, answered, rfl⟩)
  · next status _ _ =>
      split at h
      · cases h
        exact Or.inr (Or.inl ⟨status, rfl⟩)
      · cases h

theorem stored_error {disk : Disk} {source : String} {failure : Failure}
    (h : stored disk source = .error failure)
    : (∃ refusal, failure = .refused refusal (Path.parse source))
      ∨ failure = .inputNotFound source := by
  rw [stored] at h
  split at h
  · next refusal _ =>
      cases h
      exact Or.inl ⟨refusal, rfl⟩
  · cases h
    exact Or.inr rfl
  · cases h

/-- Why a text is not read: its bytes cannot be had, or the name of the encoding is of no use,
or the bytes are not decoded.
-/
inductive Unread (machine : Machine) (disk : Disk) (web : Web) (source : String)
    (encoding : Option String)
    : Failure → Prop
  | unfetched {failure : Failure} (failed : fetched web source = .error failure)
    : Unread machine disk web source encoding failure
  | unstored {failure : Failure} (failed : stored disk source = .error failure)
    : Unread machine disk web source encoding failure
  | unusable {use : Use} {failure : Failure} (failed : usableName use encoding = .error failure)
    : Unread machine disk web source encoding failure
  | unknown {use : Use} {name : String} {failure : Failure}
    (failed : machine.scheme use name = .error failure)
    : Unread machine disk web source encoding failure
  | undecoded {failure : Failure} (failed : Scheme.Undecoded failure)
    : Unread machine disk web source encoding failure

theorem unread_of_bodyText {body : Bytes} {failure : Failure}
    (h : bodyText machine encoding body = .error failure)
    : Unread machine disk web source encoding failure := by
  rw [bodyText] at h
  split at h
  · next failed => exact Except.error.inj h ▸ .unusable failed
  · split at h
    · cases h
    · split at h
      · next failed => exact Except.error.inj h ▸ .unknown failed
      · exact .undecoded (Scheme.undecoded_of_bodyText h)

theorem unread_of_fileText {bytes : Bytes} {failure : Failure}
    (h : fileText machine encoding bytes = .error failure)
    : Unread machine disk web source encoding failure := by
  rw [fileText] at h
  split at h
  · next failed => exact Except.error.inj h ▸ .unusable failed
  · split at h
    · next failed => exact Except.error.inj h ▸ .unknown failed
    · exact .undecoded (Scheme.undecoded_of_fileText h)

/-- A text that is not read has one of the causes, by the kind of source. -/
theorem unread_of_read {failure : Failure}
    (h : read machine disk web source encoding = .error failure)
    : Unread machine disk web source encoding failure := by
  rw [read] at h
  split at h
  · split at h
    · next failed => exact Except.error.inj h ▸ .unfetched failed
    · next body _ =>
        cases decoded : bodyText machine encoding body with
        | error cause =>
            simp only [decoded, Except.map, Except.error.injEq] at h
            exact h ▸ unread_of_bodyText decoded
        | ok text => simp [decoded, Except.map] at h
  · split at h
    · next failed => exact Except.error.inj h ▸ .unstored failed
    · next bytes _ =>
        cases decoded : fileText machine encoding bytes with
        | error cause =>
            simp only [decoded, Except.map, Except.error.injEq] at h
            exact h ▸ unread_of_fileText decoded
        | ok text => simp [decoded, Except.map] at h

/-- Reading writes nothing, so nothing that keeps a text from being read is about writing. -/
theorem Unread.isWriting {failure : Failure}
    (h : Unread machine disk web source encoding failure)
    : failure.isWriting = false := by
  cases h with
  | unfetched failed => rcases fetched_error failed with ⟨_, rfl⟩ | ⟨_, rfl⟩ | ⟨_, _, rfl⟩ <;> rfl
  | unstored failed => rcases stored_error failed with ⟨_, rfl⟩ | rfl <;> rfl
  | unusable failed => rcases usableName_error failed with ⟨_, rfl⟩ | ⟨_, _, _, rfl⟩ <;> rfl
  | unknown failed => rcases Machine.scheme_error failed with rfl | rfl <;> rfl
  | undecoded failed => cases failed <;> rfl

end Source

end CssMinifier
