import CssMinifier.Encoding.Coding
import CssMinifier.Encoding.Name
import CssMinifier.Number.Binary64
import CssMinifier.Screen

/-! What a run finds around it: the addresses that answer, and the machine that it is done on,
with its further encodings, its writes that may end early, and its screen.

Left out are links, access rights and devices among the files, names and texts with unpaired
surrogates, and records of the log that the screen cannot show, which are taken to be written.
-/

namespace CssMinifier

open CssMinifier.Encoding

-----------------------------------------------------------------------------------------
-- The web
-----------------------------------------------------------------------------------------

/-- The answer of an address: a response with a status and a body, a request that failed, or a
breakdown that is not about the request.
-/
inductive Response
  | answer (status : Int) (body : Bytes)
  | failure (message : String)
  | breakdown (message : String)
deriving DecidableEq

/-- A request that was made, with the seconds it may take. -/
structure Request where
  url : String
  timeout : Option Number.Binary64
deriving DecidableEq

/-- The addresses that answer. -/
structure Web where
  responses : List (String × Response)

/-- What an address answers. An address that is not known cannot be reached. -/
def Web.fetch (web : Web) (url : String) : Response :=
  match web.responses.find? (·.1 = url) with
  | some (_, response) => response
  | none => .failure "no route to host"

-----------------------------------------------------------------------------------------
-- Encodings of a machine
-----------------------------------------------------------------------------------------

/-- How texts are encoded under a name: by an encoding of this library's own, or by a further
one.
-/
inductive Scheme
  | codec (own : Codec)
  | coding (further : Coding)

namespace Scheme

/-- The text of a response body. -/
def bodyText (scheme : Scheme) (body : Bytes) : Except Failure (List Char) :=
  match scheme with
  | .codec own => (own.decodeWhole body).mapError fun fault => .undecodable (.fault fault)
  | .coding further => (further.decodeWhole body).mapError (.breakdown <| .decoder ·)

/-- The text of a file's bytes. -/
def fileText (scheme : Scheme) (bytes : Bytes) : Except Failure (List Char) :=
  match scheme with
  | .codec own => (own.decodeFile bytes).mapError .undecodable
  | .coding further =>
      ((further.decodeStored bytes).map uniformLines).mapError (.breakdown <| .decoder ·)

/-- The bytes that a file gets of a text. -/
def stored (scheme : Scheme) (text : List Char) : Except Failure Bytes :=
  match scheme with
  | .codec own =>
      match own.encode? text with
      | some bytes => .ok bytes
      | none => .error .unencodable
  | .coding further => (further.store text).mapError (.breakdown <| .encoder ·)

@[simp]
theorem mapError_ok_iff {α ε ε' : Type} {result : Except ε α} {f : ε → ε'} {a : α}
    : result.mapError f = .ok a ↔ result = .ok a := by
  cases result with
  | error own => exact iff_of_false nofun nofun
  | ok own => exact ⟨fun same => Except.ok.inj same ▸ rfl, fun same => Except.ok.inj same ▸ rfl⟩

@[simp]
theorem mapError_error_iff {α ε ε' : Type} {result : Except ε α} {f : ε → ε'} {cause : ε'}
    : result.mapError f = .error cause ↔ ∃ own, result = .error own ∧ f own = cause := by
  cases result with
  | error own =>
      constructor
      · intro failed
        exact ⟨own, rfl, Except.error.inj failed⟩
      · rintro ⟨_, same, rfl⟩
        exact Except.error.inj same ▸ rfl
  | ok _ => exact iff_of_false nofun nofun

@[simp]
theorem bodyText_codec_iff {own : Codec} {body : Bytes} {text : List Char}
    : (codec own).bodyText body = .ok text ↔ own.decodeWhole body = .ok text :=
  mapError_ok_iff

@[simp]
theorem fileText_codec_iff {own : Codec} {bytes : Bytes} {text : List Char}
    : (codec own).fileText bytes = .ok text ↔ own.decodeFile bytes = .ok text :=
  mapError_ok_iff

@[simp]
theorem stored_codec_iff {own : Codec} {text : List Char} {bytes : Bytes}
    : (codec own).stored text = .ok bytes ↔ own.encode? text = some bytes := by
  rw [stored]
  cases own.encode? text <;> simp

/-- Bytes that are not decoded are at fault, or the encoding gives up. -/
inductive Undecoded : Failure → Prop
  | fault (error : DecodeError) : Undecoded (.undecodable error)
  | givenUp (message : String) : Undecoded (.breakdown (.decoder message))

theorem undecoded_of_bodyText {scheme : Scheme} {body : Bytes} {failure : Failure}
    (h : scheme.bodyText body = .error failure)
    : Undecoded failure := by
  cases scheme with
  | codec =>
      obtain ⟨fault, _, rfl⟩ := mapError_error_iff.mp h
      exact .fault _
  | coding =>
      obtain ⟨message, _, rfl⟩ := mapError_error_iff.mp h
      exact .givenUp message

theorem undecoded_of_fileText {scheme : Scheme} {bytes : Bytes} {failure : Failure}
    (h : scheme.fileText bytes = .error failure)
    : Undecoded failure := by
  cases scheme with
  | codec =>
      obtain ⟨error, _, rfl⟩ := mapError_error_iff.mp h
      exact .fault error
  | coding =>
      obtain ⟨message, _, rfl⟩ := mapError_error_iff.mp h
      exact .givenUp message

/-- A text that a file cannot get has a character that the codec does not know, or the encoding
gives up.
-/
theorem stored_error {scheme : Scheme} {text : List Char} {failure : Failure}
    (h : scheme.stored text = .error failure)
    : (∃ own, scheme = .codec own ∧ own.encode? text = none ∧ failure = .unencodable)
      ∨ ∃ further message,
          scheme = .coding further
          ∧ further.store text = .error message
          ∧ failure = .breakdown (.encoder message) := by
  cases scheme with
  | codec own =>
      rw [stored] at h
      split at h
      · cases h
      · next refused =>
          cases h
          exact Or.inl ⟨own, rfl, refused, rfl⟩
  | coding further =>
      obtain ⟨message, gave, rfl⟩ := mapError_error_iff.mp h
      exact Or.inr ⟨further, message, rfl, gave, rfl⟩

end Scheme

-----------------------------------------------------------------------------------------
-- The machine
-----------------------------------------------------------------------------------------

/-- A write that ends early: how many bytes the file gets, and what is said about it. -/
structure Cut where
  kept : Nat
  message : String

/-- The machine that a run is done on: what it makes of names that are no encoding of this
library's own, which writes it cuts short, and its screen. An encoding of bodies is one of files
as well. A write is cut for its place and its bytes, whatever else the disk holds.
-/
structure Machine where
  coding? : Use → String → Option Coding
  cut? : Location → Bytes → Option Cut
  screen : Screen
  files_too : ∀ name, (coding? .body name).isSome = true → (coding? .file name).isSome = true

namespace Machine

/-- The machine that only adds the encoding of host names. -/
def standard : Machine where
  coding? _ name := if Name.plain name = "idna" then some Labels.coding else none
  cut? _ _ := none
  screen := .whole
  files_too _ known := known

/-- How texts are encoded under a name on a machine. -/
def scheme (machine : Machine) (use : Use) (name : String) : Except Failure Scheme :=
  match Name.meaning? name with
  | some (.text codec) => .ok (.codec codec)
  | some .transformation => .error (.notText name use)
  | none =>
      match machine.coding? use name with
      | some coding => .ok (.coding coding)
      | none => .error (.unknownEncoding name)

/-- The encodings of this library's own have the same names on every machine. -/
@[simp]
theorem scheme_codec_iff (machine : Machine) (use : Use) {name : String} {codec : Codec}
    : machine.scheme use name = .ok (.codec codec) ↔ Name.meaning? name = some (.text codec) := by
  rw [scheme]
  split
  · next known => simp [known]
  · next transformation => simp [transformation]
  · next unknown =>
      rw [unknown]
      split <;> simp

theorem scheme_unique {machine : Machine} {use : Use} {name : String} {scheme : Scheme}
    {codec : Codec} (known : machine.scheme use name = .ok scheme)
    (named : Name.meaning? name = some (.text codec))
    : scheme = .codec codec :=
  Except.ok.inj (known.symm.trans ((machine.scheme_codec_iff use).mpr named))

/-- What decodes a body under a name has a counterpart for files. -/
theorem scheme_file_of_body {machine : Machine} {name : String} {scheme : Scheme}
    (h : machine.scheme .body name = .ok scheme)
    : ∃ other, machine.scheme .file name = .ok other := by
  rw [Machine.scheme] at h ⊢
  split at h
  · next known => exact ⟨_, rfl⟩
  · cases h
  · split at h
    · next coding found =>
        have held := machine.files_too name (found ▸ rfl)
        obtain ⟨other, found'⟩ := Option.isSome_iff_exists.mp held
        rw [found']
        exact ⟨_, rfl⟩
    · cases h

theorem scheme_error {machine : Machine} {use : Use} {name : String} {failure : Failure}
    (h : machine.scheme use name = .error failure)
    : failure = .unknownEncoding name ∨ failure = .notText name use := by
  rw [scheme] at h
  split at h
  · cases h
  · cases h
    exact Or.inr rfl
  · split at h
    · cases h
    · cases h
      exact Or.inl rfl

end Machine

end CssMinifier
