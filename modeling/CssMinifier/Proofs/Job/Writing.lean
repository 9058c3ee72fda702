import CssMinifier.Proofs.Disk
import CssMinifier.Proofs.Job.Reading

/-! Failed writing. A write fails before the file is opened, and leaves the disk as it was, or
behind that, and leaves a file without its text.
-/

namespace CssMinifier

open CssMinifier.Encoding

namespace Disk

/-- Why an open file does not get its text, and what it holds instead. -/
inductive Spoilt (machine : Machine) (name : String) (location : Location) (text : List Char)
    : Failure → Bytes → Prop
  | unknown {failure : Failure} (failed : machine.scheme .file name = .error failure)
    : Spoilt machine name location text failure []
  | unstored {scheme : Scheme} {failure : Failure}
    (known : machine.scheme .file name = .ok scheme) (failed : scheme.stored text = .error failure)
    : Spoilt machine name location text failure []
  | cut {scheme : Scheme} {bytes : Bytes} {cut : Cut}
    (known : machine.scheme .file name = .ok scheme) (stored : scheme.stored text = .ok bytes)
    (early : machine.cut? location bytes = some cut)
    : Spoilt machine name location text (.breakdown (.disk cut.message)) (bytes.take cut.kept)

/-- Why a write fails, with the disk that is left. -/
inductive Unwritten (disk : Disk) (machine : Machine) (path : Path) (encoding : Option String)
    (text : List Char)
    : Failure → Disk → Prop
  | unusable {failure : Failure} (failed : usableName .file encoding = .error failure)
    : Unwritten disk machine path encoding text failure disk
  | nul (nul : path.hasNul = true) : Unwritten disk machine path encoding text .nulInPath disk
  | refused {refusal : Refusal} (failed : disk.writable path = .error refusal)
    : Unwritten disk machine path encoding text (.refused refusal path) disk
  | spoilt {failure : Failure} {name : String} {location : Location} {left : Bytes}
    (given : encoding = some name) (writable : disk.writable path = .ok location)
    (spoilt : Spoilt machine name location text failure left)
    : Unwritten disk machine path encoding text failure (disk.put location (.file left))

/-- A failed write has one of the causes, by the step that fails. -/
theorem unwritten_of_write {disk after : Disk} {machine : Machine} {path : Path}
    {encoding : Option String} {text : List Char} {failure : Failure}
    (h : disk.write machine path encoding text = (.error failure, after))
    : disk.Unwritten machine path encoding text failure after := by
  rw [write] at h
  cases usable : usableName .file encoding with
  | error cause =>
      simp only [usable, Prod.mk.injEq, Except.error.injEq] at h
      obtain ⟨rfl, rfl⟩ := h
      exact .unusable usable
  | ok name =>
      obtain ⟨given, _⟩ := (usableName_ok_iff .file).mp usable
      simp only [usable] at h
      split at h
      · next nul =>
          cases h
          exact .nul nul
      cases free : disk.writable path with
      | error refusal =>
          simp only [free, Prod.mk.injEq, Except.error.injEq] at h
          obtain ⟨rfl, rfl⟩ := h
          exact .refused free
      | ok location =>
          simp only [free] at h
          -- The file is empty from here on.
          cases known : machine.scheme .file name with
          | error cause =>
              simp only [known, Prod.mk.injEq, Except.error.injEq] at h
              obtain ⟨rfl, rfl⟩ := h
              exact .spoilt given free (.unknown known)
          | ok scheme =>
              cases stored : scheme.stored text with
              | error cause =>
                  simp only [known, stored, Prod.mk.injEq, Except.error.injEq] at h
                  obtain ⟨rfl, rfl⟩ := h
                  exact .spoilt given free (.unstored known stored)
              | ok bytes =>
                  cases early : machine.cut? location bytes with
                  | none => simp [known, stored, early] at h
                  | some cut =>
                      simp only [known, stored, early, Prod.mk.injEq, Except.error.injEq] at h
                      obtain ⟨rfl, rfl⟩ := h
                      exact .spoilt given free (.cut known stored early)

end Disk

end CssMinifier
