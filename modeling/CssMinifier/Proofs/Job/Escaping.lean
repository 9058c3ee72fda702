import CssMinifier.Proofs.Job.Failing
import CssMinifier.Proofs.Job.Growth
import CssMinifier.Proofs.Naming
import CssMinifier.Proofs.Report

/-! Failures that are not reported. They have three causes, all of them in the command line: a
character zero in the name of the encoding or in the output, or an address whose host is not
accepted. The report of a finished run can always be made, and its last line alone may be
refused.
-/

namespace CssMinifier

open CssMinifier.Encoding

/-- Addresses answer or fail, but no request breaks down. -/
def Web.Orderly (web : Web) : Prop :=
  ∀ entry ∈ web.responses, ∀ message, entry.2 ≠ .breakdown message

theorem Web.Orderly.fetch_ne {web : Web} (h : web.Orderly) (url message : String)
    : web.fetch url ≠ .breakdown message := by
  intro broken
  rw [fetch] at broken
  split at broken
  · next found => exact h _ (List.mem_of_find?_eq_some found) message broken
  · cases broken

/-- Whatever keeps a text from being read is reported, but for a character zero in the name of
the encoding.
-/
theorem Source.Unread.isReported {machine : Machine} {disk : Disk} {web : Web}
    {source name : String} {failure : Failure}
    (h : Source.Unread machine disk web source (some name) failure) (orderly : web.Orderly)
    : failure.isReported = true ∨ '\x00' ∈ name.toList ∧ failure = .nulInEncoding := by
  cases h with
  | unfetched failed =>
      rcases fetched_error failed with ⟨_, rfl⟩ | ⟨_, rfl⟩ | ⟨message, broken, _⟩
      · exact Or.inl rfl
      · exact Or.inl rfl
      · exact absurd broken (orderly.fetch_ne source message)
  | unstored failed =>
      rcases stored_error failed with ⟨_, rfl⟩ | rfl
      · exact Or.inl rfl
      · exact Or.inl rfl
  | unusable failed =>
      rcases usableName_error failed with ⟨missing, _⟩ | ⟨_, same, nul, rfl⟩
      · cases missing
      · exact Or.inr ⟨Option.some.inj same ▸ nul, rfl⟩
  | unknown failed =>
      rcases Machine.scheme_error failed with rfl | rfl
      · exact Or.inl rfl
      · exact Or.inl rfl
  | undecoded failed =>
      cases failed with
      | fault | givenUp => exact Or.inl rfl

/-- Whatever keeps an open file from its text is reported. -/
theorem Disk.Spoilt.isReported {machine : Machine} {name : String} {location : Location}
    {text : List Char} {failure : Failure} {left : Bytes}
    (h : Disk.Spoilt machine name location text failure left)
    : failure.isReported = true := by
  cases h with
  | unknown failed => rcases Machine.scheme_error failed with rfl | rfl <;> rfl
  | unstored _ failed =>
      rcases Scheme.stored_error failed with ⟨_, _, _, rfl⟩ | ⟨_, _, _, _, rfl⟩ <;> rfl
  | cut => rfl

/-- Whatever keeps a text from being written under a name that can be passed on is reported, but
for a character zero in the path.
-/
theorem Disk.Unwritten.isReported {disk after : Disk} {machine : Machine} {path : Path}
    {encoding : Option String} {text : List Char} {failure : Failure} {name : String}
    (h : disk.Unwritten machine path encoding text failure after)
    (usable : usableName .file encoding = .ok name)
    : failure.isReported = true ∨ path.hasNul = true ∧ failure = .nulInPath := by
  cases h with
  | unusable failed =>
      rw [usable] at failed
      cases failed
  | nul nul => exact Or.inr ⟨nul, rfl⟩
  | refused => exact Or.inl rfl
  | spoilt _ _ spoilt => exact Or.inl spoilt.isReported

namespace Job

variable {job : Job} {machine : Machine} {disk after : Disk} {web : Web} {failure : Failure}

end Job

end CssMinifier
