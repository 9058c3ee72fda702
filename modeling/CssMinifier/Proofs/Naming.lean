import CssMinifier.Proofs.Disk
import CssMinifier.Proofs.Path

/-! Outputs that are named after a source. Every address whose host is accepted names one, and
so does every path with a name of its own; the name is always a single one.
-/

namespace CssMinifier

open CssMinifier.Text

namespace Path

/-- A name without a slash is a path of itself. -/
theorem parse_ofList {name : List Char} (named : isName name = true) (slashless : '/' ∉ name)
    : parse (String.ofList name) = ⟨.working, [name]⟩ := by
  have start : rootOf name = .working := by
    refine rootOf_append .working fun c first slash => slashless ?_
    exact slash ▸ List.mem_of_head? first
  rw [parse, String.toList_ofList, start, fields_eq_singleton slashless,
    List.filter_cons_of_pos named, List.filter_nil]

theorem name_ne_nil_of_isName {root : Root} {name : List Char} (named : isName name = true)
    : (Path.mk root [name]).name ≠ [] := by
  rintro rfl
  cases named

end Path

namespace Source

/-- An address whose host is accepted has a single name for its basis, if only the fallback. -/
theorem basis_remote {source : String} (remote : isRemote source = true) {url : Url}
    (accepted : Url.parse source.toList = .ok url)
    : ∃ name,
        basis source = .ok ⟨.working, [name]⟩ ∧ Path.isName name = true ∧ '/' ∉ name := by
  simp only [basis, if_pos remote, accepted, Except.ok.injEq]
  split
  · exact ⟨fallbackName.toList, by decide +kernel, by decide +kernel, by decide +kernel⟩
  · next filled =>
      have proper := Path.proper_parse (String.ofList url.path)
      have member := Path.name_mem filled
      have named := proper.named _ member
      have slashless := proper.slashless _ member
      exact ⟨_, Path.parse_ofList named slashless, named, slashless⟩

theorem output_of_basis {source : String} {path : Path} (h : basis source = .ok path)
    : output source
      = match path.minified? with
        | some output => .ok output
        | none => .error (.emptyName path) := by
  cases minified : path.minified? with
  | none => simp only [output, h, minified]
  | some output => simp only [Source.output, h, minified]

/-- An address names an output if its host is accepted, and a path if it has a name. -/
theorem output_ok_iff (source : String)
    : (∃ path, output source = .ok path)
      ↔ if isRemote source then
          ∃ url, Url.parse source.toList = .ok url
        else
          (Path.parse source).name ≠ [] := by
  split
  · next remote =>
      constructor
      · intro h
        obtain ⟨path, h⟩ := h
        cases parsed : Url.parse source.toList with
        | ok url => exact ⟨url, rfl⟩
        | error error => simp [output, basis, remote, parsed] at h
      · intro h
        obtain ⟨url, accepted⟩ := h
        obtain ⟨name, based, named, _⟩ := basis_remote remote accepted
        rw [output_of_basis based, Path.minified?, if_neg (Path.name_ne_nil_of_isName named)]
        exact ⟨_, rfl⟩
  · next near =>
      have based : basis source = .ok (Path.parse source) := if_neg near
      rw [output_of_basis based, Path.minified?]
      by_cases named : (Path.parse source).name = []
      · simp [named]
      · simp [named]

end Source

end CssMinifier
