import CssMinifier.Proofs.Text.Fields
import CssMinifier.Source

/-! Paths and their texts. A path that comes from a text is read back from its own text, which
is never an address, and so is the path of a minified form.
-/

namespace CssMinifier

-----------------------------------------------------------------------------------------
-- Paths that come from a text
-----------------------------------------------------------------------------------------

namespace Path

open CssMinifier.Text

/-- A path whose names mean something and hold no slash. -/
structure Proper (path : Path) : Prop where
  named : ∀ name ∈ path.names, isName name = true
  slashless : ∀ name ∈ path.names, '/' ∉ name

theorem proper_parse (text : String)
    : (parse text).Proper where
  named _ member := (List.mem_filter.mp member).2
  slashless _ member := not_mem_of_mem_fields (List.mem_filter.mp member).1

/-- A joined list of names is empty if the list is, and does not start with a slash. -/
theorem Proper.joined_cases {path : Path} (h : path.Proper)
    : path.names = [] ∨ ∃ c rest, joined '/' path.names = c :: rest ∧ c ≠ '/' := by
  cases names : path.names with
  | nil => exact Or.inl rfl
  | cons first more =>
      have named := h.named first (by simp [names])
      have slashless := h.slashless first (by simp [names])
      cases first with
      | nil => cases named
      | cons c tail =>
          have apart : c ≠ '/' := by
            intro slash
            simp [slash] at slashless
          refine Or.inr ?_
          cases more with
          | nil => exact ⟨c, tail, rfl, apart⟩
          | cons next others => exact ⟨c, _, rfl, apart⟩

theorem rootOf_append (root : Root) {text : List Char} (h : ∀ c, text.head? = some c → c ≠ '/')
    : rootOf (root.text ++ text) = root := by
  have none : text.takeWhile (· = '/') = [] := by
    cases text with
    | nil => rfl
    | cons c rest => simp [h c rfl]
  cases root <;> simp [rootOf, Root.text, none]

theorem filter_fields_append (root : Root) (text : List Char)
    : (fields '/' (root.text ++ text)).filter isName = (fields '/' text).filter isName := by
  cases root <;> simp [Root.text, fields, isName]

theorem Proper.filter_fields {path : Path} (h : path.Proper)
    : (fields '/' (joined '/' path.names)).filter isName = path.names := by
  by_cases empty : path.names = []
  · rw [empty]
    rfl
  · rw [fields_joined empty h.slashless, List.filter_eq_self]
    exact h.named

/-- A path that comes from a text is read back from its own text. -/
theorem Proper.parse_text {path : Path} (h : path.Proper)
    : parse path.text = path := by
  have head : ∀ c, (joined '/' path.names).head? = some c → c ≠ '/' := by
    intro c first
    rcases h.joined_cases with empty | ⟨d, rest, he, apart⟩
    · rw [empty] at first
      cases first
    · rw [he] at first
      exact Option.some.inj first ▸ apart
  rw [text]
  split
  · next bare =>
      obtain ⟨root, names⟩ := List.append_eq_nil_iff.mp bare
      have names : path.names = [] := by
        rcases h.joined_cases with empty | ⟨c, rest, he, _⟩
        · exact empty
        · rw [he] at names
          cases names
      obtain ⟨root', names'⟩ := path
      cases root' with
      | working =>
          obtain rfl : names' = [] := names
          rfl
      | top => cases root
      | double => cases root
  · rw [parse, String.toList_ofList, rootOf_append _ head, filter_fields_append,
      h.filter_fields]

-----------------------------------------------------------------------------------------
-- Paths of minified forms
-----------------------------------------------------------------------------------------

theorem mem_minifiedName {name : List Char} {c : Char} (h : c ∈ minifiedName name)
    : c ∈ name ∨ c ∈ ['.', 'm', 'i', 'n'] := by
  rw [minifiedName, List.mem_append, List.mem_append] at h
  have whole := splitName_append name
  rcases h with (stem | infix_) | extension
  · exact Or.inl (whole ▸ List.mem_append_left _ stem)
  · exact Or.inr infix_
  · exact Or.inl (whole ▸ List.mem_append_right _ extension)

theorem isName_minifiedName (name : List Char)
    : isName (minifiedName name) = true := by
  have long : 4 ≤ (minifiedName name).length := by
    simp only [minifiedName, List.length_append, List.length_cons, List.length_nil]
    omega
  have filled : minifiedName name ≠ [] := by
    intro empty
    simp [empty] at long
  have undotted : minifiedName name ≠ ['.'] := by
    intro dot
    simp [dot] at long
  simp [isName, filled, undotted]

/-- A path with a name has it for the last of its names. -/
theorem exists_getLast_eq_name {path : Path} (named : path.name ≠ [])
    : ∃ filled, path.names.getLast filled = path.name := by
  have filled : path.names ≠ [] := by
    intro empty
    exact named (by rw [name, empty]; rfl)
  refine ⟨filled, ?_⟩
  rw [name, List.getLastD_eq_getLast?, List.getLast?_eq_some_getLast filled]
  rfl

theorem name_mem {path : Path} (named : path.name ≠ [])
    : path.name ∈ path.names := by
  obtain ⟨filled, last⟩ := exists_getLast_eq_name named
  rw [← last]
  exact List.getLast_mem filled

theorem Proper.minified? {path output : Path} (h : path.Proper)
    (minified : path.minified? = some output)
    : output.Proper := by
  rw [Path.minified?] at minified
  split at minified
  · cases minified
  · next filled =>
      obtain rfl := Option.some.inj minified
      have last := name_mem filled
      constructor
      · intro name member
        rcases List.mem_append.mp member with front | own
        · exact h.named name (List.dropLast_subset _ front)
        · obtain rfl := List.mem_singleton.mp own
          exact isName_minifiedName _
      · intro name member slash
        rcases List.mem_append.mp member with front | own
        · exact h.slashless name (List.dropLast_subset _ front) slash
        · obtain rfl := List.mem_singleton.mp own
          rcases mem_minifiedName slash with inside | added
          · exact h.slashless _ last inside
          · simp at added

end Path

namespace Source

theorem proper_output {source : String} {path : Path} (h : output source = .ok path)
    : path.Proper := by
  rw [output] at h
  split at h
  · cases h
  · next basis found =>
      have proper : basis.Proper := by
        rw [Source.basis] at found
        split at found
        · split at found
          · cases found
          · exact Except.ok.inj found ▸ Path.proper_parse _
        · exact Except.ok.inj found ▸ Path.proper_parse _
      split at h
      · next output minified => exact Except.ok.inj h ▸ proper.minified? minified
      · cases h

/-- A scheme starts with a letter and holds no slash. -/
theorem scheme_cases {scheme : List Char} (h : scheme ∈ schemes)
    : (∃ rest, scheme = 'h' :: rest) ∧ '/' ∉ scheme ++ [':'] := by
  rcases List.mem_cons.mp h with rfl | h
  · exact ⟨⟨_, rfl⟩, by decide⟩
  · obtain rfl := List.mem_singleton.mp h
    exact ⟨⟨_, rfl⟩, by decide⟩

/-- The text of a path is no address: behind the colon of a scheme a name would be empty. -/
theorem isRemote_text {path : Path} (h : path.Proper)
    : isRemote path.text = false := by
  refine Bool.eq_false_iff.mpr fun remote => ?_
  obtain ⟨scheme, known, start⟩ := List.any_eq_true.mp remote
  obtain ⟨⟨letters, letter⟩, slashless⟩ := scheme_cases known
  obtain ⟨rest, whole⟩ := List.isPrefixOf_iff_prefix.mp start
  rw [Path.text] at whole
  split at whole
  · simp [letter] at whole
  · rw [String.toList_ofList] at whole
    obtain ⟨root, names⟩ := path
    cases root with
    | top => simp [letter, Root.text] at whole
    | double => simp [letter, Root.text] at whole
    | working =>
        have parts : Text.fields '/' (Text.joined '/' names)
            = (scheme ++ [':']) :: [] :: Text.fields '/' rest := by
          have whole : (scheme ++ [':']) ++ '/' :: ([] ++ '/' :: rest) = Text.joined '/' names := by
            simpa [Root.text] using whole
          rw [← whole, Text.fields_append slashless, Text.fields_append (by simp)]
        have filled : names ≠ [] := by
          intro empty
          rw [empty] at parts
          simp [Text.joined, Text.fields] at parts
        rw [Text.fields_joined filled h.slashless] at parts
        have unnamed := h.named [] (by simp [parts])
        cases unnamed

end Source

end CssMinifier
