import CssMinifier.Proofs.Naming.Beside
import Mathlib.Data.List.Basic

/-! Outputs of addresses. Whatever an address holds, its output is one name in the working
directory, and what stands behind a question mark or a number sign has no part in it.
-/

namespace CssMinifier

-----------------------------------------------------------------------------------------
-- Parts of marked addresses
-----------------------------------------------------------------------------------------

namespace Url

/-- The characters that end the path of an address. -/
def marks : List Char := ['?', '#']

theorem meaning_of_mark
    : ∀ mark ∈ marks, isIgnored mark = false ∧ endsAuthority mark = true := by
  simp [marks, isIgnored, endsAuthority]

/-- What stands behind the scheme of an address. -/
def body (address : List Char) : List Char :=
  (Text.behind '/' (address.filter (!isIgnored ·))).drop 1

/-- What stands behind the authority of an address, up to the first mark. -/
def fullPath (address : List Char) : List Char :=
  Text.before '?' (Text.before '#' ((body address).dropWhile (!endsAuthority ·)))

theorem authority_parts (address : List Char)
    : (parts address).authority = (body address).takeWhile (!endsAuthority ·) :=
  rfl

theorem path_parts (address : List Char)
    : (parts address).path = (splitParameters (fullPath address)).1 :=
  rfl

/-- The first mark ends the path, whichever it is. -/
theorem before_marks {text : List Char} (unmarked : ∀ mark ∈ marks, mark ∉ text) {mark : Char}
    (h : mark ∈ marks) (rest : List Char)
    : Text.before '?' (Text.before '#' (text ++ mark :: rest)) = text := by
  have unasked : '?' ∉ text := unmarked _ (by simp [marks])
  have unnumbered : '#' ∉ text := unmarked _ (by simp [marks])
  simp only [marks, List.mem_cons, List.not_mem_nil, or_false] at h
  rcases h with rfl | rfl
  · have kept : Text.before '#' ('?' :: rest) = '?' :: Text.before '#' rest := by
      simp [Text.before]
    rw [Text.before_append unnumbered, kept]
    simp [unasked]
  · simp [unnumbered, unasked]

theorem unmarked_body {address : List Char} (unmarked : ∀ mark ∈ marks, mark ∉ address)
    : ∀ mark ∈ marks, mark ∉ body address := by
  intro mark h member
  have kept := (List.dropWhile_suffix _).mem (List.mem_of_mem_drop (List.mem_of_mem_drop member))
  exact unmarked mark h (List.mem_of_mem_filter kept)

/-- What is behind the authority of an address without marks. -/
theorem unmarked_remainder {address : List Char} (unmarked : ∀ mark ∈ marks, mark ∉ address)
    : ∀ mark ∈ marks, mark ∉ (body address).dropWhile (!endsAuthority ·) := by
  intro mark h member
  exact unmarked_body unmarked mark h ((List.dropWhile_suffix _).mem member)

theorem fullPath_unmarked {address : List Char} (unmarked : ∀ mark ∈ marks, mark ∉ address)
    : fullPath address = (body address).dropWhile (!endsAuthority ·) := by
  have behind := unmarked_remainder unmarked
  rw [fullPath, Text.before_eq_self (behind '#' (by simp [marks])),
    Text.before_eq_self (behind '?' (by simp [marks]))]

end Url

namespace Source

/-- Behind the scheme of an address stands all that stands behind its two slashes. -/
theorem body_append {source : String} (remote : isRemote source = true) (rest : List Char)
    : Url.body (source.toList ++ rest)
      = Url.body source.toList ++ rest.filter (!Url.isIgnored ·) := by
  obtain ⟨scheme, known, start⟩ := List.any_eq_true.mp remote
  obtain ⟨tail, whole⟩ := List.isPrefixOf_iff_prefix.mp start
  rw [← whole]
  rcases List.mem_cons.mp known with rfl | known
  · simp [Url.body, Url.isIgnored, Text.behind]
  · obtain rfl := List.mem_singleton.mp known
    simp [Url.body, Url.isIgnored, Text.behind]

theorem isRemote_of_prefix {source other : String} (remote : isRemote source = true)
    (start : source.toList <+: other.toList)
    : isRemote other = true := by
  obtain ⟨scheme, known, led⟩ := List.any_eq_true.mp remote
  refine List.any_eq_true.mpr ⟨scheme, known, ?_⟩
  rw [List.isPrefixOf_iff_prefix] at led ⊢
  exact led.trans start

/-- Two addresses that agree on authority and path are named alike. -/
theorem output_congr {source other : String} (remote : isRemote source = true)
    (remote' : isRemote other = true)
    (authority : (Url.parts other.toList).authority = (Url.parts source.toList).authority)
    (path : (Url.parts other.toList).path = (Url.parts source.toList).path)
    : output other = output source := by
  have based : basis other = basis source := by
    simp only [basis, if_pos remote, if_pos remote', Url.parse, authority]
    cases Url.checkAuthority (Url.parts source.toList).authority with
    | error error => rfl
    | ok _ => simp only [path]
  rw [output, based, output]

/-- What stands behind a mark has no part in a name. -/
theorem output_marked {source other : String} (remote : isRemote source = true)
    (unmarked : ∀ mark ∈ Url.marks, mark ∉ source.toList) {mark : Char}
    (h : mark ∈ Url.marks) {rest : List Char} (whole : other.toList = source.toList ++ mark :: rest)
    : output other = output source := by
  obtain ⟨meant, ends⟩ := Url.meaning_of_mark mark h
  have remote' := isRemote_of_prefix remote ⟨_, whole.symm⟩
  have bodies : Url.body other.toList
      = Url.body source.toList ++ mark :: rest.filter (!Url.isIgnored ·) := by
    rw [whole, body_append remote, List.filter_cons_of_pos (by simp [meant])]
  refine output_congr remote remote' ?_ ?_
  · rw [Url.authority_parts, Url.authority_parts, bodies,
      Text.takeWhile_append_stop (by simp [ends])]
  · rw [Url.path_parts, Url.path_parts, Url.fullPath_unmarked unmarked, Url.fullPath, bodies,
      Text.dropWhile_append_stop (by simp [ends]),
      Url.before_marks (Url.unmarked_remainder unmarked) h]

-----------------------------------------------------------------------------------------
-- Outputs of addresses
-----------------------------------------------------------------------------------------

/-- An address whose host is accepted names the minified form of a single name. -/
theorem output_remote {source : String} (remote : isRemote source = true) {url : Url}
    (accepted : Url.parse source.toList = .ok url)
    : ∃ name, output source = .ok ⟨.working, [Path.minifiedName name]⟩ ∧ '/' ∉ name := by
  obtain ⟨name, based, named, slashless⟩ := basis_remote remote accepted
  refine ⟨name, ?_, slashless⟩
  rw [output_of_basis based, Path.minified?, if_neg (Path.name_ne_nil_of_isName named)]
  rfl

end Source

namespace Path

/-- A path of one name that is an entry of the working directory, on every disk. -/
structure IsEntry (path : Path) (name : List Char) : Prop where
  single : path = ⟨.working, [name]⟩
  text : path.text = String.ofList name
  filled : name ≠ []
  slashless : '/' ∉ name
  apart : name ≠ ['.'] ∧ name ≠ ['.', '.']
  placed
    : ∀ (disk : Disk) (place : Location),
        disk.locate path = .ok place → place = disk.working ++ [name]

theorem isEntry_of_isName {name : List Char} (named : isName name = true)
    (slashless : '/' ∉ name) (down : name ≠ ['.', '.'])
    : IsEntry ⟨.working, [name]⟩ name := by
  have meant := named
  simp only [isName, Bool.and_eq_true, decide_eq_true_eq] at meant
  refine ⟨rfl, if_neg meant.1, meant.1, slashless, ⟨meant.2, down⟩, fun disk place leads => ?_⟩
  rw [show Path.mk .working [name] = child ⟨.working, []⟩ name from rfl] at leads
  obtain ⟨there, front, last⟩ := Disk.place_child leads
  obtain rfl : disk.working = there := Except.ok.inj front
  rwa [if_neg down] at last

theorem isEntry_minifiedName {name : List Char} (slashless : '/' ∉ name)
    : IsEntry ⟨.working, [minifiedName name]⟩ (minifiedName name) := by
  refine isEntry_of_isName (isName_minifiedName name) (fun slash => ?_) (minifiedName_ne_up name)
  rcases mem_minifiedName slash with inside | added
  · exact slashless inside
  · simp at added

end Path

namespace Source

/-- The output of an address is one entry of the working directory, and it is the same, or the
same error, whatever is put behind the address as a query or a fragment.
-/
theorem output_address {address : String} (remote : isRemote address = true)
    : (∀ path, output address = .ok path → ∃ name, path.IsEntry name)
      ∧ ('?' ∉ address.toList
        → '#' ∉ address.toList
        → ∀ rest,
            output (address ++ "?" ++ rest) = output address
            ∧ output (address ++ "#" ++ rest) = output address) := by
  constructor
  · intro path found
    obtain ⟨url, accepted⟩ := by simpa [remote] using (output_ok_iff address).mp ⟨path, found⟩
    obtain ⟨name, named, slashless⟩ := output_remote remote accepted
    obtain rfl := Except.ok.inj (named.symm.trans found)
    exact ⟨_, Path.isEntry_minifiedName slashless⟩
  · intro unasked unnumbered rest
    have unmarked : ∀ mark ∈ Url.marks, mark ∉ address.toList := by
      simp [Url.marks, unasked, unnumbered]
    have asked : (address ++ "?" ++ rest).toList = address.toList ++ '?' :: rest.toList := by
      simp
    have numbered : (address ++ "#" ++ rest).toList = address.toList ++ '#' :: rest.toList := by
      simp
    exact ⟨output_marked remote unmarked (by simp [Url.marks]) asked,
      output_marked remote unmarked (by simp [Url.marks]) numbered⟩

/-- A way up is named like any other segment, and parameters and a query are left out. -/
theorem output_address_way_up
    : isRemote "https://h/%2e/..;p" = true
      ∧ '?' ∉ "https://h/%2e/..;p".toList
      ∧ '#' ∉ "https://h/%2e/..;p".toList
      ∧ output "https://h/%2e/..;p" = .ok (Path.parse "...min")
      ∧ (∃ name, (Path.parse "...min").IsEntry name)
      ∧ output "https://h/%2e/..;p?/../x#y" = .ok (Path.parse "...min") := by
  have remote : isRemote "https://h/%2e/..;p" = true := by decide +kernel
  have unasked : '?' ∉ "https://h/%2e/..;p".toList := by decide +kernel
  have unnumbered : '#' ∉ "https://h/%2e/..;p".toList := by decide +kernel
  have found : output "https://h/%2e/..;p" = .ok (Path.parse "...min") := by decide +kernel
  obtain ⟨entry, marked⟩ := output_address remote
  have same := (marked unasked unnumbered "/../x#y").1
  exact ⟨remote, unasked, unnumbered, found, entry _ found, same.trans found⟩

end Source

end CssMinifier
