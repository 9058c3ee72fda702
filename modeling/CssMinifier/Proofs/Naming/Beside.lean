import CssMinifier.Proofs.Naming

/-! Outputs beside a source on the disk. A name and its minified form are both cut at their
last dot, so the form tells the name: no two paths name the same output, and none names itself.
-/

namespace CssMinifier

-----------------------------------------------------------------------------------------
-- The last dot of a name
-----------------------------------------------------------------------------------------

namespace Path

/-- From its end, a text with a dot is its extension up to the dot and its stem behind it. -/
theorem reverse_dotted (stem extension : List Char)
    : (stem ++ '.' :: extension).reverse = extension.reverse ++ '.' :: stem.reverse := by
  simp

/-- A text is cut at its last dot in one way. -/
theorem lastDot_unique {stem stem' extension extension' : List Char}
    (undotted : '.' ∉ extension) (undotted' : '.' ∉ extension')
    (h : stem ++ '.' :: extension = stem' ++ '.' :: extension')
    : stem = stem' ∧ extension = extension' := by
  have backwards : extension.reverse ++ '.' :: stem.reverse
      = extension'.reverse ++ '.' :: stem'.reverse := by
    rw [← reverse_dotted, ← reverse_dotted, h]
  have extensions : extension = extension' := by
    simpa [undotted, undotted'] using congrArg (Text.before '.') backwards
  have stems : stem = stem' := by
    simpa [undotted, undotted'] using congrArg (Text.behind '.') backwards
  exact ⟨stems, extensions⟩

theorem splitName_undotted {name : List Char} (undotted : '.' ∉ name)
    : splitName name = (name, []) := by
  have none : (name.reverse ++ []).dropWhile (· ≠ '.') = [] :=
    List.dropWhile_append_of_pos (Text.ne_of_not_mem (by simpa using undotted))
  rw [List.append_nil] at none
  rw [splitName, none]

theorem splitName_dotted {extension : List Char} (undotted : '.' ∉ extension)
    (stem : List Char)
    : splitName (stem ++ '.' :: extension)
      = if stem = [] ∨ extension = [] then
          (stem ++ '.' :: extension, [])
        else
          (stem, '.' :: extension) := by
  have kept := Text.ne_of_not_mem (by simpa using undotted : '.' ∉ extension.reverse)
  simp only [splitName, reverse_dotted, List.takeWhile_append_of_pos kept,
    List.dropWhile_append_of_pos kept]
  simp

/-- A name is kept whole, or it is cut at its last dot. -/
theorem splitName_cases (name : List Char)
    : splitName name = (name, [])
      ∨ ∃ stem extension,
          stem ≠ []
          ∧ extension ≠ []
          ∧ '.' ∉ extension
          ∧ name = stem ++ '.' :: extension := by
  by_cases dotted : '.' ∈ name
  · obtain ⟨extension, stem, backwards, undotted⟩ :=
      List.eq_append_cons_of_mem (List.mem_reverse.mpr dotted)
    have parts : name = stem.reverse ++ '.' :: extension.reverse := by
      rw [← List.reverse_reverse name, backwards]
      simp
    have undotted : '.' ∉ extension.reverse := by simpa using undotted
    have cut := splitName_dotted undotted stem.reverse
    rw [← parts] at cut
    split at cut
    · exact Or.inl cut
    · next filled =>
        rw [not_or] at filled
        exact Or.inr ⟨_, _, filled.1, filled.2, undotted, parts⟩
  · exact Or.inl (splitName_undotted dotted)

-----------------------------------------------------------------------------------------
-- Minified names
-----------------------------------------------------------------------------------------

theorem minifiedName_whole {name : List Char} (whole : splitName name = (name, []))
    : minifiedName name = name ++ '.' :: ['m', 'i', 'n'] := by
  rw [minifiedName, whole, List.append_nil]

theorem minifiedName_dotted {stem extension : List Char} (started : stem ≠ [])
    (ended : extension ≠ []) (undotted : '.' ∉ extension)
    : minifiedName (stem ++ '.' :: extension)
      = (stem ++ '.' :: ['m', 'i', 'n']) ++ '.' :: extension := by
  rw [minifiedName, splitName_dotted undotted, if_neg (by simp [started, ended])]

/-- A name kept whole never gets the form of a name that is cut: before its last dot there
would be one more extension to cut off.
-/
theorem minifiedName_whole_ne {name stem extension : List Char}
    (whole : splitName name = (name, [])) (started : stem ≠ []) (undotted : '.' ∉ extension)
    : minifiedName name ≠ (stem ++ '.' :: ['m', 'i', 'n']) ++ '.' :: extension := by
  intro same
  rw [minifiedName_whole whole] at same
  obtain ⟨rfl, _⟩ := lastDot_unique (by decide) undotted same
  rw [splitName_dotted (by decide), if_neg (by simp [started])] at whole
  cases congrArg Prod.snd whole

/-- Two names with the same minified form are the same, whichever way they are cut. -/
theorem minifiedName_injective
    : Function.Injective minifiedName := by
  intro name other same
  rcases splitName_cases name with whole | ⟨stem, extension, started, ended, undotted, rfl⟩
  · rcases splitName_cases other with
      whole' | ⟨stem, extension, started, ended, undotted, rfl⟩
    · rw [minifiedName_whole whole, minifiedName_whole whole'] at same
      exact (lastDot_unique (by decide) (by decide) same).1
    · rw [minifiedName_dotted started ended undotted] at same
      exact absurd same (minifiedName_whole_ne whole started undotted)
  · rcases splitName_cases other with
      whole' | ⟨stem', extension', started', ended', undotted', rfl⟩
    · rw [minifiedName_dotted started ended undotted] at same
      exact absurd same.symm (minifiedName_whole_ne whole' started undotted)
    · rw [minifiedName_dotted started ended undotted,
        minifiedName_dotted started' ended' undotted'] at same
      obtain ⟨stems, rfl⟩ := lastDot_unique undotted undotted' same
      rw [List.append_cancel_right stems]

theorem length_minifiedName (name : List Char)
    : (minifiedName name).length = name.length + 4 := by
  have whole := congrArg List.length (splitName_append name)
  rw [List.length_append] at whole
  simp only [minifiedName, List.length_append, List.length_cons, List.length_nil]
  omega

theorem minifiedName_ne (name : List Char)
    : minifiedName name ≠ name := by
  intro same
  have longer := length_minifiedName name
  rw [same] at longer
  omega

/-- No minified name leads out of a directory. -/
theorem minifiedName_ne_up (name : List Char)
    : minifiedName name ≠ ['.', '.'] := by
  intro same
  have longer := length_minifiedName name
  rw [same, List.length_cons, List.length_singleton] at longer
  omega

-----------------------------------------------------------------------------------------
-- Minified paths
-----------------------------------------------------------------------------------------

/-- The path that a path's name stands in; a path without a name is its own parent. -/
def parent (path : Path) : Path :=
  { path with names := path.names.dropLast }

/-- The path with a name below it. -/
def child (path : Path) (name : List Char) : Path :=
  { path with names := path.names ++ [name] }

theorem parent_child (path : Path) (name : List Char)
    : (path.child name).parent = path := by
  simp [parent, child]

theorem name_child (path : Path) (name : List Char)
    : (path.child name).name = name := by
  simp [Path.name, child]

/-- A path with a name is that name below its parent. -/
theorem child_parent {path : Path} (named : path.name ≠ [])
    : path.parent.child path.name = path := by
  obtain ⟨filled, last⟩ := exists_getLast_eq_name named
  simp only [child, parent, ← last, List.dropLast_concat_getLast]

theorem minified?_eq_some_iff {path output : Path}
    : path.minified? = some output
      ↔ path.name ≠ [] ∧ output = path.parent.child (minifiedName path.name) := by
  rw [minified?]
  split
  · next unnamed => simp [unnamed]
  · next named =>
      rw [Option.some.injEq]
      exact ⟨fun same => ⟨named, same.symm⟩, fun same => same.2.symm⟩

/-- Two paths with the same minified form are the same. -/
theorem minified?_inj {path other output : Path} (h : path.minified? = some output)
    (h' : other.minified? = some output)
    : path = other := by
  obtain ⟨named, rfl⟩ := minified?_eq_some_iff.mp h
  obtain ⟨named', same⟩ := minified?_eq_some_iff.mp h'
  have parents := congrArg parent same
  have names := congrArg Path.name same
  rw [parent_child, parent_child] at parents
  rw [name_child, name_child] at names
  rw [← child_parent named, ← child_parent named', parents, minifiedName_injective names]

end Path

-----------------------------------------------------------------------------------------
-- Places of paths on a disk
-----------------------------------------------------------------------------------------

namespace Disk

/-- A path leads one name on from where its parent leads. -/
theorem place_child {disk : Disk} {path : Path} {name : List Char} {place : Location}
    (h : disk.locate (path.child name) = .ok place)
    : ∃ there,
        disk.walk (disk.start path.root) path.names = .ok there
        ∧ place = if name = ['.', '.'] then there.dropLast else there ++ [name] := by
  obtain ⟨there, front, last⟩ := walk_append_ok_iff.mp (walk_of_locate h)
  exact ⟨there, front, walk_name last⟩

/-- Two names below the same path lead to different places unless both lead out. -/
theorem apart_child (disk : Disk) (path : Path) {name other : List Char} (ne : name ≠ other)
    (down : other ≠ ['.', '.'])
    : disk.Apart (path.child name) (path.child other) := by
  intro place leads leads'
  obtain ⟨there, front, here⟩ := place_child leads
  obtain ⟨there', front', here'⟩ := place_child leads'
  obtain rfl : there = there' := Except.ok.inj (front.symm.trans front')
  rw [if_neg down] at here'
  rw [here'] at here
  split at here
  · have longer := congrArg List.length here
    rw [List.length_append, List.length_singleton, List.length_dropLast] at longer
    omega
  · exact ne (List.append_singleton_inj.mp here).2.symm

end Disk

-----------------------------------------------------------------------------------------
-- Outputs of sources that are no addresses
-----------------------------------------------------------------------------------------

namespace Source

theorem output_near {source : String} (near : isRemote source = false)
    : output source
      = match (Path.parse source).minified? with
        | some output => .ok output
        | none => .error (.emptyName (Path.parse source)) :=
  output_of_basis (by rw [basis, near]; rfl)

theorem output_near_ok_iff {source : String} (near : isRemote source = false) {path : Path}
    : output source = .ok path ↔ (Path.parse source).minified? = some path := by
  rw [output_near near]
  cases (Path.parse source).minified? <;> simp

theorem output_near_error_iff {source : String} (near : isRemote source = false)
    {error : NameError}
    : output source = .error error
      ↔ (Path.parse source).name = [] ∧ error = .emptyName (Path.parse source) := by
  rw [output_near near, Path.minified?]
  by_cases unnamed : (Path.parse source).name = []
  · simp [unnamed, eq_comm]
  · simp [unnamed]

/-- An output beside a source exists exactly if the source has a name, and a source without one
is told so. The output stands in the same directory under another name, so that on no disk it is
the source itself, and it tells which path the source is.
-/
theorem output_beside {source : String} (near : isRemote source = false)
    : (∀ error,
        output source = .error error
        ↔ (Path.parse source).name = [] ∧ error = .emptyName (Path.parse source))
      ∧ ((Path.parse source).name ≠ []
        → ∃ path,
            output source = .ok path
            ∧ path.parent = (Path.parse source).parent
            ∧ path.name ≠ (Path.parse source).name
            ∧ (∀ disk : Disk, disk.Apart (Path.parse source) path)
            ∧ ∀ other,
                isRemote other = false
                → output other = .ok path
                → Path.parse other = Path.parse source) := by
  refine ⟨fun error => output_near_error_iff near, fun named => ?_⟩
  have minified := Path.minified?_eq_some_iff.mpr ⟨named, rfl⟩
  refine ⟨_, (output_near_ok_iff near).mpr minified, Path.parent_child _ _, ?_, ?_, ?_⟩
  · rw [Path.name_child]
    exact Path.minifiedName_ne _
  · intro disk
    have apart := disk.apart_child (Path.parse source).parent
      (Path.minifiedName_ne _).symm (Path.minifiedName_ne_up (Path.parse source).name)
    rwa [Path.child_parent named] at apart
  · intro other near' same
    exact Path.minified?_inj ((output_near_ok_iff near').mp same) minified

/-- A name that ends in a dot is kept whole, though a dot stands inside the form it gets. -/
theorem output_beside_trailing_dot
    : isRemote "./a//b." = false
      ∧ (Path.parse "./a//b.").name ≠ []
      ∧ output "./a//b." = .ok (Path.parse "a/b..min")
      ∧ (Path.parse "a/b..min").parent = (Path.parse "./a//b.").parent
      ∧ (Path.parse "a/b..min").name ≠ (Path.parse "./a//b.").name
      ∧ (∀ disk : Disk, disk.Apart (Path.parse "./a//b.") (Path.parse "a/b..min"))
      ∧ ∀ other,
          isRemote other = false
          → output other = .ok (Path.parse "a/b..min")
          → Path.parse other = Path.parse "./a//b." := by
  have near : isRemote "./a//b." = false := by decide +kernel
  have named : (Path.parse "./a//b.").name ≠ [] := by decide +kernel
  have found : output "./a//b." = .ok (Path.parse "a/b..min") :=
    (output_near_ok_iff near).mpr (by decide +kernel)
  obtain ⟨path, output, beside⟩ := (output_beside near).2 named
  obtain rfl : Path.parse "a/b..min" = path := Except.ok.inj (found.symm.trans output)
  exact ⟨near, named, found, beside⟩

end Source

end CssMinifier
