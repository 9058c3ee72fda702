import CssMinifier.Disk

/-! Writing one file. A file put where no directory stands changes that location only,
and every path that leads elsewhere finds what it found before.
-/

namespace CssMinifier.Disk

open CssMinifier.Encoding

theorem not_isPrefixOf_of_find? {disk : Disk} {location : Location}
    (h : disk.find? location ≠ some .directory)
    : location.isPrefixOf disk.working = false := by
  cases above : location.isPrefixOf disk.working with
  | false => rfl
  | true => exact absurd (by simp [find?, above]) h

@[simp]
theorem find?_put {disk : Disk} {location : Location}
    (h : disk.find? location ≠ some .directory) (bytes : Bytes) (other : Location)
    : (disk.put location (.file bytes)).find? other
      = if other = location then some (.file bytes) else disk.find? other := by
  split
  · next same =>
      rw [same]
      exact find?_put_self _ (not_isPrefixOf_of_find? h)
  · next apart => exact find?_put_of_ne disk _ apart

-----------------------------------------------------------------------------------------
-- Following paths
-----------------------------------------------------------------------------------------

/-- Two trees with the same working directory and the same directories. -/
structure SameDirectories (disk other : Disk) : Prop where
  working : other.working = disk.working
  directory
    : ∀ location,
        other.find? location = some .directory ↔ disk.find? location = some .directory

theorem SameDirectories.symm {disk other : Disk} (h : SameDirectories disk other)
    : SameDirectories other disk :=
  ⟨h.working.symm, fun location => (h.directory location).symm⟩

theorem sameDirectories_put {disk : Disk} {location : Location}
    (h : disk.find? location ≠ some .directory) (bytes : Bytes)
    : SameDirectories disk (disk.put location (.file bytes)) := by
  refine ⟨rfl, fun other => ?_⟩
  rw [find?_put h]
  split
  · next same =>
      rw [same]
      simp [h]
  · rfl

/-- What following a path gives for certain: a location, or a name that is too long. The
other refusals depend on whether a file stands where a directory is missing.
-/
def Settled (result : Except Refusal Location) : Prop :=
  (∃ location, result = .ok location) ∨ result = .error .nameTooLong

/-- Only directories matter to a path, by induction on its names. -/
theorem SameDirectories.walk {disk other : Disk} (h : SameDirectories disk other)
    (here : Location) (names : List (List Char)) (settled : Settled (disk.walk here names))
    : other.walk here names = disk.walk here names := by
  induction names generalizing here with
  | nil => rfl
  | cons name rest ih =>
      cases entry : disk.find? here with
      | none =>
          rw [Disk.walk, entry] at settled
          rcases settled with ⟨_, found⟩ | long
          · cases found
          · cases long
      | some entry' =>
          cases entry' with
          | file bytes =>
              rw [Disk.walk, entry] at settled
              rcases settled with ⟨_, found⟩ | long
              · cases found
              · cases long
          | directory =>
              -- Both trees have a directory here and go on alike.
              have kept : other.find? here = some .directory := (h.directory here).mpr entry
              simp only [Disk.walk, entry] at settled
              simp only [Disk.walk, entry, kept]
              split
              · next up =>
                  rw [if_pos up] at settled
                  exact ih _ settled
              · next down =>
                  rw [if_neg down] at settled
                  split
                  · rfl
                  · next short =>
                      rw [if_neg short] at settled
                      exact ih _ settled

theorem SameDirectories.locate {disk other : Disk} (h : SameDirectories disk other)
    (path : Path) (settled : Settled (disk.locate path))
    : other.locate path = disk.locate path := by
  have start : other.start path.root = disk.start path.root := by
    cases path.root <;> simp [Disk.start, h.working]
  rw [Disk.locate] at settled ⊢
  rw [Disk.locate, start]
  split
  · rfl
  · next short =>
      rw [if_neg short] at settled
      exact h.walk _ _ settled

/-- Where a path leads does not depend on files. -/
theorem SameDirectories.locate_ok_iff {disk other : Disk} (h : SameDirectories disk other)
    {path : Path} {location : Location}
    : other.locate path = .ok location ↔ disk.locate path = .ok location := by
  constructor
  · intro found
    rw [h.symm.locate path (Or.inl ⟨location, found⟩), found]
  · intro found
    rw [h.locate path (Or.inl ⟨location, found⟩), found]

/-- Names are followed one after the other. -/
theorem walk_append_ok_iff {disk : Disk} {here place : Location} {front rest : List (List Char)}
    : disk.walk here (front ++ rest) = .ok place
      ↔ ∃ there, disk.walk here front = .ok there ∧ disk.walk there rest = .ok place := by
  induction front generalizing here with
  | nil => simp [walk]
  | cons name more ih =>
      rw [List.cons_append, walk, walk]
      split
      · simp
      · simp
      · split
        · exact ih
        · split
          · simp
          · exact ih

/-- A single name leads out of a directory if it is a double dot, and into it otherwise. -/
theorem walk_name {disk : Disk} {here place : Location} {name : List Char}
    (h : disk.walk here [name] = .ok place)
    : place = if name = ['.', '.'] then here.dropLast else here ++ [name] := by
  rw [walk] at h
  split at h
  · cases h
  · cases h
  · split at h
    · next up => rw [if_pos up, Except.ok.inj h]
    · next down =>
        split at h
        · cases h
        · rw [if_neg down, Except.ok.inj h]

theorem walk_of_locate {disk : Disk} {path : Path} {place : Location}
    (h : disk.locate path = .ok place)
    : disk.walk (disk.start path.root) path.names = .ok place := by
  rw [locate] at h
  split at h
  · cases h
  · exact h

-----------------------------------------------------------------------------------------
-- Files at paths
-----------------------------------------------------------------------------------------

theorem writable_ok_iff {disk : Disk} {path : Path} {location : Location}
    : disk.writable path = .ok location
      ↔ disk.locate path = .ok location ∧ disk.find? location ≠ some .directory := by
  rw [writable]
  cases found : disk.locate path with
  | error refusal => simp
  | ok other =>
      simp only [Except.ok.injEq]
      split
      · next taken =>
          simp only [reduceCtorEq, false_iff]
          intro leads
          exact leads.2 (leads.1 ▸ taken)
      · next free =>
          simp only [Except.ok.injEq, iff_self_and]
          intro same
          exact same ▸ free

theorem writable_ok {disk : Disk} {path : Path} {location : Location}
    (h : disk.writable path = .ok location)
    : disk.locate path = .ok location ∧ disk.find? location ≠ some .directory :=
  writable_ok_iff.mp h

/-- Where a file can be written does not depend on files. -/
theorem SameDirectories.writable_ok_iff {disk other : Disk} (h : SameDirectories disk other)
    {path : Path} {location : Location}
    : other.writable path = .ok location ↔ disk.writable path = .ok location := by
  rw [Disk.writable_ok_iff, Disk.writable_ok_iff, h.locate_ok_iff, Ne, Ne, h.directory]

theorem file?_of_refused {disk : Disk} {path : Path} {refusal : Refusal}
    (refused : disk.locate path = .error refusal) (short : refusal ≠ .nameTooLong)
    : disk.file? path = .ok none := by
  rw [file?, refused]
  cases refusal with
  | nameTooLong => exact absurd rfl short
  | noEntry | notDirectory | isDirectory => simp

/-- A path that leads to the file finds its bytes. -/
theorem file?_put_of_locate {disk : Disk} {location : Location}
    (h : disk.find? location ≠ some .directory) (bytes : Bytes) {path : Path}
    (clean : path.hasNul = false) (leads : disk.locate path = .ok location)
    : (disk.put location (.file bytes)).file? path = .ok (some bytes) := by
  have kept := (sameDirectories_put h bytes).locate_ok_iff.mpr leads
  rw [file?, if_neg (by simp [clean]), kept]
  simp [h]

/-- A path that leads elsewhere finds what it found before. -/
theorem file?_put_of_ne {disk : Disk} {location : Location}
    (h : disk.find? location ≠ some .directory) (bytes : Bytes) {path : Path}
    (elsewhere : disk.locate path ≠ .ok location)
    : (disk.put location (.file bytes)).file? path = disk.file? path := by
  have same := sameDirectories_put h bytes
  cases found : disk.locate path with
  | ok other =>
      have apart : other ≠ location := by
        intro meets
        exact elsewhere (meets ▸ found)
      have kept := same.locate_ok_iff.mpr found
      simp [file?, found, kept, h, apart]
  | error refusal =>
      by_cases long : refusal = .nameTooLong
      · have kept := same.locate path (Or.inr (long ▸ found))
        simp only [file?, kept, found, long]
      · -- The refusal may change to a file in the way, but not to success.
        rw [file?_of_refused found long]
        cases after : (disk.put location (.file bytes)).locate path with
        | ok other =>
            have before := same.locate_ok_iff.mp after
            rw [found] at before
            cases before
        | error refusal' =>
            refine file?_of_refused after fun long' => ?_
            have before := same.symm.locate path (Or.inr (long' ▸ after))
            rw [found, after, long'] at before
            exact long (Except.error.inj before)

-----------------------------------------------------------------------------------------
-- Two files in either order
-----------------------------------------------------------------------------------------

/-- Two paths that do not lead to the same place. -/
def Apart (disk : Disk) (path other : Path) : Prop :=
  ∀ location, disk.locate path = .ok location → disk.locate other ≠ .ok location

theorem apart_of_ne {disk : Disk} {path other : Path} {location location' : Location}
    (leads : disk.locate path = .ok location) (leads' : disk.locate other = .ok location')
    (ne : location ≠ location')
    : disk.Apart path other := by
  intro place here there
  have same : location = place := Except.ok.inj (leads.symm.trans here)
  have same' : location' = place := Except.ok.inj (leads'.symm.trans there)
  exact ne (same.trans same'.symm)

/-- Two trees with the same working directory and the same entry at every location. -/
structure Alike (disk other : Disk) : Prop where
  working : other.working = disk.working
  entries : ∀ location, other.find? location = disk.find? location

/-- Files at two places can be put in either order. -/
theorem alike_put_put {disk : Disk} {location other : Location}
    (h : disk.find? location ≠ some .directory) (h' : disk.find? other ≠ some .directory)
    (ne : location ≠ other) (bytes bytes' : Bytes)
    : Alike ((disk.put location (.file bytes)).put other (.file bytes'))
        ((disk.put other (.file bytes')).put location (.file bytes)) := by
  refine ⟨rfl, fun place => ?_⟩
  -- Each of the two places is free after the other one was written as well.
  by_cases here : place = location
  · simp [h, h', ne, ne.symm, here]
  · simp [h, h', ne, ne.symm, here]

end CssMinifier.Disk
