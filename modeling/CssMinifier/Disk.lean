import CssMinifier.Encoding.Utf8
import CssMinifier.Path

/-! Files and directories. A location is the list of names from the top of the tree; a path is
followed name by name, so a missing directory stops it even if a double dot leads out again.
-/

namespace CssMinifier

/-- The names from the top of the tree down to a file or directory. -/
abbrev Location := List (List Char)

/-- What stands at a location. -/
inductive Entry
  | directory
  | file (bytes : Encoding.Bytes)
deriving DecidableEq

/-- A tree of files with a working directory, which always exists. -/
structure Disk where
  working : Location
  entries : List (Location × Entry)

/-- Why a path cannot be followed or opened. -/
inductive Refusal
  | noEntry
  | notDirectory
  | isDirectory
  | nameTooLong
deriving DecidableEq

/-- Number and words of a refusal. -/
def Refusal.text : Refusal → String
  | .noEntry => "[Errno 2] No such file or directory"
  | .notDirectory => "[Errno 20] Not a directory"
  | .isDirectory => "[Errno 21] Is a directory"
  | .nameTooLong => "[Errno 36] File name too long"

namespace Disk

/-- What stands at a location. The directories down to the working directory exist without an
entry.
-/
def find? (disk : Disk) (location : Location) : Option Entry :=
  if location.isPrefixOf disk.working then
    some .directory
  else
    (disk.entries.find? (·.1 = location)).map (·.2)

/-- The greatest number of bytes of a name. -/
def nameLimit : Nat := 255

/-- The greatest number of bytes of a whole path. -/
def pathLimit : Nat := 4095

/-- The number of bytes of a text on the disk. -/
def byteLength (text : List Char) : Nat :=
  (Encoding.Utf8.encode text).length

/-- The location that a list of names leads to. Every name but the last has to be a directory;
the last one need not exist.
-/
def walk (disk : Disk) : Location → List (List Char) → Except Refusal Location
  | here, [] => .ok here
  | here, name :: rest =>
      match disk.find? here with
      | none => .error .noEntry
      | some (.file _) => .error .notDirectory
      | some .directory =>
          if name = ['.', '.'] then
            disk.walk here.dropLast rest
          else if nameLimit < byteLength name then
            .error .nameTooLong
          else
            disk.walk (here ++ [name]) rest

/-- Where a path starts. -/
def start (disk : Disk) : Root → Location
  | .working => disk.working
  | .top | .double => []

/-- The location that a path leads to. -/
def locate (disk : Disk) (path : Path) : Except Refusal Location :=
  if pathLimit < byteLength path.text.toList then
    .error .nameTooLong
  else
    disk.walk (disk.start path.root) path.names

/-- The bytes of the file at a path; nothing if there is no file. Only a name that is too long
is an error. A path with the character zero leads nowhere.
-/
def file? (disk : Disk) (path : Path) : Except Refusal (Option Encoding.Bytes) :=
  if path.hasNul then
    .ok none
  else
    match disk.locate path with
    | .error .nameTooLong => .error .nameTooLong
    | .error _ => .ok none
    | .ok location =>
        match disk.find? location with
        | some (.file bytes) => .ok (some bytes)
        | _ => .ok none

/-- The location of a file that can be written at a path. -/
def writable (disk : Disk) (path : Path) : Except Refusal Location :=
  match disk.locate path with
  | .error refusal => .error refusal
  | .ok location =>
      if disk.find? location = some .directory then .error .isDirectory else .ok location

/-- The disk without what stands at a location. -/
def erase (disk : Disk) (location : Location) : Disk :=
  { disk with entries := disk.entries.filter (·.1 ≠ location) }

/-- The disk with an entry at a location, in place of what stood there. -/
def put (disk : Disk) (location : Location) (entry : Entry) : Disk :=
  { disk with entries := (location, entry) :: (disk.erase location).entries }

/-- The disk with a directory at every non-empty beginning of a list of names below the working
directory.
-/
def makeDirectories (disk : Disk) (names : List (List Char)) : Disk :=
  (List.range names.length).foldl
    (fun made k => made.put (disk.working ++ names.take (k + 1)) .directory) disk

/-- The disk with a file below the working directory, and the directories that lead to it. -/
def store (disk : Disk) (names : List (List Char)) (bytes : Encoding.Bytes) : Disk :=
  (disk.makeDirectories names.dropLast).put (disk.working ++ names) (.file bytes)

/-- The files below the working directory with their relative paths, sorted by path. -/
def files (disk : Disk) : List (String × Encoding.Bytes) :=
  let found := disk.entries.filterMap fun (location, entry) =>
    match entry with
    | .file bytes =>
        if disk.working.isPrefixOf location then
          some (String.ofList (Text.joined '/' (location.drop disk.working.length)), bytes)
        else
          none
    | .directory => none
  found.mergeSort fun a b => a.1 ≤ b.1

/-- A location that was put holds the new entry. -/
theorem find?_put_self {disk : Disk} {location : Location} (entry : Entry)
    (h : location.isPrefixOf disk.working = false)
    : (disk.put location entry).find? location = some entry := by
  simp [find?, put, erase, h]

/-- Every other location keeps what stood there. -/
theorem find?_put_of_ne (disk : Disk) {location other : Location} (entry : Entry)
    (h : other ≠ location)
    : (disk.put location entry).find? other = disk.find? other := by
  have skip : (disk.entries.filter (·.1 ≠ location)).find? (·.1 = other)
      = disk.entries.find? (·.1 = other) := by
    rw [List.find?_filter]
    congr 1
    funext pair
    by_cases hp : pair.1 = other <;> simp [hp, h]
  simp only [find?, put, erase, List.find?_cons, decide_eq_false (Ne.symm h), skip]

end Disk

end CssMinifier
