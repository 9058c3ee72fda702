import CssMinifier.Text.Fields

/-! Paths of files. A path is a root and a list of names. Empty names and single dots carry no
meaning and are left out; double dots stay.
-/

namespace CssMinifier

/-- Where a path starts: at the working directory, at the top of the tree, or at the place
that exactly two slashes stand for.
-/
inductive Root
  | working
  | top
  | double
deriving DecidableEq

/-- The text of a root. -/
def Root.text : Root → List Char
  | .working => []
  | .top => ['/']
  | .double => ['/', '/']

/-- A path in normal form. -/
structure Path where
  root : Root
  names : List (List Char)
deriving DecidableEq

namespace Path

/-- The root that a text's leading slashes stand for. -/
def rootOf (text : List Char) : Root :=
  match (text.takeWhile (· = '/')).length with
  | 0 => .working
  | 2 => .double
  | _ => .top

/-- Holds for pieces that name something. -/
def isName (piece : List Char) : Bool :=
  piece ≠ [] && piece ≠ ['.']

/-- The path that a text denotes. -/
def parse (text : String) : Path where
  root := rootOf text.toList
  names := (Text.fields '/' text.toList).filter isName

/-- The normal text of a path; a dot for the working directory itself. -/
def text (path : Path) : String :=
  let full := path.root.text ++ Text.joined '/' path.names
  if full = [] then "." else String.ofList full

/-- The last name of a path; empty if it has none. -/
def name (path : Path) : List Char :=
  path.names.getLastD []

/-- A name cut before its extension. The extension starts at the last dot, unless that dot is
the first or the last character.
-/
def splitName (name : List Char) : List Char × List Char :=
  let extension := name.reverse.takeWhile (· ≠ '.')
  match name.reverse.dropWhile (· ≠ '.') with
  | _ :: stem =>
      if stem = [] ∨ extension = [] then
        (name, [])
      else
        (stem.reverse, '.' :: extension.reverse)
  | [] => (name, [])

/-- A name with `.min` before its extension. -/
def minifiedName (name : List Char) : List Char :=
  (splitName name).1 ++ ['.', 'm', 'i', 'n'] ++ (splitName name).2

/-- The path beside a path, with `.min` before the extension; nothing if the path has no name.
-/
def minified? (path : Path) : Option Path :=
  if path.name = [] then
    none
  else
    some { path with names := path.names.dropLast ++ [minifiedName path.name] }

/-- Holds when a name holds the character zero, which no file name may. -/
def hasNul (path : Path) : Bool :=
  path.names.any (·.contains '\x00')

/-- Cutting a name loses nothing. -/
theorem splitName_append (name : List Char)
    : (splitName name).1 ++ (splitName name).2 = name := by
  have whole := List.takeWhile_append_dropWhile (p := (· ≠ '.')) (l := name.reverse)
  have dot := List.head?_dropWhile_not (fun c : Char => decide (c ≠ '.')) name.reverse
  simp only [splitName]
  cases h : name.reverse.dropWhile (· ≠ '.') with
  | nil => simp
  | cons c stem =>
      rw [h] at whole dot
      have hc : c = '.' := by simpa using dot
      subst hc
      have parts := congrArg List.reverse whole
      simp only [List.reverse_append, List.reverse_cons, List.reverse_reverse] at parts
      simp only
      split
      · simp
      · simpa using parts

end Path

end CssMinifier
