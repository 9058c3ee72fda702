import CssMinifier.Path
import CssMinifier.Url

/-! Sources of a stylesheet: a path on the disk or an address on the web. A source names the
file that its minified form goes to.
-/

namespace CssMinifier.Source

/-- The two schemes that make a source an address, in lower case only. -/
def schemes : List (List Char) :=
  [['h', 't', 't', 'p'], ['h', 't', 't', 'p', 's']]

/-- Holds when the source starts with one of the schemes and `://`. -/
def isRemote (source : String) : Bool :=
  schemes.any fun scheme => (scheme ++ [':', '/', '/']).isPrefixOf source.toList

/-- The name of a stylesheet whose address has no last segment. -/
def fallbackName : String := "stylesheet.css"

/-- Why no output can be named after a source. -/
inductive NameError
  | emptyName (path : Path)
  | host (error : Url.HostError)
deriving DecidableEq

/-- The text of a naming error. -/
def NameError.message : NameError → String
  | .emptyName path => "PosixPath(" ++ Text.quoted path.text ++ ") has an empty name"
  | .host error => error.message

/-- The path whose name the output takes over: the source itself, or the last segment of an
address in the working directory.
-/
def basis (source : String) : Except NameError Path :=
  if isRemote source then
    match Url.parse source.toList with
    | .error e => .error (.host e)
    | .ok url =>
        let name := (Path.parse (String.ofList url.path)).name
        .ok (Path.parse (if name = [] then fallbackName else String.ofList name))
  else
    .ok (Path.parse source)

/-- The path of the minified form: the source's own name with `.min` before its extension. -/
def output (source : String) : Except NameError Path :=
  match basis source with
  | .error e => .error e
  | .ok path =>
      match path.minified? with
      | some output => .ok output
      | none => .error (.emptyName path)

end CssMinifier.Source
