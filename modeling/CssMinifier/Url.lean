import CssMinifier.Url.Host

/-! Addresses on the web, cut into their parts. Tabs and line breaks carry no meaning and are
left out.
-/

namespace CssMinifier

/-- The parts of an address behind its scheme. -/
structure Url where
  authority : List Char
  path : List Char
  parameters : List Char
  query : List Char
  fragment : List Char
deriving DecidableEq

namespace Url

/-- Holds for the characters that carry no meaning in an address. -/
def isIgnored (c : Char) : Bool :=
  c = '\t' || c = '\r' || c = '\n'

/-- Holds for the characters that end the authority. -/
def endsAuthority (c : Char) : Bool :=
  c = '/' || c = '?' || c = '#'

/-- A path cut at the first semicolon of its last segment: the path and the parameters. -/
def splitParameters (path : List Char) : List Char × List Char :=
  let segment := Text.behindLast '/' path
  let directory := path.take (path.length - segment.length)
  (directory ++ Text.before ';' segment, Text.behind ';' segment)

/-- The parts of an address. What stands before the first two slashes is its scheme. -/
def parts (text : List Char) : Url :=
  let rest := (Text.behind '/' (text.filter (!isIgnored ·))).drop 1
  let remainder := rest.dropWhile (!endsAuthority ·)
  let unfragmented := Text.before '#' remainder
  let (path, parameters) := splitParameters (Text.before '?' unfragmented)
  { authority := rest.takeWhile (!endsAuthority ·)
    path, parameters
    query := Text.behind '?' unfragmented
    fragment := Text.behind '#' remainder }

/-- The parts of an address whose authority is acceptable. -/
def parse (text : List Char) : Except HostError Url :=
  let url := parts text
  match checkAuthority url.authority with
  | .error e => .error e
  | .ok () => .ok url

end Url

end CssMinifier
