import CssMinifier.Text.Fields
import CssMinifier.Text.Quoted

/-! Hosts of an address. A host in brackets has to be an address of the sixth version or of a
later one, and no character of a host may stand for a separator in another guise.
-/

namespace CssMinifier.Url

open CssMinifier.Text

/-- Why the host part of an address is refused. -/
inductive HostError
  | brackets
  | futureAddress
  | bracketedFour
  | notAnAddress (host : List Char)
  | disguised (authority : List Char)
deriving DecidableEq

/-- The text of a refusal. -/
def HostError.message : HostError → String
  | .brackets => "Invalid IPv6 URL"
  | .futureAddress => "IPvFuture address is invalid"
  | .bracketedFour => "An IPv4 address cannot be in brackets"
  | .notAnAddress host =>
      quoted (String.ofList host) ++ " does not appear to be an IPv4 or IPv6 address"
  | .disguised authority =>
      "netloc '" ++ String.ofList authority
        ++ "' contains invalid characters under NFKC normalization"

/-- Holds for the digits of base sixteen in either case. -/
def isHexDigit (c : Char) : Bool :=
  c.isDigit || ('a' ≤ c && c ≤ 'f') || ('A' ≤ c && c ≤ 'F')

/-- Holds for decimal numbers up to 255 without leading zeros. -/
def isOctet (field : List Char) : Bool :=
  field ≠ [] && field.all Char.isDigit && field.length ≤ 3
    && (field = ['0'] || field.head? ≠ some '0')
    && field.foldl (fun n c => n * 10 + (c.toNat - 0x30)) 0 ≤ 255

/-- Holds for addresses of the fourth version. -/
def isFour (host : List Char) : Bool :=
  (fields '.' host).length = 4 && (fields '.' host).all isOctet

/-- Holds for one to four digits of base sixteen. -/
def isGroup (field : List Char) : Bool :=
  field ≠ [] && field.length ≤ 4 && field.all isHexDigit

/-- The groups of an address of the sixth version. A fourth-version address at the end stands
for two groups; nothing if it is malformed.
-/
def groups? (host : List Char) : Option (List (List Char)) :=
  let groups := fields ':' host
  let last := groups.getLastD []
  if last.contains '.' then
    if isFour last then some (groups.dropLast ++ [['0'], ['0']]) else none
  else
    some groups

/-- Holds for eight groups, or for fewer with one gap among them that
stands for the groups left out. A gap at an end is written with two colons.
-/
def areGroups (groups : List (List Char)) : Bool :=
  let inner := groups.tail.dropLast
  if inner.contains [] then
    let gap := 1 + (inner.takeWhile (· ≠ [])).length
    let front := if groups.take gap = [[]] then [] else groups.take gap
    let back := if groups.drop (gap + 1) = [[]] then [] else groups.drop (gap + 1)
    front.all isGroup && back.all isGroup && front.length + back.length ≤ 7
  else
    groups.length = 8 && groups.all isGroup

/-- Holds for addresses of the sixth version, with a zone behind a percent sign
if there is one.
-/
def isSix (host : List Char) : Bool :=
  let zone := behind '%' host
  (!host.contains '%' || (zone ≠ [] && !zone.contains '%'))
    && (groups? (before '%' host)).any areGroups

/-- Holds for a version number in base sixteen, a dot and some text, behind
the letter v.
-/
def isFuture (host : List Char) : Bool :=
  let version := (host.drop 1).takeWhile isHexDigit
  match (host.drop 1).dropWhile isHexDigit with
  | '.' :: text => version ≠ [] && text ≠ [] && !text.contains '\n'
  | _ => false

/-- A host in brackets is refused unless it is an address of the sixth or a later version. -/
def checkBracketed (host : List Char) : Except HostError Unit :=
  if host.head? = some 'v' then
    if isFuture host then .ok () else .error .futureAddress
  else if isFour host then
    .error .bracketedFour
  else if isSix host then
    .ok ()
  else
    .error (.notAnAddress host)

/-- Brackets come in pairs around the whole host. Only user data that ends in an at sign may
stand before them, and only what a colon starts behind them.
-/
def checkBrackets (authority : List Char) : Except HostError Unit :=
  if authority.contains '[' != authority.contains ']' then
    .error .brackets
  else if authority.contains '[' then
    let place := behindLast '@' authority
    if place.contains '[' then
      let after := behind ']' (behind '[' place)
      if before '[' place ≠ [] ∨ (after ≠ [] ∧ after.head? ≠ some ':') then
        .error .brackets
      else
        checkBracketed (before ']' (behind '[' place))
    else
      checkBracketed (before ':' place)
  else
    .ok ()

/-- The characters whose compatibility form holds a slash, a question mark, a number sign, an
at sign or a colon.
-/
def disguises : List Nat :=
  [0x2047, 0x2048, 0x2049, 0x2100, 0x2101, 0x2105, 0x2106, 0x2A74, 0xFE13, 0xFE16, 0xFE55,
   0xFE56, 0xFE5F, 0xFE6B, 0xFF03, 0xFF0F, 0xFF1A, 0xFF1F, 0xFF20]

/-- No character of the authority may stand for a separator in another guise. -/
def checkDisguise (authority : List Char) : Except HostError Unit :=
  if authority.any (fun c => disguises.contains c.toNat) then
    .error (.disguised authority)
  else
    .ok ()

/-- Both checks of an authority, the brackets first. -/
def checkAuthority (authority : List Char) : Except HostError Unit :=
  match checkBrackets authority with
  | .error e => .error e
  | .ok () => checkDisguise authority

end CssMinifier.Url
