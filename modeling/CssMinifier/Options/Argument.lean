import CssMinifier.Text.Class
import CssMinifier.Text.Fields

/-! Arguments of a command line, told apart one by one: option switches with or without a
value attached, the separator behind which there are no switches, and plain arguments.
-/

namespace CssMinifier.Options

open CssMinifier.Text

/-- The switches that a command line may hold. -/
inductive Switch
  | help
  | encoding
  | timeout
  | quiet
deriving DecidableEq

namespace Switch

/-- Every spelling of every switch, in the order in which they are listed. -/
def spellings : List (List Char × Switch) :=
  [("-h".toList, .help), ("--help".toList, .help), ("--encoding".toList, .encoding),
   ("--timeout".toList, .timeout), ("-q".toList, .quiet), ("--quiet".toList, .quiet)]

/-- The switch with exactly the given spelling. -/
def spelled? (text : List Char) : Option Switch :=
  (spellings.find? (·.1 = text)).map (·.2)

/-- How messages name a switch. -/
def title : Switch → String
  | .help => "-h/--help"
  | .encoding => "--encoding"
  | .timeout => "--timeout"
  | .quiet => "-q/--quiet"

/-- Holds for switches that need a value. -/
def takesValue : Switch → Bool
  | .encoding | .timeout => true
  | .help | .quiet => false

end Switch

/-- What an argument is. A switch is known by a long or a short spelling and may have a text
attached to it.
-/
inductive Kind
  | plain
  | separator
  | unknown
  | switch (switch : Switch) (isShort : Bool) (attached : Option (List Char))
deriving DecidableEq

/-- A start that several long spellings share. -/
structure Ambiguity where
  argument : List Char
  spellings : List (List Char)
deriving DecidableEq

/-- The separator behind which every argument is plain. -/
def separator : String := "--"

/-- Holds when only one hyphen leads. -/
def isShortSpelling (text : List Char) : Bool :=
  text.tail.head? ≠ some '-'

/-- The text behind the first equals sign, if there is one. -/
def attached? (argument : List Char) : Option (List Char) :=
  if argument.contains '=' then some (behind '=' argument) else none

/-- Holds for a hyphen and digits of any script, with a point
before the last run of digits if there is one. A line feed may end it.
-/
def isNegativeNumber (argument : List Char) : Bool :=
  let isDigit := fun c => (digit? c).isSome
  let body := argument.drop 1
  let unended := if body.getLast? = some '\n' then body.dropLast else body
  match unended.dropWhile isDigit with
  | [] => unended ≠ []
  | '.' :: fraction => fraction ≠ [] && fraction.all isDigit
  | _ => false

/-- The spellings that an argument may be short for, with the text attached. Two hyphens lead
the start of a long spelling; one hyphen leads the letter of a short one.
-/
def abbreviated (argument : List Char) : List (List Char × Kind) :=
  if isShortSpelling argument then
    (Switch.spellings.filter (·.1 = argument.take 2)).map fun (spelling, switch) =>
      (spelling, .switch switch true (some (argument.drop 2)))
  else
    (Switch.spellings.filter ((before '=' argument).isPrefixOf ·.1)).map fun (spelling, switch) =>
      (spelling, .switch switch false (attached? argument))

/-- What an argument that leads with a hyphen is. -/
def classifyDashed (argument : List Char) : Except Ambiguity Kind :=
  match Switch.spelled? argument, Switch.spelled? (before '=' argument) with
  | some switch, _ => .ok (.switch switch (isShortSpelling argument) none)
  | none, some switch => .ok (.switch switch (isShortSpelling argument) (attached? argument))
  | none, none =>
      match abbreviated argument with
      | [(_, kind)] => .ok kind
      | [] =>
          if isNegativeNumber argument || argument.contains ' ' then
            .ok .plain
          else
            .ok .unknown
      | several => .error ⟨argument, several.map (·.1)⟩

/-- What an argument before the separator is. A lone hyphen is plain. -/
def classify (argument : String) : Except Ambiguity Kind :=
  if argument = separator then
    .ok .separator
  else
    match argument.toList with
    | '-' :: c :: rest => classifyDashed ('-' :: c :: rest)
    | _ => .ok .plain

/-- The arguments of a command line with their kinds. Behind the separator all are plain. -/
def classifyAll : List String → Except Ambiguity (List (String × Kind))
  | [] => .ok []
  | argument :: rest =>
      match classify argument with
      | .error e => .error e
      | .ok .separator => .ok ((argument, .separator) :: rest.map (·, .plain))
      | .ok kind => (classifyAll rest).map ((argument, kind) :: ·)

end CssMinifier.Options
