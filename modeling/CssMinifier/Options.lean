import CssMinifier.Number.Reading
import CssMinifier.Options.Argument
import CssMinifier.Path
import CssMinifier.Settings
import CssMinifier.Text.Quoted

/-! Command lines: an input and an output, both optional, and switches in any order. Both
places for plain arguments are filled by the first run of plain arguments.
-/

namespace CssMinifier

open CssMinifier.Number

/-- What a command line asks for. A switch whose value is the separator itself is left with no
value.
-/
structure Options where
  input : Option String
  output : Option Path
  encoding : Option String
  timeout : Option Binary64
  quiet : Bool
deriving DecidableEq

namespace Options

/-- What is wrong with a command line. -/
inductive UsageError
  | ambiguous (ambiguity : Ambiguity)
  | missingValue (switch : Switch)
  | ignoredValue (switch : Switch) (text : List Char)
  | badTimeout (text : String)
  | unrecognized (arguments : List String)
deriving DecidableEq

/-- The text of a usage error. -/
def UsageError.message : UsageError → String
  | .ambiguous ⟨argument, spellings⟩ =>
      "ambiguous option: " ++ String.ofList argument ++ " could match "
        ++ ", ".intercalate (spellings.map String.ofList)
  | .missingValue switch => "argument " ++ switch.title ++ ": expected one argument"
  | .ignoredValue switch text =>
      "argument " ++ switch.title ++ ": ignored explicit argument "
        ++ Text.quoted (String.ofList text)
  | .badTimeout text =>
      "argument " ++ Switch.timeout.title ++ ": invalid float value: " ++ Text.quoted text
  | .unrecognized arguments => "unrecognized arguments: " ++ " ".intercalate arguments

/-- Why a command line is not run: it asks for help, or it is wrong. -/
inductive Stop
  | help
  | usage (error : UsageError)
deriving DecidableEq

/-- What the settings ask for before any argument is read. -/
def defaults (settings : Settings) : Options where
  input := none
  output := none
  encoding := some settings.encoding
  timeout := some settings.timeout
  quiet := false

/-- The flags of a short spelling with letters attached: each letter is a further flag. -/
def flags (switch : Switch) : List Char → Except UsageError (List Switch)
  | [] => .ok [switch]
  | c :: rest =>
      match Switch.spelled? ['-', c] with
      | some next => (flags next rest).map (switch :: ·)
      | none => .error (.ignoredValue switch (c :: rest))

/-- The options after one flag. -/
def raise (options : Options) : Switch → Except Stop Options
  | .help => .error .help
  | .quiet => .ok { options with quiet := true }
  | .encoding | .timeout => .ok options

/-- The options after a list of flags. -/
def raiseAll (options : Options) : List Switch → Except Stop Options
  | [] => .ok options
  | flag :: rest =>
      match raise options flag with
      | .error stop => .error stop
      | .ok next => raiseAll next rest

/-- The options after a switch with a value. -/
def setValue (options : Options) (switch : Switch) (value : String) : Except Stop Options :=
  match switch with
  | .encoding => .ok { options with encoding := if value = separator then none else some value }
  | .timeout =>
      if value = separator then
        .ok { options with timeout := none }
      else
        match Reading.read? value.toList with
        | some number => .ok { options with timeout := some number }
        | none => .error (.usage (.badTimeout value))
  | .help | .quiet => .ok options

/-- Holds for plain arguments and the separator. -/
def isPlain (argument : String × Kind) : Bool :=
  argument.2 = .plain || argument.2 = .separator

/-- The arguments that one place takes from a run of plain ones: one argument and the
separator on either side of it.
-/
def place (run : List (String × Kind)) : List (String × Kind) × List (String × Kind) :=
  let isSeparator := fun argument : String × Kind => decide (argument.2 = .separator)
  let ahead := run.takeWhile isSeparator
  let rest := run.dropWhile isSeparator
  let own := rest.take 1
  let after := (rest.drop 1).takeWhile isSeparator
  (ahead ++ own ++ after, (rest.drop 1).dropWhile isSeparator)

/-- The value of a place: its argument, with the first separator among its texts left out. -/
def placeValue (taken : List (String × Kind)) : Option String :=
  ((taken.map (·.1)).erase separator).head?

/-- Both places filled from a run of plain arguments, and the arguments left over. -/
def fillPlaces (options : Options) (run : List (String × Kind)) : Options × List String :=
  let (first, rest) := place run
  let (second, others) := place rest
  ({ options with input := placeValue first, output := (placeValue second).map Path.parse },
    others.map (·.1))

/-- The flags that a switch without a value raises. Text attached to a short spelling holds
further flags; any other attached text is in vain.
-/
def raisedBy (switch : Switch) (isShort : Bool)
    : Option (List Char) → Except UsageError (List Switch)
  | none => .ok [switch]
  | some text =>
      if isShort && !text.isEmpty then
        flags switch text
      else
        .error (.ignoredValue switch text)

/-- The options after a switch, and the number of arguments behind it that it used up as its
value.
-/
def takeSwitch (options : Options) (switch : Switch) (isShort : Bool)
    (attached : Option (List Char)) (next? : Option String) : Except Stop (Options × Nat) :=
  if switch.takesValue then
    match attached, next? with
    | some value, _ => (setValue options switch (String.ofList value)).map (·, 0)
    | none, some value => (setValue options switch value).map (·, 1)
    | none, none => .error (.usage (.missingValue switch))
  else
    match raisedBy switch isShort attached with
    | .error e => .error (.usage e)
    | .ok all => (raiseAll options all).map (·, 0)

/-- The next argument, if it is plain. -/
def nextPlain? : List (String × Kind) → Option String
  | (argument, .plain) :: _ => some argument
  | _ => none

/-- The options of the remaining arguments, and all that could not be placed. The flag tells
whether a run of plain arguments has filled the two places.
-/
def collect (filled : Bool) (options : Options)
    : List (String × Kind) → Except Stop (Options × List String)
  | [] => .ok (options, [])
  | (_, .switch switch isShort attached) :: rest =>
      match takeSwitch options switch isShort attached (nextPlain? rest) with
      | .error stop => .error stop
      | .ok (next, used) => collect filled next (rest.drop used)
  | (argument, .unknown) :: rest =>
      (collect filled options rest).map fun (final, left) => (final, argument :: left)
  | (argument, kind) :: rest =>
      let run := (argument, kind) :: rest.takeWhile isPlain
      let (next, left) := if filled then (options, run.map (·.1)) else fillPlaces options run
      (collect true next (rest.dropWhile isPlain)).map fun (final, more) => (final, left ++ more)
termination_by arguments => arguments.length
decreasing_by
  · simp only [List.length_drop, List.length_cons]; omega
  · simp only [List.length_cons]; omega
  · have := (List.dropWhile_suffix (l := rest) isPlain).length_le
    simp only [List.length_cons]; omega

/-- What a command line asks for under the settings. Arguments that could not be placed are
reported last.
-/
def parse (settings : Settings) (arguments : List String) : Except Stop Options :=
  match classifyAll arguments with
  | .error ambiguity => .error (.usage (.ambiguous ambiguity))
  | .ok classified =>
      match collect false (defaults settings) classified with
      | .error stop => .error stop
      | .ok (options, []) => .ok options
      | .ok (_, left) => .error (.usage (.unrecognized left))

end Options

end CssMinifier
