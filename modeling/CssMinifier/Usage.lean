import CssMinifier.Number.Shortest
import CssMinifier.Screen
import CssMinifier.Settings
import CssMinifier.Text.Paragraph
import CssMinifier.Text.Template

/-! How the program says that it is used: the usage lines and the help of the command line, laid
out for a screen of eighty columns, and the short usage that is printed when there is nothing
to minify.
-/

-----------------------------------------------------------------------------------------
-- Usage lines and help of the command line
-----------------------------------------------------------------------------------------

namespace CssMinifier.Options.Help

open CssMinifier.Text

/-- The columns that a text may fill. -/
def width : Nat := 78

/-- The word before the usage. -/
def lead : String := "usage: "

/-- The switches as the usage shows them. -/
def switchParts : List String :=
  ["[-h]", "[--encoding ENCODING]", "[--timeout TIMEOUT]", "[-q]"]

/-- The plain arguments as the usage shows them. -/
def plainParts : List String :=
  ["[input]", "[output]"]

/-- A text of blanks. -/
def spaces (n : Nat) : String :=
  String.ofList (List.replicate n ' ')

/-- The parts that still fit on a line of which the given columns are used, and the others. -/
def fitting (used : Nat) : List String → List String × List String
  | [] => ([], [])
  | part :: rest =>
      if width < used + 1 + part.length then
        ([], part :: rest)
      else
        let (line, others) := fitting (used + 1 + part.length) rest
        (part :: line, others)

/-- The lines of a list of parts, with the columns used before the first part and before the
first part of every further line. A line holds at least one part.
-/
def partLines (used indent : Nat) : Nat → List String → List (List String)
  | 0, _ => []
  | _, [] => []
  | fuel + 1, part :: rest =>
      let (line, others) := fitting (used + 1 + part.length) rest
      (part :: line) :: partLines indent indent fuel others

/-- Lines that start at the given column. -/
def indented (indent : Nat) (lines : List (List String)) : List String :=
  lines.map fun line => spaces indent ++ " ".intercalate line

/-- The usage of a program with the given name, behind the leading word. It is one line if it
fits. Else the arguments stand in a column behind the name, or below it if it is long.
-/
def usageBody (program : String) : String :=
  let parts := switchParts ++ plainParts
  let single := " ".intercalate (if program = "" then parts else program :: parts)
  let column := lead.length + program.length
  let block := fun (indent : Nat) (all : List String) =>
    indented indent (partLines (indent - 1) (indent - 1) all.length all)
  if lead.length + single.length ≤ width then
    single
  else if 4 * column ≤ 3 * width then
    let indent := column + 1
    let first := partLines (lead.length - 1) (indent - 1) (switchParts.length + 1)
      (program :: switchParts)
    "\n".intercalate
      ((first.take 1).map (" ".intercalate ·)
        ++ indented indent (first.drop 1) ++ block indent plainParts)
  else
    let together := block lead.length parts
    "\n".intercalate
      (program :: if together.length ≤ 1 then together
        else block lead.length switchParts ++ block lead.length plainParts)

/-- The text with every run of more than two line feeds as two, and none at its ends. -/
def tidy (text : List Char) : List Char :=
  let isFeed := fun c : Char => decide (c = '\n')
  let shortened := text.foldr
    (fun c done => if c = '\n' ∧ done.take 2 = ['\n', '\n'] then done else c :: done) []
  ((shortened.dropWhile isFeed).reverse.dropWhile isFeed).reverse

/-- The usage lines, ended by a line feed. -/
def usage (program : String) : String :=
  String.ofList (tidy (lead ++ usageBody program).toList) ++ "\n"

/-- The columns before the explanations. -/
def column : Nat := 23

/-- One argument of the help: its name, and its explanation in the column behind. -/
def row (name explanation : String) : String :=
  let lines := (Paragraph.wrap (width - column) explanation.toList).map String.ofList
  let head := "  " ++ name ++ spaces (column - 2 - name.length)
  head ++ ("\n" ++ spaces column).intercalate lines ++ "\n"

/-- The fields that the explanation of the input may name. -/
def inputFields (program explanation : String) : List Template.Field :=
  [{ name := "prog", value := program }, { name := "dest", value := "input" },
   { name := "nargs", value := "?" }, { name := "help", value := explanation },
   { name := "option_strings", value := "[]", isText := false },
   { name := "const", value := "None", isText := false },
   { name := "default", value := "None", isText := false },
   { name := "type", value := "None", isText := false },
   { name := "choices", value := "None", isText := false },
   { name := "metavar", value := "None", isText := false },
   { name := "required", value := "False", isText := false }]

/-- The explanation of the input. The default that it names may hold placeholders of its own.
-/
def inputExplanation (program : String) (settings : Settings) : Except Template.Error String :=
  let text := "Path or http(s) URL of the source CSS (default: " ++ settings.defaultInput ++ ")"
  Template.fill (inputFields program text) text

/-- The whole help. -/
def text (program : String) (settings : Settings) : Except Template.Error String :=
  match inputExplanation program settings with
  | .error e => .error e
  | .ok input =>
      let body := lead ++ usageBody program ++ "\n\nMinify a CSS file.\n\n"
        ++ "positional arguments:\n"
        ++ row "input" input
        ++ row "output" ("Where to write the minified CSS (default: input name with .min before "
          ++ "the extension)")
        ++ "\noptions:\n"
        ++ row "-h, --help" "show this help message and exit"
        ++ row "--encoding ENCODING" ("Text encoding used to read and write the CSS (default: "
          ++ settings.encoding ++ ")")
        ++ row "--timeout TIMEOUT" ("Seconds to wait when fetching a remote stylesheet (default: "
          ++ settings.timeout.text ++ ")")
        ++ row "-q, --quiet" "Only log warnings and errors."
      .ok (String.ofList (tidy body.toList) ++ "\n")

end CssMinifier.Options.Help

-----------------------------------------------------------------------------------------
-- The short usage
-----------------------------------------------------------------------------------------

namespace CssMinifier.Usage

/-- The example of the default input, which names its output, if it has one. -/
def ownExample (program : String) (settings : Settings) : Except Failure String :=
  match Source.output settings.defaultInput with
  | .ok output =>
      .ok ("  " ++ program ++ "                          # Minify " ++ settings.defaultInput
        ++ " to " ++ output.text ++ "\n")
  | .error error => .error (.unnamed error)

/-- The lines of the usage. -/
def lines (program : String) (settings : Settings) : List (Except Failure String) :=
  [.ok ("Usage: " ++ program ++ " [input-file] [output-file]\n"), .ok "\n", .ok "Examples:\n",
   ownExample program settings,
   .ok ("  " ++ program ++ " styles.css               # Minify styles.css to styles.min.css\n"),
   .ok ("  " ++ program ++ " styles.css minified.css  # Minify styles.css to minified.css\n")]

/-- The text that is printed, and the failure that cuts it short if the default input names no
output.
-/
def text (program : String) (settings : Settings) : String × Option Failure :=
  Screen.whole.print (lines program settings)

end CssMinifier.Usage

/-- The lines of the usage under the settings, with the name by which the program was called. -/
def CssMinifier.Settings.usageLines (settings : Settings) (calledAs : String)
    : List (Except Failure String) :=
  Usage.lines (String.ofList (Path.parse calledAs).name) settings
