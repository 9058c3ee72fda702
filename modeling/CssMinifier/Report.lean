import CssMinifier.Screen
import CssMinifier.Size

/-! Reports of a finished minification. -/

namespace CssMinifier

/-- What a minification did. -/
structure Report where
  input : String
  output : Path
  sourceSize : Int
  minifiedSize : Int
deriving DecidableEq

namespace Report

/-- The bytes saved; negative if the output is larger. -/
def saved (report : Report) : Int :=
  report.sourceSize - report.minifiedSize

/-- The share saved, or nothing if it is out of range. -/
def compression? (report : Report) : Option String :=
  Size.compression? report.sourceSize report.minifiedSize

/-- A line about a size, unless it is out of range. -/
def line (title : String) (size : Option String) (rest : String) : Except Failure String :=
  match size with
  | some text => .ok (title ++ text ++ rest)
  | none => .error .tooLarge

/-- The last line of a report. -/
def created (report : Report) : String :=
  "Successfully created: " ++ report.output.text ++ "\n"

/-- The lines of a printed report. -/
def lines (report : Report) : List (Except Failure String) :=
  [.ok "\n", .ok "RESULTS:\n",
   line "   Original size:  " (Size.format? report.sourceSize) "\n",
   line "   Minified size:  " (Size.format? report.minifiedSize) "\n",
   line "   Compression:    " report.compression? " smaller\n",
   line "   Saved:          " (Size.format? report.saved) "\n",
   .ok "\n", .ok report.created]

/-- The printed report, or nothing if a size is out of range. -/
def text? (report : Report) : Option String :=
  match Screen.whole.print report.lines with
  | (text, none) => some text
  | (_, some _) => none

end Report

end CssMinifier
