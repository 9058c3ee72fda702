import CssMinifier.Number.Reading
import CssMinifier.Text.Quoted

/-! Settings that the environment may change: the input that is minified when none is given,
the text encoding, and how long to wait for an address.
-/

namespace CssMinifier

open CssMinifier.Number

/-- The values that the environment gives; those left out take their defaults. -/
structure Environment where
  defaultInput : Option String := none
  encoding : Option String := none
  timeout : Option String := none

/-- The settings of a run. -/
structure Settings where
  defaultInput : String
  encoding : String
  timeout : Binary64
deriving DecidableEq

/-- A timeout that is no number. -/
structure Settings.BadTimeout where
  text : String
deriving DecidableEq

/-- The text of the error about a timeout. -/
def Settings.BadTimeout.message (error : BadTimeout) : String :=
  "could not convert string to float: " ++ Text.quoted error.text

/-- The settings under an environment. -/
def Settings.load (env : Environment) : Except Settings.BadTimeout Settings :=
  let timeout := env.timeout.getD "30"
  match Reading.read? timeout.toList with
  | none => .error ⟨timeout⟩
  | some number =>
      .ok
        { defaultInput := env.defaultInput.getD "ocr-widget.css"
          encoding := env.encoding.getD "utf-8"
          timeout := number }

end CssMinifier
