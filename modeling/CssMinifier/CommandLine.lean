import CssMinifier.Options
import CssMinifier.Usage

/-! Command lines as they are answered: with options, or with a text and an exit code. -/

namespace CssMinifier.CommandLine

/-- The name under which a program was called, without its directory. -/
def programName (calledAs : String) : String :=
  String.ofList (Text.behindLast '/' calledAs.toList)

/-- A run that ends before it starts: its exit code and what it prints. -/
structure Exit where
  code : Nat
  stdout : String
  stderr : String
deriving DecidableEq

/-- Why a command line gives no options. -/
inductive Refusal
  | exit (exit : Exit)
  | helpless (error : Text.Template.Error)
deriving DecidableEq

/-- The answer to a command line that is not run. -/
def refusal (settings : Settings) (program : String) : Options.Stop → Refusal
  | .help =>
      match Options.Help.text program settings with
      | .ok text => .exit ⟨0, text, ""⟩
      | .error e => .helpless e
  | .usage e =>
      .exit ⟨2, "", Options.Help.usage program ++ program ++ ": error: " ++ e.message ++ "\n"⟩

/-- The options of a command line, or the answer if there are none. -/
def read (settings : Settings) (calledAs : String) (arguments : List String)
    : Except Refusal Options :=
  match Options.parse settings arguments with
  | .ok options => .ok options
  | .error stop => .error (refusal settings (programName calledAs) stop)

end CssMinifier.CommandLine
