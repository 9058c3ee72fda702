import CssMinifier.Proofs.Session.Command

/-! The log over a whole session. The first call that reaches the log decides for good which
handler there is, the latest call that configures it decides the level, and every record goes
to the one handler.
-/

namespace CssMinifier

/-- A call of a session. -/
inductive Call
  | configure (level : Int)
  | minify (text : List Char)
  | read (source : String) (encoding : Option String) (timeout : Option Number.Binary64)
  | process (job : Job)
  | command (calledAs : String) (arguments : List String)

namespace Session

/-- The turn that a call makes, whatever it results in. -/
def perform (session : Session) : Call → Turn Unit
  | .configure level => session.configureLog level
  | .minify text => { session.minify text with result := () }
  | .read source encoding timeout => { session.read source encoding timeout with result := () }
  | .process job => { session.process job with result := () }
  | .command calledAs arguments => { session.command calledAs arguments with result := () }

/-- The session after a list of calls. -/
def after (session : Session) : List Call → Session
  | [] => session
  | call :: rest => (session.perform call).session.after rest

/-- Everything that a list of calls writes. -/
def written (session : Session) : List Call → List Write
  | [] => []
  | call :: rest => (session.perform call).writes ++ (session.perform call).session.written rest

/-- The input of a command: the one that is given, or the default one if it is a file. -/
def input? (session : Session) (options : Options) : Option String :=
  match options.input with
  | some input => some input
  | none =>
      match session.disk.file? (Path.parse session.settings.defaultInput) with
      | .ok (some _) => some session.settings.defaultInput
      | _ => none

/-- The progress messages of a command. -/
def commandProgress (session : Session) (options : Options) : List String :=
  match session.input? options with
  | some input => ((options.job input).run session.machine session.disk session.web).messages
  | none => []

/-- The progress messages of a call, whether they are written or not. -/
def progress (session : Session) : Call → List String
  | .minify _ => Stylesheet.progress
  | .process job => (job.run session.machine session.disk session.web).messages
  | .command calledAs arguments =>
      match CommandLine.read session.settings calledAs arguments with
      | .ok options => session.commandProgress options
      | .error _ => []
  | .configure _ | .read _ _ _ => []

-----------------------------------------------------------------------------------------
-- One call
-----------------------------------------------------------------------------------------

end Session

end CssMinifier
