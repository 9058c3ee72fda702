import CssMinifier.CommandLine
import CssMinifier.Job
import CssMinifier.Log
import CssMinifier.Usage

/-! Sessions: calls that share a disk, the web, the log and the machine. Each call is a turn with
a result, with what it wrote and requested, and with the session after it.
-/

namespace CssMinifier

/-- What calls share. -/
structure Session where
  settings : Settings
  disk : Disk
  web : Web
  log : Log
  machine : Machine := .standard

/-- One call of a session. -/
structure Turn (α : Type) where
  result : α
  writes : List Write
  requests : List Request
  session : Session

/-- How a command ends: with a return code, with an exit before it started, or with a failure
that is not reported.
-/
inductive Ending
  | returned (code : Nat)
  | exited (code : Nat)
  | escaped (failure : Failure)
deriving DecidableEq

namespace Session

/-- A call that only configures the log. -/
def configureLog (session : Session) (level : Int) : Turn Unit :=
  ⟨(), [], [], { session with log := session.log.configure level }⟩

/-- A call that minifies a text. -/
def minify (session : Session) (text : List Char) : Turn (List Char) :=
  let (log, writes) := session.log.record Stylesheet.progress
  ⟨Stylesheet.minify text, writes, [], { session with log }⟩

/-- A call that reads a source. It logs nothing. -/
def read (session : Session) (source : String) (encoding : Option String)
    (timeout : Option Number.Binary64) : Turn (Except Failure (List Char × Nat)) :=
  ⟨Source.read session.machine session.disk session.web source encoding, [],
    Source.requests source timeout, session⟩

/-- A call that does a job. -/
def process (session : Session) (job : Job) : Turn (Except Failure Report) :=
  let outcome := job.run session.machine session.disk session.web
  let (log, writes) := session.log.record outcome.messages
  ⟨outcome.result, writes, outcome.requests, { session with disk := outcome.disk, log }⟩

/-- The heading of every command. -/
def banner : Write :=
  .print .stdout "CSS Minifier\n============\n\n"

/-- The end of a command whose job is done: the report, as far as it can be printed, or the
failure in one line.
-/
def conclusion (screen : Screen) : Except Failure Report → Ending × List Write
  | .ok report =>
      let printed := screen.print report.lines
      match printed.2 with
      | none => (.returned 0, [.print .stdout printed.1])
      | some failure => (.escaped failure, [.print .stdout printed.1])
  | .error failure =>
      if failure.isReported then
        (.returned 1, [.print .stderr ("error: " ++ failure.message ++ "\n")])
      else
        (.escaped failure, [])

/-- The command on an input. -/
def minifyInput (session : Session) (options : Options) (input : String) : Turn Ending :=
  let turn := session.process ⟨input, options.output, options.encoding, options.timeout⟩
  let (ending, writes) := conclusion session.machine.screen turn.result
  { turn with result := ending, writes := banner :: turn.writes ++ writes }

/-- The command without an input, when the default input does not exist: the usage, as far as
it can be printed, and an error.
-/
def showUsage (session : Session) (calledAs : String) : Turn Ending :=
  let printed := session.machine.screen.print (session.settings.usageLines calledAs)
  match printed.2 with
  | some failure => ⟨.escaped failure, [banner, .print .stdout printed.1], [], session⟩
  | none =>
      let complaint := "error: No input file specified and " ++ session.settings.defaultInput
        ++ " not found.\n"
      ⟨.returned 1,
        [banner, .print .stdout printed.1, .print .stdout "\n", .print .stderr complaint], [],
        session⟩

/-- The command with the given options. -/
def runOptions (session : Session) (calledAs : String) (options : Options) : Turn Ending :=
  match options.input with
  | some input => session.minifyInput options input
  | none =>
      let path := Path.parse session.settings.defaultInput
      match session.disk.file? path with
      | .error refusal => ⟨.escaped (.refused refusal path), [banner], [], session⟩
      | .ok none => session.showUsage calledAs
      | .ok (some _) => session.minifyInput options session.settings.defaultInput

/-- The command. The log is configured once the arguments are understood. -/
def command (session : Session) (calledAs : String) (arguments : List String) : Turn Ending :=
  match CommandLine.read session.settings calledAs arguments with
  | .error (.exit exit) =>
      match session.machine.screen.refusal? exit.stdout with
      | some message => ⟨.escaped (.breakdown (.screen message)), [], [], session⟩
      | none =>
          ⟨.exited exit.code, [.print .stdout exit.stdout, .print .stderr exit.stderr], [],
            session⟩
  | .error (.helpless error) => ⟨.escaped (.helpless error), [], [], session⟩
  | .ok options =>
      let level := if options.quiet then Log.warning else Log.info
      { session with log := session.log.configure level }.runOptions calledAs options

end Session

end CssMinifier
