/-! The log of a run. There is at most one handler; it is installed by the first configuration
or the first record, whichever comes first, and never replaced. All records are of one level.
-/

namespace CssMinifier

/-- The two output streams. -/
inductive Stream
  | stdout
  | stderr
deriving DecidableEq

/-- How records are written: with the time to the standard output, or bare to the error
output.
-/
inductive Handler
  | timed
  | bare
deriving DecidableEq

/-- The stream of a handler. -/
def Handler.stream : Handler → Stream
  | .timed => .stdout
  | .bare => .stderr

/-- Something written during a run: a plain text or a log record. -/
inductive Write
  | print (stream : Stream) (text : String)
  | record (handler : Handler) (message : String)
deriving DecidableEq

namespace Write

/-- The stream that is written to. -/
def stream : Write → Stream
  | .print stream _ => stream
  | .record handler _ => handler.stream

/-- The text that is written, given the text of the time. -/
def text (time : String) : Write → String
  | .print _ text => text
  | .record .timed message => time ++ " INFO " ++ message ++ "\n"
  | .record .bare message => "INFO:root:" ++ message ++ "\n"

/-- Holds for log records. -/
def isRecord : Write → Bool
  | .print _ _ => false
  | .record _ _ => true

/-- The text that a list of writes puts on a stream, given the text of the time. -/
def shown (time : String) (stream : Stream) (writes : List Write) : String :=
  String.join ((writes.filter (·.stream = stream)).map (·.text time))

end Write

/-- The state of the log: the least level that is written, and the handler. -/
structure Log where
  level : Int
  handler : Option Handler
deriving DecidableEq

namespace Log

/-- The level of progress records. -/
def info : Int := 20

/-- The level of warnings. -/
def warning : Int := 30

/-- The log before anything happened. -/
def initial : Log where
  level := warning
  handler := none

/-- A configuration sets the level, and installs the timed handler if there is none. -/
def configure (log : Log) (level : Int) : Log where
  level := level
  handler := some (log.handler.getD .timed)

/-- Progress messages install the bare handler if there is none, even if the level keeps them
from being written.
-/
def record (log : Log) (messages : List String) : Log × List Write :=
  if messages = [] then
    (log, [])
  else
    let handler := log.handler.getD .bare
    ({ log with handler := some handler },
      if log.level ≤ info then messages.map (.record handler) else [])

end Log

end CssMinifier
