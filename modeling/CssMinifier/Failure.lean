import CssMinifier.Disk
import CssMinifier.Encoding
import CssMinifier.Source
import CssMinifier.Text.Template

/-! What can go wrong in a run, and what is said about it. -/

namespace CssMinifier

/-- Where a name of an encoding is used: for a file or for the body of a response. -/
inductive Use
  | file
  | body
deriving DecidableEq

/-- The function that a message recommends for what is no text encoding. -/
def Use.advice : Use → String
  | .file => "codecs.open()"
  | .body => "codecs.decode()"

/-- Breakdowns of what a run rests on: the web, an encoding that is known by what it does only,
the disk while a file is written, or the screen.
-/
inductive Breakdown
  | web (message : String)
  | decoder (message : String)
  | encoder (message : String)
  | disk (message : String)
  | screen (message : String)
deriving DecidableEq

/-- What is said about a breakdown. -/
def Breakdown.message : Breakdown → String
  | .web message | .decoder message | .encoder message | .disk message | .screen message =>
      message

/-- The causes of a failed run. -/
inductive Failure
  | inputNotFound (source : String)
  | requestFailed (message : String)
  | badStatus (url : String) (status : Int)
  | refused (refusal : Refusal) (path : Path)
  | undecodable (error : Encoding.DecodeError)
  | unencodable
  | unknownEncoding (name : String)
  | notText (name : String) (use : Use)
  | nulInEncoding
  | noEncoding (use : Use)
  | nulInPath
  | unnamed (error : Source.NameError)
  | tooLarge
  | helpless (error : Text.Template.Error)
  | breakdown (cause : Breakdown)
deriving DecidableEq

namespace Failure

/-- What is said about a failure. -/
def message : Failure → String
  | .inputNotFound source => "Input file not found: " ++ source
  | .requestFailed message => "request error: " ++ message
  | .badStatus url status => "Fetching " ++ url ++ " failed (" ++ toString status ++ ")"
  | .refused refusal path => refusal.text ++ ": " ++ Text.quoted path.text
  | .undecodable error => error.message
  | .unencodable => "the text cannot be encoded"
  | .unknownEncoding name => "unknown encoding: " ++ name
  | .notText name use =>
      "'" ++ name ++ "' is not a text encoding; use " ++ use.advice
        ++ " to handle arbitrary codecs"
  | .nulInEncoding => "embedded null character"
  | .noEncoding .file => "open() argument 'encoding' must be str or None, not list"
  | .noEncoding .body => "decode() argument 'encoding' must be str, not list"
  | .nulInPath => "embedded null byte"
  | .unnamed error => error.message
  | .tooLarge => "integer division result too large for a float"
  | .helpless error => error.message
  | .breakdown cause => cause.message

/-- Holds for the failures that a run reports in one line. The others
end it.
-/
def isReported : Failure → Bool
  | .inputNotFound _ | .requestFailed _ | .badStatus _ _ | .refused _ _ | .undecodable _
  | .unencodable | .unknownEncoding _ | .notText _ _
  | .breakdown (.decoder _) | .breakdown (.encoder _) | .breakdown (.disk _) => true
  | .nulInEncoding | .noEncoding _ | .nulInPath | .unnamed _ | .tooLarge | .helpless _
  | .breakdown (.web _) | .breakdown (.screen _) => false

end Failure

end CssMinifier
