import CssMinifier.Machine
import CssMinifier.Report
import CssMinifier.Stylesheet.Rule

/-! Jobs: one source is read, minified and written. Everything that can be refused is refused
before the output is opened, but for the encoding's name, which is looked up afterwards, and
what the encoding and the disk make of the text.
-/

namespace CssMinifier

open CssMinifier.Encoding

/-- The name of an encoding, if it can be passed on at all. -/
def usableName (use : Use) : Option String → Except Failure String
  | none => .error (.noEncoding use)
  | some name => if name.toList.contains '\x00' then .error .nulInEncoding else .ok name

namespace Source

/-- The text of a response body. An empty body is an empty text in every encoding, even in one
that does not exist.
-/
def bodyText (machine : Machine) (encoding : Option String) (body : Bytes)
    : Except Failure (List Char) :=
  match usableName .body encoding with
  | .error failure => .error failure
  | .ok name =>
      if body = [] then
        .ok []
      else
        match machine.scheme .body name with
        | .error failure => .error failure
        | .ok scheme => scheme.bodyText body

/-- The text of a file's bytes. -/
def fileText (machine : Machine) (encoding : Option String) (bytes : Bytes)
    : Except Failure (List Char) :=
  match usableName .file encoding with
  | .error failure => .error failure
  | .ok name =>
      match machine.scheme .file name with
      | .error failure => .error failure
      | .ok scheme => scheme.fileText bytes

/-- The bytes that an address answers. A status from 300 on is a failure. -/
def fetched (web : Web) (url : String) : Except Failure Bytes :=
  match web.fetch url with
  | .failure message => .error (.requestFailed message)
  | .breakdown message => .error (.breakdown (.web message))
  | .answer status body => if 300 ≤ status then .error (.badStatus url status) else .ok body

/-- The bytes of the file that a source names. -/
def stored (disk : Disk) (source : String) : Except Failure Bytes :=
  match disk.file? (Path.parse source) with
  | .error refusal => .error (.refused refusal (Path.parse source))
  | .ok none => .error (.inputNotFound source)
  | .ok (some bytes) => .ok bytes

/-- The text of a source and its size in bytes. -/
def read (machine : Machine) (disk : Disk) (web : Web) (source : String)
    (encoding : Option String)
    : Except Failure (List Char × Nat) :=
  if isRemote source then
    match fetched web source with
    | .error failure => .error failure
    | .ok body => (bodyText machine encoding body).map (·, body.length)
  else
    match stored disk source with
    | .error failure => .error failure
    | .ok bytes => (fileText machine encoding bytes).map (·, bytes.length)

/-- The requests that reading a source makes. -/
def requests (source : String) (timeout : Option Number.Binary64) : List Request :=
  if isRemote source then [⟨source, timeout⟩] else []

end Source

/-- The disk after a text was written to a path, and the number of bytes written. The file is
emptied before the encoding is looked up, and stays empty if that fails or if the encoding gives
up. A write that is cut short leaves the beginning of the bytes.
-/
def Disk.write (disk : Disk) (machine : Machine) (path : Path) (encoding : Option String)
    (text : List Char)
    : Except Failure Nat × Disk :=
  match usableName .file encoding with
  | .error failure => (.error failure, disk)
  | .ok name =>
      if path.hasNul then
        (.error .nulInPath, disk)
      else
        match disk.writable path with
        | .error refusal => (.error (.refused refusal path), disk)
        | .ok location =>
            let emptied := disk.put location (.file [])
            match machine.scheme .file name with
            | .error failure => (.error failure, emptied)
            | .ok scheme =>
                match scheme.stored text with
                | .error failure => (.error failure, emptied)
                | .ok bytes =>
                    match machine.cut? location bytes with
                    | some cut =>
                        (.error (.breakdown (.disk cut.message)),
                          disk.put location (.file (bytes.take cut.kept)))
                    | none => (.ok bytes.length, disk.put location (.file bytes))

/-- One source to be minified. Without an output the source names it. -/
structure Job where
  input : String
  output : Option Path
  encoding : Option String
  timeout : Option Number.Binary64

namespace Job

/-- What a job leaves behind: its report or failure, the disk, the progress messages and the
requests made.
-/
structure Outcome where
  result : Except Failure Report
  disk : Disk
  messages : List String
  requests : List Request

/-- The path that a job writes to. -/
def target (job : Job) : Except Failure Path :=
  match job.output with
  | some path => .ok path
  | none =>
      match Source.output job.input with
      | .ok path => .ok path
      | .error error => .error (.unnamed error)

/-- The progress messages of a job that writes to the given path. -/
def messages (job : Job) (path : Path) : List String :=
  ["Input:  " ++ job.input, "Output: " ++ path.text] ++ Stylesheet.progress

/-- The job done: the source is read, then the output is named, then written. -/
def run (job : Job) (machine : Machine) (disk : Disk) (web : Web) : Outcome :=
  let requests := Source.requests job.input job.timeout
  match Source.read machine disk web job.input job.encoding with
  | .error failure => ⟨.error failure, disk, [], requests⟩
  | .ok (text, size) =>
      match job.target with
      | .error failure => ⟨.error failure, disk, [], requests⟩
      | .ok path =>
          match disk.write machine path job.encoding (Stylesheet.minify text) with
          | (.error failure, after) => ⟨.error failure, after, job.messages path, requests⟩
          | (.ok written, after) =>
              ⟨.ok ⟨job.input, path, size, written⟩, after, job.messages path, requests⟩

end Job

end CssMinifier
