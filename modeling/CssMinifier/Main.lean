import CssMinifier.Session
import Std.Time.DateTime

/-! The program. It copies what the command needs from the real disk, runs the command, prints
what the command wrote and stores the files that it changed. It has no way to the web, so no
address can be reached.
-/

namespace CssMinifier.Main

/-- What stands at a location of the real disk. -/
def probe (location : Location) : IO (Option Entry) := do
  let place := (← IO.currentDir) / ("/" ++ String.ofList (Text.joined '/' location))
  if ← place.isDir then
    return some .directory
  try
    return some (.file (← IO.FS.readBinFile place).toList)
  catch _ =>
    return none

/-- The locations that a list of names leads through. -/
def passed (here : Location) : List (List Char) → List Location
  | [] => [here]
  | name :: rest =>
      here :: passed (if name = ['.', '.'] then here.dropLast else here ++ [name]) rest

/-- The paths that a command line may read or write. -/
def paths (settings : Settings) : Except CommandLine.Refusal Options → List Path
  | .error _ => []
  | .ok options =>
      let input := options.input.getD settings.defaultInput
      let job : Job := ⟨input, options.output, options.encoding, options.timeout⟩
      match job.target with
      | .ok target => [Path.parse input, target]
      | .error _ => [Path.parse input]

/-- The part of the real disk that the given paths lead through. -/
def load (working : Location) (paths : List Path) : IO Disk := do
  let mut disk : Disk := ⟨working, []⟩
  for path in paths do
    for location in passed (disk.start path.root) path.names do
      match ← probe location with
      | some entry => disk := disk.put location entry
      | none => pure ()
  return disk

/-- The files of a disk that another disk does not hold in the same way. -/
def changed (before after : Disk) : List (Location × Encoding.Bytes) :=
  after.entries.filterMap fun (location, entry) =>
    match entry with
    | .file bytes => if before.find? location = some entry then none else some (location, bytes)
    | .directory => none

/-- The time as the log shows it. -/
def clock : IO String := do
  let zone := Std.Time.TimeZone.UTC
  let now := (Std.Time.DateTime.ofTimestampWithZone (← Std.Time.Timestamp.now) zone).toPlainDateTime
  let padded := fun (width : Nat) (n : Int) =>
    let digits := toString n
    String.ofList (List.replicate (width - digits.length) '0') ++ digits
  return padded 4 now.date.year ++ "-" ++ padded 2 now.date.month.val ++ "-"
    ++ padded 2 now.date.day.val ++ " " ++ padded 2 now.time.hour.val ++ ":"
    ++ padded 2 now.time.minute.val ++ ":" ++ padded 2 now.time.second.val ++ ","
    ++ padded 3 (now.time.nanosecond.val / 1000000)

/-- One write, carried out. -/
def perform (write : Write) : IO Unit := do
  let text := write.text (← clock)
  match write.stream with
  | .stdout => IO.print text
  | .stderr => IO.eprint text

/-- The command under the given settings, and its exit code. -/
def run (settings : Settings) (calledAs : String) (arguments : List String) : IO UInt32 := do
  let working := (Path.parse (← IO.currentDir).toString).names
  let disk ← load working (paths settings (CommandLine.read settings calledAs arguments))
  let session : Session := ⟨settings, disk, ⟨[]⟩, Log.initial, .standard⟩
  let turn := session.command calledAs arguments
  for write in turn.writes do
    perform write
  for (location, bytes) in changed disk turn.session.disk do
    IO.FS.writeBinFile ("/" ++ String.ofList (Text.joined '/' location)) ⟨bytes.toArray⟩
  match turn.result with
  | .returned code | .exited code => return code.toUInt32
  | .escaped failure =>
      IO.eprintln failure.message
      return 1

end CssMinifier.Main

open CssMinifier in
/-- The program with the settings of its environment. -/
def main (arguments : List String) : IO UInt32 := do
  let env : Environment :=
    { defaultInput := ← IO.getEnv "MINIFY_CSS_DEFAULT_INPUT"
      encoding := ← IO.getEnv "MINIFY_CSS_ENCODING"
      timeout := ← IO.getEnv "MINIFY_CSS_TIMEOUT" }
  match Settings.load env with
  | .ok settings => Main.run settings (← IO.appPath).toString arguments
  | .error error =>
      IO.eprintln error.message
      return 1
