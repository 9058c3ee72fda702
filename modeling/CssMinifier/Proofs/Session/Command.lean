import CssMinifier.Proofs.Log
import CssMinifier.Session

/-! Commands whose arguments are understood. They minify an input, which is given or the
default one, or they end before that. What they conclude is printed, and all records are those
of the job.
-/

namespace CssMinifier

/-- The job that options ask for on an input. -/
def Options.job (options : Options) (input : String) : Job where
  input := input
  output := options.output
  encoding := options.encoding
  timeout := options.timeout

namespace Session

theorem minifyInput_eq (session : Session) (options : Options) (input : String)
    : session.minifyInput options input
      = let outcome := (options.job input).run session.machine session.disk session.web
        let (log, records) := session.log.record outcome.messages
        let (ending, prints) := conclusion session.machine.screen outcome.result
        { result := ending
          writes := banner :: records ++ prints
          requests := outcome.requests
          session := { session with disk := outcome.disk, log } } :=
  rfl

/-- A conclusion is printed, not recorded. -/
theorem isRecord_conclusion {screen : Screen} {result : Except Failure Report} {write : Write}
    (h : write ∈ (conclusion screen result).2)
    : write.isRecord = false := by
  cases result with
  | ok report =>
      simp only [conclusion] at h
      split at h <;>
        · obtain rfl := List.mem_singleton.mp h
          rfl
  | error failure =>
      simp only [conclusion] at h
      split at h
      · obtain rfl := List.mem_singleton.mp h
        rfl
      · cases h

/-- How a command goes on once its arguments are understood. -/
inductive Obeys (session : Session) (calledAs : String) (options : Options)
    : Turn Ending → Prop
  | given {input : String} (own : options.input = some input)
    : Obeys session calledAs options (session.minifyInput options input)
  | default {bytes : Encoding.Bytes} (none : options.input = none)
    (found : session.disk.file? (Path.parse session.settings.defaultInput) = .ok (some bytes))
    : Obeys session calledAs options
        (session.minifyInput options session.settings.defaultInput)
  | refused {refusal : Refusal} (none : options.input = none)
    (refused
      : session.disk.file? (Path.parse session.settings.defaultInput) = .error refusal)
    : Obeys session calledAs options
        ⟨.escaped (.refused refusal (Path.parse session.settings.defaultInput)), [banner], [],
          session⟩
  | absent (none : options.input = none)
    (absent : session.disk.file? (Path.parse session.settings.defaultInput) = .ok Option.none)
    : Obeys session calledAs options (session.showUsage calledAs)

theorem obeys_runOptions (session : Session) (calledAs : String) (options : Options)
    : session.Obeys calledAs options (session.runOptions calledAs options) := by
  rw [runOptions]
  split
  · next own => exact .given own
  · next none =>
      simp only
      split
      · next refused => exact .refused none refused
      · next absent => exact .absent none absent
      · next found => exact .default none found

/-- A command whose arguments are understood goes on with the log configured. -/
theorem command_of_read {session : Session} {calledAs : String} {arguments : List String}
    {options : Options}
    (parsed : CommandLine.read session.settings calledAs arguments = .ok options)
    : session.command calledAs arguments
      = let level := if options.quiet then Log.warning else Log.info
        (session.configureLog level).session.runOptions calledAs options := by
  rw [command, parsed]
  rfl

-----------------------------------------------------------------------------------------
-- The usage
-----------------------------------------------------------------------------------------

/-- The usage is printed as a whole if every line of it can be made and is shown. -/
theorem showUsage_whole {session : Session} {calledAs : String}
    (h : (session.machine.screen.print (session.settings.usageLines calledAs)).2 = none)
    : session.showUsage calledAs
      = { result := .returned 1
          writes :=
            [banner, .print .stdout (Screen.whole.print (session.settings.usageLines calledAs)).1,
              .print .stdout "\n",
              .print .stderr
                ("error: No input file specified and " ++ session.settings.defaultInput
                  ++ " not found.\n")]
          requests := []
          session } := by
  rw [← Screen.print_eq_whole h]
  simp only [showUsage, h]

theorem showUsage_stopped {session : Session} {calledAs : String} {failure : Failure}
    (h : (session.machine.screen.print (session.settings.usageLines calledAs)).2 = some failure)
    : session.showUsage calledAs
      = { result := .escaped failure
          writes :=
            [banner,
              .print .stdout
                (session.machine.screen.print (session.settings.usageLines calledAs)).1]
          requests := []
          session } := by
  simp only [showUsage, h]

/-- The usage leaves the session as it was, and it is printed, not recorded. -/
theorem showUsage_still (session : Session) (calledAs : String)
    : (session.showUsage calledAs).requests = []
      ∧ (session.showUsage calledAs).session = session
      ∧ ∀ write ∈ (session.showUsage calledAs).writes, write.isRecord = false := by
  cases stopped : (session.machine.screen.print (session.settings.usageLines calledAs)).2 with
  | none =>
      rw [showUsage_whole stopped]
      simp [banner, Write.isRecord]
  | some failure =>
      rw [showUsage_stopped stopped]
      simp [banner, Write.isRecord]

end Session

end CssMinifier
