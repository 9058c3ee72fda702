import CssMinifier.Proofs.Options.Quiet
import CssMinifier.Proofs.Session.Command

/-! Quiet commands. The quiet flag keeps every record from being written, whatever the log was
before, and nothing else that a command does depends on it.
-/

namespace CssMinifier

/-- Two turns that differ in the log at most: in the records that were written and in the log
that is left.
-/
structure Turn.SameButLog {α : Type} (one other : Turn α) : Prop where
  result : one.result = other.result
  prints : one.writes.filter (!·.isRecord) = other.writes.filter (!·.isRecord)
  requests : one.requests = other.requests
  settings : one.session.settings = other.session.settings
  disk : one.session.disk = other.session.disk
  web : one.session.web = other.session.web
  machine : one.session.machine = other.session.machine

theorem Turn.SameButLog.refl {α : Type} (turn : Turn α) : turn.SameButLog turn :=
  ⟨rfl, rfl, rfl, rfl, rfl, rfl, rfl⟩

/-- Above the level of progress records none is written. -/
theorem Log.writes_record_of_lt {log : Log} (h : info < log.level) (messages : List String)
    : (log.record messages).2 = [] := by
  rw [writes_record, if_neg (Int.not_le.mpr h)]

namespace Session

-----------------------------------------------------------------------------------------
-- Commands under two logs
-----------------------------------------------------------------------------------------

theorem minifyInput_sameButLog (session : Session) (log log' : Log) (options : Options)
    (input : String)
    : Turn.SameButLog ({ session with log }.minifyInput options input)
        ({ session with log := log' }.minifyInput options input) := by
  rw [minifyInput_eq, minifyInput_eq]
  refine ⟨rfl, ?_, rfl, rfl, rfl, rfl, rfl⟩
  simp only [List.cons_append, List.filter_cons, List.filter_append, Log.prints_record]

/-- The log decides about records only, wherever a command ends. -/
theorem runOptions_sameButLog (session : Session) (log log' : Log) (calledAs : String)
    (options : Options)
    : Turn.SameButLog ({ session with log }.runOptions calledAs options)
        ({ session with log := log' }.runOptions calledAs options) := by
  rw [runOptions, runOptions]
  cases options.input with
  | some input => exact minifyInput_sameButLog session log log' options input
  | none =>
      simp only
      cases session.disk.file? (Path.parse session.settings.defaultInput) with
      | error refusal => exact ⟨rfl, rfl, rfl, rfl, rfl, rfl, rfl⟩
      | ok found =>
          cases found with
          | some bytes => exact minifyInput_sameButLog session log log' options _
          | none =>
              rw [showUsage, showUsage]
              simp only
              cases (session.machine.screen.print (session.settings.usageLines calledAs)).2 with
              | none => exact ⟨rfl, rfl, rfl, rfl, rfl, rfl, rfl⟩
              | some failure => exact ⟨rfl, rfl, rfl, rfl, rfl, rfl, rfl⟩

/-- The flag itself is read for the level of the log only. -/
theorem runOptions_quieted (session : Session) (calledAs : String) (options : Options)
    : session.runOptions calledAs options.quieted = session.runOptions calledAs options :=
  rfl

-----------------------------------------------------------------------------------------
-- Commands above the level of records
-----------------------------------------------------------------------------------------

theorem isRecord_of_runOptions {session : Session} (h : Log.info < session.log.level)
    {calledAs : String} {options : Options} {write : Write}
    (member : write ∈ (session.runOptions calledAs options).writes)
    : write.isRecord = false := by
  have minified (input : String) (member : write ∈ (session.minifyInput options input).writes)
      : write.isRecord = false := by
    rw [minifyInput_eq] at member
    simp only [Log.writes_record_of_lt h, List.cons_append, List.mem_cons] at member
    rcases member with rfl | concluded
    · rfl
    · exact isRecord_conclusion concluded
  have obeys := session.obeys_runOptions calledAs options
  generalize session.runOptions calledAs options = turn at obeys member
  cases obeys with
  | given | default => exact minified _ member
  | refused =>
      obtain rfl := List.mem_singleton.mp member
      rfl
  | absent => exact (session.showUsage_still calledAs).2.2 write member

/-- A command with the quiet flag in front ends as it does without it, with the same files and
requests and the same prints in the same order, and writes no record.
-/
theorem command_quiet (session : Session) (calledAs : String) (arguments : List String)
    : Turn.SameButLog (session.command calledAs ("-q" :: arguments))
        (session.command calledAs arguments)
      ∧ ∀ write ∈ (session.command calledAs ("-q" :: arguments)).writes,
          write.isRecord = false := by
  rw [command, command, CommandLine.read, CommandLine.read, Options.parse_quiet]
  cases Options.parse session.settings arguments with
  | error stop =>
      simp only [Except.map]
      cases CommandLine.refusal session.settings (CommandLine.programName calledAs) stop with
      | exit exit =>
          refine ⟨.refl _, ?_⟩
          simp only
          split <;> simp [Write.isRecord]
      | helpless error => exact ⟨.refl _, by simp⟩
  | ok options =>
      simp only [Except.map, runOptions_quieted]
      refine ⟨?_, fun write member => ?_⟩
      · exact runOptions_sameButLog session _ _ calledAs options
      · refine isRecord_of_runOptions ?_ member
        show Log.info < Log.warning
        decide

end Session

end CssMinifier
