import CssMinifier.Proofs.Naming
import CssMinifier.Proofs.Options.Collecting
import CssMinifier.Proofs.Session.Command
import Mathlib.Data.List.Basic

/-! Commands without an input whose default input is no file. They print the usage and an
error if the default input can be looked up and names an output, which the usage shows, and if
the screen shows the usage; else they end in a failure that is not reported.
-/

namespace CssMinifier

/-- A file is looked up unless a name on the way to it is too long. -/
theorem Disk.file?_error_iff {disk : Disk} {path : Path} {refusal : Refusal}
    : disk.file? path = .error refusal
      ↔ refusal = .nameTooLong
        ∧ path.hasNul = false
        ∧ disk.locate path = .error .nameTooLong := by
  rw [file?]
  cases path.hasNul with
  | true => simp
  | false =>
      cases disk.locate path with
      | error cause => cases cause <;> simp [eq_comm]
      | ok location =>
          simp only [Bool.false_eq_true, if_false]
          split <;> simp

/-- A single name that is too long is refused in every tree. -/
theorem Disk.file?_long (disk : Disk) {name : List Char} (slashless : '/' ∉ name)
    (clean : '\x00' ∉ name) (long : nameLimit < byteLength name)
    : disk.file? (Path.parse (String.ofList name)) = .error .nameTooLong := by
  have apart {short : List Char} (brief : byteLength short ≤ nameLimit) : name ≠ short := by
    intro same
    exact Nat.not_lt.mpr brief (same ▸ long)
  have named : Path.isName name = true := by
    simp only [Path.isName, Bool.and_eq_true, decide_eq_true_eq]
    exact ⟨apart (by decide), apart (by decide)⟩
  rw [file?_error_iff, Path.parse_ofList named slashless]
  refine ⟨rfl, by simp [Path.hasNul, clean], ?_⟩
  rw [locate]
  split
  · rfl
  · have here : disk.find? disk.working = some .directory := by simp [find?]
    rw [start, walk, here]
    simp only [if_neg (apart (by decide : byteLength ['.', '.'] ≤ nameLimit)), if_pos long]

theorem Disk.short_of_file? {disk : Disk} {path : Path} {found : Option Encoding.Bytes}
    (h : disk.file? path = .ok found)
    : path.hasNul = true ∨ disk.locate path ≠ .error .nameTooLong := by
  rw [Decidable.or_iff_not_imp_left, Bool.not_eq_true]
  intro clean long
  rw [file?_error_iff.mpr ⟨rfl, clean, long⟩] at h
  cases h

/-- The default input can be looked up on a disk, and an output can be named after it. -/
structure Settings.DefaultUsable (settings : Settings) (disk : Disk) : Prop where
  short
    : (Path.parse settings.defaultInput).hasNul = true
      ∨ disk.locate (Path.parse settings.defaultInput) ≠ .error .nameTooLong
  named
    : if Source.isRemote settings.defaultInput then
        ∃ url, Url.parse settings.defaultInput.toList = .ok url
      else
        (Path.parse settings.defaultInput).name ≠ []

/-- The turn of a command that finds nothing to minify: it prints the usage, with the output that
the default input names, and an error, and returns the code one.
-/
structure Turn.Complains (turn : Turn Ending) (settings : Settings) (calledAs : String)
    : Prop where
  result : turn.result = .returned 1
  writes
    : ∃ output text,
        Source.output settings.defaultInput = .ok output
        ∧ Usage.text (String.ofList (Path.parse calledAs).name) settings = (text, none)
        ∧ turn.writes
          = [Session.banner, .print .stdout text, .print .stdout "\n",
              .print .stderr
                ("error: No input file specified and " ++ settings.defaultInput
                  ++ " not found.\n")]

/-- A line of the usage that cannot be made is that of a default input without an output. -/
theorem Usage.error_mem_lines {program : String} {settings : Settings} {failure : Failure}
    (h : .error failure ∈ lines program settings)
    : ∃ error,
        Source.output settings.defaultInput = .error error ∧ failure = .unnamed error := by
  have own : ownExample program settings = .error failure := by
    simpa [lines, eq_comm] using h
  rw [ownExample] at own
  split at own
  · cases own
  · next error unnamed => exact ⟨error, unnamed, (Except.error.inj own).symm⟩

theorem Usage.error_mem_lines_of_output {settings : Settings} {error : Source.NameError}
    (unnamed : Source.output settings.defaultInput = .error error) (program : String)
    : .error (.unnamed error) ∈ lines program settings := by
  simp [lines, ownExample, unnamed]

theorem CommandLine.read_nil (settings : Settings) (calledAs : String)
    : read settings calledAs [] = .ok (Options.defaults settings) := by
  rw [read, Options.parse, Options.classifyAll]
  simp

namespace Session

/-- The screen shows every line of the usage that can be made. -/
def ShowsUsage (session : Session) (calledAs : String) : Prop :=
  ∀ line,
    .ok line ∈ session.settings.usageLines calledAs
    → session.machine.screen.refusal? line = none

/-- The usage is printed as a whole exactly if it can be made and is shown. -/
theorem print_usageLines_iff {session : Session} {calledAs : String}
    : (session.machine.screen.print (session.settings.usageLines calledAs)).2 = none
      ↔ (∃ output, Source.output session.settings.defaultInput = .ok output)
        ∧ session.ShowsUsage calledAs := by
  rw [Screen.print_complete_iff]
  constructor
  · intro complete
    refine ⟨?_, fun line member => ?_⟩
    · cases unnamed : Source.output session.settings.defaultInput with
      | ok output => exact ⟨output, rfl⟩
      | error error =>
          obtain ⟨_, made, _⟩ := complete _ (Usage.error_mem_lines_of_output unnamed _)
          cases made
    · obtain ⟨_, same, shown⟩ := complete _ member
      exact Except.ok.inj same ▸ shown
  · rintro ⟨⟨output, named⟩, shows⟩ entry member
    cases entry with
    | ok line => exact ⟨line, rfl, shows line member⟩
    | error failure =>
        obtain ⟨_, unnamed, _⟩ := Usage.error_mem_lines member
        rw [named] at unnamed
        cases unnamed

theorem showUsage_complains {session : Session} {output : Path} {calledAs : String}
    (named : Source.output session.settings.defaultInput = .ok output)
    (shows : session.ShowsUsage calledAs)
    : (session.showUsage calledAs).Complains session.settings calledAs := by
  have printed := print_usageLines_iff.mpr ⟨⟨output, named⟩, shows⟩
  have whole := (Screen.print_eq_whole printed).symm ▸ printed
  rw [showUsage_whole printed]
  exact ⟨rfl, output, _, named, Prod.ext rfl whole, rfl⟩

/-- Why a command that finds nothing to minify does not complain: the default input is too long
to be looked up or names no output, or the screen refuses a line of the usage.
-/
inductive Balks (settings : Settings) (screen : Screen) (calledAs : String) : Ending → Prop
  | long
    : Balks settings screen calledAs
        (.escaped (.refused .nameTooLong (Path.parse settings.defaultInput)))
  | unnamed {error : Source.NameError}
    (unnamed : Source.output settings.defaultInput = .error error)
    : Balks settings screen calledAs (.escaped (.unnamed error))
  | refused {line message : String} (member : .ok line ∈ settings.usageLines calledAs)
    (refused : screen.refusal? line = some message)
    : Balks settings screen calledAs (.escaped (.breakdown (.screen message)))

/-- A usage that is not printed as a whole ends in the failure of the line that stops it. -/
theorem balks_showUsage {session : Session} {calledAs : String} {failure : Failure}
    (h : (session.machine.screen.print (session.settings.usageLines calledAs)).2 = some failure)
    : Balks session.settings session.machine.screen calledAs (.escaped failure) := by
  rcases Screen.print_stopped h with unmade | ⟨line, message, member, refused, rfl⟩
  · obtain ⟨error, unnamed, rfl⟩ := Usage.error_mem_lines unmade
    exact .unnamed unnamed
  · exact .refused member refused

/-- Without an input and a file for the default one, all depends on what can be done with the
default input: it is looked up first and then named in the usage, line by line.
-/
theorem runOptions_without_input (session : Session) {options : Options}
    (inputless : options.input = none)
    (missing
      : ∀ bytes,
          session.disk.file? (Path.parse session.settings.defaultInput) ≠ .ok (some bytes))
    (calledAs : String)
    : let turn := session.runOptions calledAs options
      let usable := session.settings.DefaultUsable session.disk ∧ session.ShowsUsage calledAs
      (turn.Complains session.settings calledAs ↔ usable)
      ∧ (¬ usable → Balks session.settings session.machine.screen calledAs turn.result)
      ∧ turn.requests = []
      ∧ turn.session.disk = session.disk := by
  have obeys := session.obeys_runOptions calledAs options
  generalize session.runOptions calledAs options = turn at obeys ⊢
  cases obeys with
  | given own =>
      rw [inputless] at own
      cases own
  | default _ found => exact absurd found (missing _)
  | refused _ refused =>
      obtain ⟨rfl, clean, long⟩ := Disk.file?_error_iff.mp refused
      refine ⟨⟨fun complains => ?_, fun usable => ?_⟩, fun _ => .long, rfl, rfl⟩
      · cases complains.result
      · rcases usable.1.short with nul | short
        · rw [clean] at nul
          cases nul
        · exact absurd long short
  | absent _ absent =>
      have short := Disk.short_of_file? absent
      have usable
          : session.settings.DefaultUsable session.disk
            ↔ ∃ output, Source.output session.settings.defaultInput = .ok output := by
        rw [Source.output_ok_iff]
        exact ⟨Settings.DefaultUsable.named, Settings.DefaultUsable.mk short⟩
      obtain ⟨requests, still, _⟩ := session.showUsage_still calledAs
      simp only
      rw [usable, ← print_usageLines_iff]
      cases stopped : (session.machine.screen.print (session.settings.usageLines calledAs)).2 with
      | none =>
          obtain ⟨⟨output, named⟩, shows⟩ := print_usageLines_iff.mp stopped
          have complains := showUsage_complains named shows
          exact ⟨⟨fun _ => rfl, fun _ => complains⟩, fun other => absurd rfl other, requests,
            by rw [still]⟩
      | some failure =>
          rw [showUsage_stopped stopped]
          refine ⟨⟨fun complains => ?_, fun printed => ?_⟩, ?_, rfl, rfl⟩
          · cases complains.result
          · cases printed
          · exact fun _ => balks_showUsage stopped

theorem command_of_refused {session : Session} {calledAs : String} {arguments : List String}
    {options : Options} {refusal : Refusal}
    (parsed : CommandLine.read session.settings calledAs arguments = .ok options)
    (inputless : options.input = none)
    (refused : session.disk.file? (Path.parse session.settings.defaultInput) = .error refusal)
    : (session.command calledAs arguments).result
      = .escaped (.refused refusal (Path.parse session.settings.defaultInput)) := by
  rw [command_of_read parsed]
  simp only [runOptions, inputless, configureLog, refused]

/-- A command without an input whose default input is no file makes no request and leaves all
files as they were. It complains exactly if the default input is usable and the screen shows the
usage; otherwise it ends in a failure that is not reported, of the look-up, of the name or of
the screen.
-/
theorem command_without_input {session : Session} {calledAs : String} {arguments : List String}
    {options : Options}
    (parsed : CommandLine.read session.settings calledAs arguments = .ok options)
    (inputless : options.input = none)
    (missing
      : ∀ bytes,
          session.disk.file? (Path.parse session.settings.defaultInput) ≠ .ok (some bytes))
    : let turn := session.command calledAs arguments
      let usable := session.settings.DefaultUsable session.disk ∧ session.ShowsUsage calledAs
      (turn.Complains session.settings calledAs ↔ usable)
      ∧ (¬ usable → Balks session.settings session.machine.screen calledAs turn.result)
      ∧ turn.requests = []
      ∧ turn.session.disk = session.disk := by
  rw [command_of_read parsed]
  exact runOptions_without_input (session.configureLog _).session inputless missing calledAs

/-- In an empty directory there is nothing to minify. -/
theorem command_without_input_empty
    : let settings : Settings := ⟨"ocr-widget.css", "utf-8", .nan⟩
      let session : Session := ⟨settings, ⟨[], []⟩, ⟨[]⟩, Log.initial, .standard⟩
      let turn := session.command "minify-css" []
      CommandLine.read settings "minify-css" [] = .ok (Options.defaults settings)
      ∧ (∀ bytes,
          session.disk.file? (Path.parse session.settings.defaultInput) ≠ .ok (some bytes))
      ∧ turn.Complains settings "minify-css"
      ∧ turn.requests = []
      ∧ turn.session.disk = session.disk := by
  intro settings session turn
  have parsed := CommandLine.read_nil settings "minify-css"
  have absent : session.disk.file? (Path.parse session.settings.defaultInput) = .ok none := by
    decide +kernel
  have missing
      : ∀ bytes,
          session.disk.file? (Path.parse session.settings.defaultInput) ≠ .ok (some bytes) := by
    simp [absent]
  have named
      : Source.output session.settings.defaultInput = .ok (Path.parse "ocr-widget.min.css") := by
    decide +kernel
  have usable : session.settings.DefaultUsable session.disk :=
    ⟨Disk.short_of_file? absent, (Source.output_ok_iff _).mp ⟨_, named⟩⟩
  have shows : session.ShowsUsage "minify-css" := fun _ _ => rfl
  obtain ⟨complains, _, requests, still⟩ := command_without_input parsed rfl missing
  exact ⟨parsed, missing, complains.mpr ⟨usable, shows⟩, requests, still⟩

/-- A default input without a name ends the command in its usage, and one that is too long to
be looked up ends it before.
-/
theorem command_without_input_escapes
    : let session (input : String) : Session :=
        ⟨⟨input, "utf-8", .nan⟩, ⟨[], []⟩, ⟨[]⟩, Log.initial, .standard⟩
      let nameless := session ""
      let long := session (String.ofList (List.replicate 256 'a'))
      (CommandLine.read nameless.settings "minify-css" [] = .ok (Options.defaults nameless.settings)
        ∧ nameless.disk.file? (Path.parse nameless.settings.defaultInput) = .ok none
        ∧ (nameless.command "minify-css" []).result
          = .escaped (.unnamed (.emptyName ⟨.working, []⟩)))
      ∧ CommandLine.read long.settings "minify-css" [] = .ok (Options.defaults long.settings)
      ∧ long.disk.file? (Path.parse long.settings.defaultInput) = .error .nameTooLong
      ∧ (long.command "minify-css" []).result
        = .escaped (.refused .nameTooLong (Path.parse long.settings.defaultInput)) := by
  intro session nameless long
  have parsed := CommandLine.read_nil nameless.settings "minify-css"
  have parsed' := CommandLine.read_nil long.settings "minify-css"
  have refused : long.disk.file? (Path.parse long.settings.defaultInput) = .error .nameTooLong :=
    Disk.file?_long _ (fun slash => by cases List.eq_of_mem_replicate slash)
      (fun nul => by cases List.eq_of_mem_replicate nul) (by decide +kernel)
  refine ⟨⟨parsed, by decide +kernel, ?_⟩, parsed', refused, ?_⟩
  · rw [command_of_read parsed]
    decide +kernel
  · exact command_of_refused parsed' rfl refused

end Session

end CssMinifier
