import CssMinifier.Proofs.Options.Collecting

/-! The quiet flag in front of a command line. It raises the flag and changes nothing else:
the same options are found, or the same stop.
-/

namespace CssMinifier.Options

/-- The options with the quiet flag raised. -/
def quieted (options : Options) : Options :=
  { options with quiet := true }

theorem raiseAll_quieted (options : Options) (flags : List Switch)
    : raiseAll options.quieted flags = (raiseAll options flags).map quieted := by
  induction flags generalizing options with
  | nil => rfl
  | cons flag rest ih =>
      cases flag with
      | help => rfl
      | quiet => exact ih { options with quiet := true }
      | encoding | timeout => exact ih options

theorem setValue_quieted (options : Options) (switch : Switch) (value : String)
    : setValue options.quieted switch value = (setValue options switch value).map quieted := by
  cases switch with
  | help | quiet | encoding => rfl
  | timeout =>
      simp only [setValue]
      split
      · rfl
      · split <;> rfl

theorem takeSwitch_quieted (options : Options) (switch : Switch) (isShort : Bool)
    (attached : Option (List Char)) (next? : Option String)
    : takeSwitch options.quieted switch isShort attached next?
      = (takeSwitch options switch isShort attached next?).map (Prod.map quieted id) := by
  simp only [takeSwitch, setValue_quieted, raiseAll_quieted]
  split
  · split
    · cases setValue options switch _ <;> rfl
    · cases setValue options switch _ <;> rfl
    · rfl
  · split
    · rfl
    · cases raiseAll options _ <;> rfl

theorem settle_quieted (filled : Bool) (options : Options) (run : List (String × Kind))
    : settle filled options.quieted run = (settle filled options run).map quieted id := by
  rw [settle, settle]
  split <;> rfl

/-- Nothing that is collected depends on the flag, along the collecting. -/
theorem collect_quieted (filled : Bool) (options : Options) (arguments : List (String × Kind))
    : collect filled options.quieted arguments
      = (collect filled options arguments).map (Prod.map quieted id) := by
  induction filled, options, arguments using collect_induction with
  | nil filled options =>
      simp [Except.map]
  | switch filled options text switch isShort attached rest ih =>
      rw [collect_switch, collect_switch, takeSwitch_quieted]
      cases taken : takeSwitch options switch isShort attached (nextPlain? rest) with
      | error stop => rfl
      | ok found => exact ih found.1 found.2 taken
  | unknown filled options text rest ih =>
      rw [collect_unknown, collect_unknown, ih]
      cases collect filled options rest <;> rfl
  | run filled options argument rest plain ih =>
      rw [collect_run _ _ plain, collect_run _ _ plain, settle_quieted]
      simp only [Prod.map, ih]
      cases collect true _ (rest.dropWhile isPlain) <;> rfl

theorem classifyAll_quiet (arguments : List String)
    : classifyAll ("-q" :: arguments)
      = (classifyAll arguments).map (("-q", .switch .quiet true none) :: ·) := by
  have known : classify "-q" = .ok (.switch .quiet true none) := rfl
  rw [classifyAll, known]

/-- A command line with the quiet flag in front asks for the same, quietly. -/
theorem parse_quiet (settings : Settings) (arguments : List String)
    : parse settings ("-q" :: arguments) = (parse settings arguments).map quieted := by
  rw [parse, classifyAll_quiet, parse]
  cases classifyAll arguments with
  | error ambiguity => rfl
  | ok classified =>
      have first
          : collect false (defaults settings) (("-q", .switch .quiet true none) :: classified)
            = collect false (defaults settings).quieted classified := by
        rw [collect_switch]
        rfl
      simp only [Except.map, first, collect_quieted]
      cases collect false (defaults settings) classified with
      | error stop => rfl
      | ok found =>
          obtain ⟨options, left⟩ := found
          cases left <;> rfl

end CssMinifier.Options
