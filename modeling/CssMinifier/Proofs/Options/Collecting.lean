import CssMinifier.Options

/-! The collecting of options, argument by argument: a switch with its value, an argument that
is not known, or a run of plain ones. Everything about whole command lines is proved along
these three.
-/

namespace CssMinifier

namespace Options

-----------------------------------------------------------------------------------------
-- The equations of collecting
-----------------------------------------------------------------------------------------

/-- The options after a run of plain arguments, and those of them that are left over. -/
def settle (filled : Bool) (options : Options) (run : List (String × Kind))
    : Options × List String :=
  if filled then (options, run.map (·.1)) else fillPlaces options run

@[simp]
theorem collect_nil (filled : Bool) (options : Options)
    : collect filled options [] = .ok (options, []) := by
  rw [collect]

theorem collect_switch (filled : Bool) (options : Options) (text : String) (switch : Switch)
    (isShort : Bool) (attached : Option (List Char)) (rest : List (String × Kind))
    : collect filled options ((text, .switch switch isShort attached) :: rest)
      = match takeSwitch options switch isShort attached (nextPlain? rest) with
        | .error stop => .error stop
        | .ok (next, used) => collect filled next (rest.drop used) := by
  cases taken : takeSwitch options switch isShort attached (nextPlain? rest) with
  | error stop => simp only [collect, taken]
  | ok found => simp only [collect, taken]

theorem collect_unknown (filled : Bool) (options : Options) (text : String)
    (rest : List (String × Kind))
    : collect filled options ((text, .unknown) :: rest)
      = (collect filled options rest).map (Prod.map id (text :: ·)) := by
  rw [collect]
  rfl

theorem collect_run (filled : Bool) (options : Options) {argument : String × Kind}
    (plain : isPlain argument = true) (rest : List (String × Kind))
    : collect filled options (argument :: rest)
      = let (next, left) := settle filled options (argument :: rest.takeWhile isPlain)
        (collect true next (rest.dropWhile isPlain)).map (Prod.map id (left ++ ·)) := by
  obtain ⟨text, kind⟩ := argument
  cases kind with
  | switch | unknown => cases plain
  | plain | separator =>
      rw [collect]
      · rfl
      · simp
      · simp

/-- Induction along the collecting of a list of arguments, by its length: a switch goes on
behind its value and a run of plain arguments behind its end.
-/
theorem collect_induction {motive : Bool → Options → List (String × Kind) → Prop}
    (nil : ∀ filled options, motive filled options [])
    (switch
      : ∀ filled options text switch isShort attached rest,
          (∀ next used,
            takeSwitch options switch isShort attached (nextPlain? rest) = .ok (next, used)
            → motive filled next (rest.drop used))
          → motive filled options ((text, .switch switch isShort attached) :: rest))
    (unknown
      : ∀ filled options text rest,
          motive filled options rest → motive filled options ((text, .unknown) :: rest))
    (run
      : ∀ filled options argument rest,
          isPlain argument = true
          → motive true (settle filled options (argument :: rest.takeWhile isPlain)).1
              (rest.dropWhile isPlain)
          → motive filled options (argument :: rest))
    (filled : Bool) (options : Options) (arguments : List (String × Kind))
    : motive filled options arguments := by
  induction size : arguments.length using Nat.strongRecOn
    generalizing filled options arguments with
  | ind n ih =>
      subst size
      cases arguments with
      | nil => exact nil filled options
      | cons argument rest =>
          obtain ⟨text, kind⟩ := argument
          cases kind with
          | switch =>
              refine switch _ _ _ _ _ _ _ fun next used _ => ih _ ?_ _ _ _ rfl
              rw [List.length_drop, List.length_cons]
              omega
          | unknown => exact unknown _ _ _ _ (ih _ (Nat.lt_succ_self _) _ _ _ rfl)
          | plain | separator =>
              have shorter := (List.dropWhile_suffix (l := rest) isPlain).length_le
              exact run _ _ _ _ rfl (ih _ (Nat.lt_succ_of_le shorter) _ _ _ rfl)

-----------------------------------------------------------------------------------------
-- What a switch does
-----------------------------------------------------------------------------------------

/-- A switch with a value takes the text attached to it, whatever is behind it. -/
theorem takeSwitch_attached {switch : Switch} (valued : switch.takesValue = true)
    (options : Options) (isShort : Bool) (text : String) (next? : Option String)
    : takeSwitch options switch isShort (some text.toList) next?
      = (setValue options switch text).map (·, 0) := by
  simp only [takeSwitch, if_pos valued, String.ofList_toList]

/-- With no text attached it takes the next argument. -/
theorem takeSwitch_behind {switch : Switch} (valued : switch.takesValue = true)
    (options : Options) (isShort : Bool) (text : String)
    : takeSwitch options switch isShort none (some text)
      = (setValue options switch text).map (·, 1) := by
  simp only [takeSwitch, if_pos valued]

end Options

end CssMinifier
