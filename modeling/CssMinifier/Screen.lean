import CssMinifier.Failure

/-! Printing. What is printed line by line is made line by line as well, so a line that cannot
be made, or that cannot be shown, leaves the lines before it printed.
-/

namespace CssMinifier

/-- Holds for lines of seven-bit characters. -/
def Plain (line : String) : Prop :=
  ∀ c ∈ line.toList, c.toNat < 128

instance (line : String) : Decidable (Plain line) :=
  List.decidableBAll (fun c : Char => c.toNat < 128) line.toList

/-- What the standard output can show: the message with which it refuses a line, if it does.
Lines of seven-bit characters are always shown, and so is everything on the error output, which
escapes what it cannot show.
-/
structure Screen where
  refusal? : String → Option String
  shows_plain : ∀ line, Plain line → refusal? line = none

namespace Screen

/-- The screen that shows everything. -/
def whole : Screen where
  refusal? _ := none
  shows_plain _ _ := rfl

/-- What is shown of a list of lines, and the failure of the first line that is not. -/
def print (screen : Screen) : List (Except Failure String) → String × Option Failure
  | [] => ("", none)
  | .error failure :: _ => ("", some failure)
  | .ok line :: rest =>
      match screen.refusal? line with
      | some message => ("", some (.breakdown (.screen message)))
      | none =>
          let (shown, failure) := screen.print rest
          (line ++ shown, failure)

variable {screen : Screen}

@[simp]
theorem print_cons_shown {line : String} (shown : screen.refusal? line = none)
    (rest : List (Except Failure String))
    : screen.print (.ok line :: rest)
      = (line ++ (screen.print rest).1, (screen.print rest).2) := by
  rw [print, shown]

@[simp]
theorem print_cons_refused {line message : String}
    (refused : screen.refusal? line = some message) (rest : List (Except Failure String))
    : screen.print (.ok line :: rest) = ("", some (.breakdown (.screen message))) := by
  rw [print, refused]

/-- Lines that are all shown stand in front of what is shown of the others. -/
theorem print_map_append {lines : List String}
    (shown : ∀ line ∈ lines, screen.refusal? line = none)
    (rest : List (Except Failure String))
    : screen.print (lines.map .ok ++ rest)
      = (String.join lines ++ (screen.print rest).1, (screen.print rest).2) := by
  induction lines with
  | nil => simp
  | cons line more ih =>
      have own := shown line List.mem_cons_self
      have others := ih fun other member => shown other (List.mem_cons_of_mem line member)
      rw [List.map_cons, List.cons_append, print_cons_shown own, others, String.join_cons,
        String.append_assoc]

/-- All is printed exactly if every line can be made and is shown, by induction on the lines. -/
theorem print_complete_iff {lines : List (Except Failure String)}
    : (screen.print lines).2 = none
      ↔ ∀ entry ∈ lines, ∃ line, entry = .ok line ∧ screen.refusal? line = none := by
  induction lines with
  | nil => simp [print]
  | cons entry rest ih =>
      cases entry with
      | error failure => simp [print]
      | ok line =>
          cases shown : screen.refusal? line with
          | none => simp [shown, ih]
          | some message => simp [shown]

/-- What stops the printing is a line that cannot be made, or one that is refused. -/
theorem print_stopped {lines : List (Except Failure String)} {failure : Failure}
    (h : (screen.print lines).2 = some failure)
    : .error failure ∈ lines
      ∨ ∃ line message,
          .ok line ∈ lines
          ∧ screen.refusal? line = some message
          ∧ failure = .breakdown (.screen message) := by
  induction lines with
  | nil => cases h
  | cons entry rest ih =>
      cases entry with
      | error cause =>
          obtain rfl : cause = failure := by simpa [print] using h
          exact Or.inl List.mem_cons_self
      | ok line =>
          cases shown : screen.refusal? line with
          | some message =>
              rw [print_cons_refused shown] at h
              exact Or.inr ⟨line, message, List.mem_cons_self, shown, (Option.some.inj h).symm⟩
          | none =>
              rw [print_cons_shown shown] at h
              rcases ih h with unmade | ⟨other, message, member, refused, same⟩
              · exact Or.inl (List.mem_cons_of_mem _ unmade)
              · exact Or.inr ⟨other, message, List.mem_cons_of_mem _ member, refused, same⟩

/-- A screen that shows all lines shows what every other such screen shows. -/
theorem print_eq_whole {lines : List (Except Failure String)}
    (h : (screen.print lines).2 = none)
    : screen.print lines = whole.print lines := by
  induction lines with
  | nil => rfl
  | cons entry rest ih =>
      cases entry with
      | error failure => cases h
      | ok line =>
          cases shown : screen.refusal? line with
          | some message =>
              rw [print_cons_refused shown] at h
              cases h
          | none =>
              rw [print_cons_shown shown] at h ⊢
              rw [print_cons_shown rfl, ih h]

end Screen

end CssMinifier
