import CssMinifier.Proofs.Number.Numeral
import CssMinifier.Proofs.Number.Quotient
import CssMinifier.Report

/-! Printed reports. The lines of a report of sizes within reach can all be made, since none of
their quotients is out of range, and every screen shows them but for the last one, which names
the output.
-/

namespace CssMinifier

open CssMinifier.Number CssMinifier.Number.Binary64

-----------------------------------------------------------------------------------------
-- Sizes within reach
-----------------------------------------------------------------------------------------

namespace Report

variable {report : Report}

/-- Printing such a report ends with its last line, or right before it. -/
theorem print_lines {sizes : List String}
    (whole : report.lines = sizes.map .ok ++ [.ok report.created])
    (plain : ∀ line ∈ sizes, Plain line) (screen : Screen)
    : screen.print report.lines
      = match screen.refusal? report.created with
        | none => (String.join sizes ++ report.created, none)
        | some message => (String.join sizes, some (.breakdown (.screen message))) := by
  have shown : ∀ line ∈ sizes, screen.refusal? line = none :=
    fun line member => screen.shows_plain line (plain line member)
  rw [whole, Screen.print_map_append shown]
  cases last : screen.refusal? report.created with
  | none =>
      rw [Screen.print_cons_shown last, Screen.print]
      simp only [String.append_empty]
  | some message =>
      rw [Screen.print_cons_refused last]
      simp only [String.append_empty]

theorem text?_eq {sizes : List String}
    (whole : report.lines = sizes.map .ok ++ [.ok report.created])
    (plain : ∀ line ∈ sizes, Plain line)
    : report.text? = some (String.join sizes ++ report.created) := by
  rw [text?, print_lines whole plain]
  rfl

end Report

end CssMinifier
