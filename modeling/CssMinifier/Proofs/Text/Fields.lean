import CssMinifier.Text.Fields

/-! Texts cut at a character. Cutting undoes joining, and a character put behind a text is found
there unless the text holds it already.
-/

namespace CssMinifier.Text

-----------------------------------------------------------------------------------------
-- Fields and joined fields
-----------------------------------------------------------------------------------------

/-- No field holds the separator, along the cutting. -/
theorem not_mem_of_mem_fields {separator : Char} {text piece : List Char}
    (h : piece ∈ fields separator text)
    : separator ∉ piece := by
  fun_induction fields separator text generalizing piece with
  | case1 => simp_all
  | case2 rest ih =>
      rcases List.mem_cons.mp h with rfl | later
      · simp
      · exact ih later
  | case3 c rest hne none ih => exact absurd none (fields_ne_nil separator rest)
  | case4 c rest hne first more found ih =>
      rw [found] at ih
      rcases List.mem_cons.mp h with rfl | later
      · have tail := ih List.mem_cons_self
        simp [tail, Ne.symm hne]
      · exact ih (List.mem_cons_of_mem first later)

theorem fields_append {separator : Char} {piece : List Char} (h : separator ∉ piece)
    (rest : List Char)
    : fields separator (piece ++ separator :: rest) = piece :: fields separator rest := by
  induction piece with
  | nil => simp [fields]
  | cons c more ih =>
      simp only [List.mem_cons, not_or] at h
      rw [List.cons_append, fields, if_neg (Ne.symm h.1), ih h.2]

theorem fields_eq_singleton {separator : Char} {piece : List Char} (h : separator ∉ piece)
    : fields separator piece = [piece] := by
  induction piece with
  | nil => rfl
  | cons c more ih =>
      simp only [List.mem_cons, not_or] at h
      rw [fields, if_neg (Ne.symm h.1), ih h.2]

/-- Pieces without the separator are the fields of their joined text, by induction on them.
-/
theorem fields_joined {separator : Char} {pieces : List (List Char)} (filled : pieces ≠ [])
    (h : ∀ piece ∈ pieces, separator ∉ piece)
    : fields separator (joined separator pieces) = pieces := by
  induction pieces with
  | nil => exact absurd rfl filled
  | cons piece more ih =>
      have own : separator ∉ piece := h piece (by simp)
      cases more with
      | nil => exact fields_eq_singleton own
      | cons next others =>
          have rest := ih (by simp) fun other member => h other (by simp [member])
          rw [joined, fields_append own, rest]

-----------------------------------------------------------------------------------------
-- What stands before and behind a character
-----------------------------------------------------------------------------------------

/-- A run that ends at the latest before a character does not see what is behind it. -/
theorem takeWhile_append_stop {p : Char → Bool} {c : Char} (stop : p c = false)
    (text rest : List Char)
    : (text ++ c :: rest).takeWhile p = text.takeWhile p := by
  induction text with
  | nil => simp [stop]
  | cons d more ih => simp only [List.cons_append, List.takeWhile_cons, ih]

theorem dropWhile_append_stop {p : Char → Bool} {c : Char} (stop : p c = false)
    (text rest : List Char)
    : (text ++ c :: rest).dropWhile p = text.dropWhile p ++ c :: rest := by
  induction text with
  | nil => simp [stop]
  | cons d more ih =>
      simp only [List.cons_append, List.dropWhile_cons, ih]
      split <;> rfl

@[simp]
theorem before_append_stop (separator : Char) (text rest : List Char)
    : before separator (text ++ separator :: rest) = before separator text :=
  takeWhile_append_stop (by simp) text rest

theorem ne_of_not_mem {separator : Char} {text : List Char} (h : separator ∉ text)
    : ∀ c ∈ text, decide (c ≠ separator) = true := by
  intro c member
  rw [decide_eq_true_eq]
  intro same
  exact h (same ▸ member)

theorem before_append {separator : Char} {text : List Char} (h : separator ∉ text)
    (rest : List Char)
    : before separator (text ++ rest) = text ++ before separator rest :=
  List.takeWhile_append_of_pos (ne_of_not_mem h)

@[simp]
theorem before_eq_self {separator : Char} {text : List Char} (h : separator ∉ text)
    : before separator text = text := by
  simpa [before] using before_append h []

@[simp]
theorem behind_append_stop {separator : Char} {text : List Char} (h : separator ∉ text)
    (rest : List Char)
    : behind separator (text ++ separator :: rest) = rest := by
  rw [behind, List.dropWhile_append_of_pos (ne_of_not_mem h)]
  simp

end CssMinifier.Text
