import CssMinifier.Proofs.Stylesheet.Scan

/-! Stylesheets put together from parts. Behind a mark other than the semicolon a stylesheet
can be cut, if no comment is open there: the minified form is that of the two parts, one
behind the other. So blocks of rules may be minified one by one.
-/

namespace CssMinifier.Stylesheet

open CssMinifier.Text

-----------------------------------------------------------------------------------------
-- Assembling in two parts
-----------------------------------------------------------------------------------------

/-- What stands behind a character depends on the next one only. -/
theorem between_congr {rest other : List Solid} (h : firstChar rest = firstChar other)
    (first : Solid)
    : between first rest = between first other := by
  cases rest with
  | nil =>
      cases other with
      | nil => rfl
      | cons second other => simp [firstChar] at h
  | cons next rest =>
      cases other with
      | nil => simp [firstChar] at h
      | cons second other =>
          have same : next.char = second.char := Option.some.inj h
          rw [between, between, same]

theorem firstChar_append_congr {solids rest other : List Solid}
    (h : firstChar rest = firstChar other)
    : firstChar (solids ++ rest) = firstChar (solids ++ other) := by
  cases solids with
  | nil => exact h
  | cons first solids => rfl

/-- Solid characters are assembled to a mark that is no semicolon and from there anew, by
induction on those before it.
-/
theorem assemble_append_mark {mark last : Solid} (h : mark.char ∈ marks)
    (hne : mark.char ≠ ';') (same : mark.char = last.char) (solids rest : List Solid)
    : assemble (solids ++ mark :: rest) = assemble (solids ++ [last]) ++ assemble rest := by
  induction solids with
  | nil =>
      have kept {rest : List Solid} : ¬ (mark.char = ';' ∧ firstChar rest = some '}') :=
        fun dropped => hne dropped.1
      rw [List.nil_append, List.nil_append, assemble_of_kept kept, between_of_mark h,
        assemble_of_kept (same ▸ kept), between_of_mark (same ▸ h), same]
      rfl
  | cons first solids ih =>
      have head : firstChar (solids ++ mark :: rest) = firstChar (solids ++ [last]) :=
        firstChar_append_congr (congrArg some same)
      rw [List.cons_append, List.cons_append, assemble, assemble, head, between_congr head, ih]
      simp only [List.append_assoc]

-----------------------------------------------------------------------------------------
-- Minified forms of texts that are put together
-----------------------------------------------------------------------------------------

/-- No comment reaches across a solid character that neither opens nor closes one. -/
theorem Closed.dropComments_append_mark {before : List Char} (h : Closed before) {mark : Char}
    (hm : mark ∈ marks) (behind : List Char)
    : dropComments (before ++ mark :: behind) = dropComments before ++ mark :: dropComments behind
      := by
  have star : mark ≠ '*' := fun same => star_not_mem_marks (same ▸ hm)
  have slash : mark ≠ '/' := fun same => slash_not_mem_marks (same ▸ hm)
  rw [h.dropComments_append (by simp [Parted, star]), dropComments_cons (by simp [slash])]

/-- A stylesheet may be cut behind a mark that is no semicolon. -/
theorem Closed.minify_append_mark {before : List Char} (h : Closed before) {mark : Char}
    (hm : mark ∈ marks) (hne : mark ≠ ';') (behind : List Char)
    : minify (before ++ mark :: behind) = minify (before ++ [mark]) ++ minify behind := by
  have solid := not_isFiller_of_mark hm
  have empty : dropComments [] = [] := by rw [dropComments]
  rw [minify_eq, minify_eq, minify_eq, h.dropComments_append_mark hm,
    h.dropComments_append_mark hm, empty, Layout.assembled, Layout.assembled, Layout.assembled,
    Layout.solids_append_solid solid, Layout.solids_append_solid solid]
  apply assemble_append_mark
  · exact hm
  · exact hne
  · rfl

/-- Holds for a text that ends in a closing brace and leaves no comment open before it. -/
def IsBlock (text : List Char) : Prop :=
  ∃ inside, Closed inside ∧ text = inside ++ ['\x7d']

/-- Blocks are minified one by one, by induction on them. -/
theorem minify_flatten {blocks : List (List Char)} (h : ∀ block ∈ blocks, IsBlock block)
    : minify blocks.flatten = blocks.flatMap minify := by
  induction blocks with
  | nil => cbv
  | cons block rest ih =>
      obtain ⟨inside, closed, rfl⟩ := h block (by simp)
      have later := ih fun other member => h other (by simp [member])
      rw [List.flatten_cons, List.append_assoc, List.singleton_append,
        closed.minify_append_mark brace_mem_marks (by decide), later, List.flatMap_cons]

/-- A stylesheet without open comments before a mark other than the semicolon may be cut behind
that mark, and blocks that are put together may be minified one by one.
-/
theorem minify_compositional
    : (∀ (before behind : List Char) (mark : Char),
        mark ∈ marks
        → mark ≠ ';'
        → Closed before
        → minify (before ++ mark :: behind) = minify (before ++ [mark]) ++ minify behind)
      ∧ ∀ blocks : List (List Char),
          (∀ block ∈ blocks, IsBlock block) → minify blocks.flatten = blocks.flatMap minify := by
  constructor
  · intro before behind mark hm hne closed
    exact closed.minify_append_mark hm hne behind
  · intro blocks h
    exact minify_flatten h

/-- Before the cut stands a comment that holds a brace, and of two blocks the second is only a
brace.
-/
theorem minify_compositional_comment
    : minify ("a/*\x7d*/;".toList ++ '\x7d' :: " ;b".toList)
        = minify ("a/*\x7d*/;".toList ++ ['\x7d']) ++ minify " ;b".toList
      ∧ minify [['a', '\x7d'], ['\x7d']].flatten
        = [['a', '\x7d'], ['\x7d']].flatMap minify := by
  have opens : ¬ ['/', '*'] <:+: ['a'] := by decide
  have closes : ¬ ['*', '/'] <:+: ['\x7d'] := by decide
  have behind : Closed ([Piece.of opens closes].flatMap Piece.text ++ [';']) :=
    closed_pieces _ (by decide)
  have named : IsBlock ['a', '\x7d'] := ⟨['a'], closed_pieces [] opens, rfl⟩
  have bare : IsBlock ['\x7d'] := ⟨[], closed_pieces [] (by decide), rfl⟩
  exact ⟨minify_compositional.1 _ _ _ (by decide) (by decide) behind,
    minify_compositional.2 _ (by simp [named, bare])⟩

end CssMinifier.Stylesheet
