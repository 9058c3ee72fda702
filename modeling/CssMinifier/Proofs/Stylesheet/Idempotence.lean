import CssMinifier.Proofs.Stylesheet.Compact
import Mathlib.Logic.Function.Iterate

/-! Minifying twice and more often. A second pass finds work exactly where the removal of
comments leaves a complete comment, or where two semicolons in a row stand before a closing
brace. Each further pass that finds work shortens the text, so the passes come to an end.
-/

namespace CssMinifier.Stylesheet

open CssMinifier.Text

-----------------------------------------------------------------------------------------
-- The second pass
-----------------------------------------------------------------------------------------

/-- The first kept character is a brace exactly if a brace, or a dropped semicolon and a
brace, come first.
-/
theorem head?_assemble_eq_brace {solids : List Solid}
    : (assemble solids).head? = some '}'
      ↔ firstChar solids = some '}' ∨ [';', '}'] <+: solids.map Solid.char := by
  rw [head?_assemble, firstChar_elide]
  by_cases h : [';', '}'] <+: solids.map Solid.char <;> simp [h]

/-- A semicolon before a brace is left where there were two, by induction from the right.
-/
theorem pair_infix_assemble_last (solids : List Solid)
    : [';', '}'] <:+: assemble solids ↔ [';', ';', '}'] <:+: solids.map Solid.char := by
  induction solids with
  | nil => simp [assemble]
  | cons first rest ih =>
      have pair {next : Char}
          : [next] <+: rest.map Solid.char ↔ firstChar rest = some next := by
        cases rest <;> simp [List.cons_prefix_cons, firstChar, eq_comm]
      rw [List.map_cons, List.infix_cons_iff, List.cons_prefix_cons]
      by_cases h : first.char = ';' ∧ firstChar rest = some '}'
      · -- The dropped semicolon stands right before a brace, so it starts no triple.
        have single : ¬ [';', '}'] <+: rest.map Solid.char := by
          intro two
          have semicolon := pair.mp ((List.prefix_append [';'] ['}']).trans two)
          simp [h.2] at semicolon
        rw [assemble_of_last h, ih]
        simp [single]
      · rw [assemble_of_kept h,
          pair_infix_solid rfl rfl (between_loose first rest), ih,
          head?_assemble_eq_brace]
        refine or_congr_left ?_
        constructor
        · intro pair
          obtain ⟨semicolon, _, head⟩ := pair
          exact ⟨semicolon.symm, head.resolve_left fun brace => h ⟨semicolon, brace⟩⟩
        · intro triple
          obtain ⟨semicolon, two⟩ := triple
          have tight := between_of_mark (semicolon ▸ semicolon_mem_marks) rest
          exact ⟨semicolon.symm, tight, Or.inr two⟩

theorem pair_infix_minify (text : List Char)
    : [';', '}'] <:+: minify text
      ↔ [';', ';', '}'] <:+: (dropComments text).filter (!isFiller ·) := by
  rw [minify_eq, Layout.assembled, pair_infix_assemble_last, Layout.map_char_solids,
    Layout.text_ofText]

/-- A second pass changes nothing exactly if the text without comments holds no complete
comment and no two semicolons in a row before a closing brace, fillers aside.
-/
theorem minify_minify_eq_iff (text : List Char)
    : minify (minify text) = minify text
      ↔ ¬ HasComment (dropComments text)
        ∧ ¬ [';', ';', '}'] <:+: (dropComments text).filter (!isFiller ·) := by
  rw [minify_eq_self, hasComment_minify_iff, pair_infix_minify]
  have compact := compact_minify text
  constructor
  · intro clean
    obtain ⟨noComment, _, noPair⟩ := clean
    exact ⟨noComment, noPair⟩
  · intro clean
    obtain ⟨noComment, noPair⟩ := clean
    exact ⟨noComment, compact, noPair⟩

/-- Two semicolons before a brace and a comment inside an opener both leave work for a
second pass.
-/
theorem minify_minify_ne
    : minify (minify ";;\x7d".toList) ≠ minify ";;\x7d".toList
      ∧ minify (minify "//**/**/".toList) ≠ minify "//**/**/".toList := by
  have semicolons : minify ";;\x7d".toList = ";\x7d".toList := by cbv
  have brace : minify ";\x7d".toList = "\x7d".toList := by cbv
  have opener : minify "//**/**/".toList = "/**/".toList := by cbv
  have empty : minify "/**/".toList = [] := by cbv
  rw [semicolons, brace, opener, empty]
  simp

-----------------------------------------------------------------------------------------
-- Further passes
-----------------------------------------------------------------------------------------

/-- A pass over a compact text keeps it or shortens it: only a comment or a last semicolon is
left to be dropped.
-/
theorem Compact.minify_eq_or_length_lt {text : List Char} (h : Compact text)
    : minify text = text ∨ (minify text).length < text.length := by
  by_cases comment : HasComment text
  · exact Or.inr (length_minify_lt_of_hasComment comment)
  by_cases pair : [';', '}'] <:+: text
  · exact Or.inr (length_minify_lt_of_pair comment pair)
  · exact Or.inl (minify_eq_self.mpr ⟨comment, h, pair⟩)

/-- As many passes as a compact text has characters leave nothing to do, by induction on the
passes.
-/
theorem Compact.iterate_minify_fixed {text : List Char} (h : Compact text) {passes : Nat}
    (enough : text.length ≤ passes)
    : minify (minify^[passes] text) = minify^[passes] text := by
  induction passes generalizing text with
  | zero =>
      rcases h.minify_eq_or_length_lt with fixed | short
      · exact fixed
      · omega
  | succ passes ih =>
      rw [Function.iterate_succ_apply]
      rcases h.minify_eq_or_length_lt with fixed | short
      · rw [fixed, Function.iterate_fixed fixed, fixed]
      · exact ih (compact_minify text) (by omega)

/-- Every pass over a minified text keeps or shortens it, and a fixed text is reached with at
most one pass more than the first text has characters.
-/
theorem minify_converges (text : List Char)
    : (minify (minify text) = minify text
        ∨ (minify (minify text)).length < (minify text).length)
      ∧ ∃ passes ≤ text.length + 1,
          minify (minify^[passes] text) = minify^[passes] text := by
  have compact := compact_minify text
  refine ⟨compact.minify_eq_or_length_lt, text.length + 1, Nat.le_refl _, ?_⟩
  rw [Function.iterate_succ_apply]
  exact compact.iterate_minify_fixed (length_minify_le_length text)

end CssMinifier.Stylesheet
