import CssMinifier.Proofs.Encoding.Codec
import CssMinifier.Proofs.Stylesheet.Respacing

/-! Fillers that collapse early. A stylesheet may be collapsed before its comments are removed
and not only behind it, so a stylesheet in which only the runs of fillers have changed, such
as its line ends, is minified to the same text.
-/

namespace CssMinifier.Stylesheet

open CssMinifier.Encoding
open CssMinifier.Text

-----------------------------------------------------------------------------------------
-- Collapsing character by character
-----------------------------------------------------------------------------------------

theorem head?_collapseFillers_cons_filler {c : Char} (hc : isFiller c = true)
    (text : List Char)
    : (collapseFillers (c :: text)).head? = some ' ' := by
  rw [collapseFillers_cons_filler hc]
  split
  · next space => exact space
  · rfl

/-- Two fillers in a row collapse like any one. -/
theorem collapseFillers_cons_cons {c d e : Char} (hc : isFiller c = true)
    (hd : isFiller d = true) (he : isFiller e = true) (text : List Char)
    : collapseFillers (c :: d :: text) = collapseFillers (e :: text) := by
  rw [collapseFillers_cons_filler hc, if_pos (head?_collapseFillers_cons_filler hd text),
    collapseFillers_cons_filler hd, collapseFillers_cons_filler he]

theorem margin_collapseFillers {text : List Char}
    : (Layout.ofText (collapseFillers text)).margin = [] ↔ (Layout.ofText text).margin = [] := by
  simp only [Layout.margin_eq_nil_iff]
  cases text with
  | nil => rfl
  | cons c rest =>
      cases hc : isFiller c with
      | false => rw [collapseFillers_cons_solid hc, List.head?_cons, List.head?_cons]
      | true =>
          have space : isFiller ' ' = true := rfl
          rw [head?_collapseFillers_cons_filler hc]
          simp [hc, space]

/-- Collapsing the fillers only changes runs of fillers, by induction on the text. -/
theorem sameSpacing_collapseFillers (text : List Char)
    : SameSpacing (collapseFillers text) text := by
  rw [SameSpacing]
  induction text with
  | nil => exact .refl _
  | cons c rest ih =>
      cases hc : isFiller c with
      | false =>
          rw [collapseFillers_cons_solid hc, (Layout.ofText_cons_solid hc _).2,
            (Layout.ofText_cons_solid hc _).2]
          exact .cons rfl (Or.inr (Or.inr margin_collapseFillers)) ih
      | true =>
          rw [collapseFillers_cons_filler hc, (Layout.ofText_cons_filler hc _).2]
          split
          · exact ih
          · rw [(Layout.ofText_cons_filler rfl _).2]
            exact ih

-----------------------------------------------------------------------------------------
-- Minified forms of collapsed texts
-----------------------------------------------------------------------------------------

/-- A stylesheet may be collapsed before it is minified. -/
theorem minify_collapseFillers (text : List Char)
    : minify (collapseFillers text) = minify text :=
  (sameSpacing_collapseFillers text).minify_eq

/-- Uniform line ends are fillers where line ends were, along the lines. -/
theorem collapseFillers_uniformLines (text : List Char)
    : collapseFillers (uniformLines text) = collapseFillers text := by
  have same {c d : Char} (hc : isFiller c = true) (hd : isFiller d = true)
      {text other : List Char} (h : collapseFillers text = collapseFillers other)
      : collapseFillers (c :: text) = collapseFillers (d :: other) := by
    rw [collapseFillers_cons_filler hc, collapseFillers_cons_filler hd, h]
  fun_induction uniformLines text with
  | case1 rest ih =>
      rw [collapseFillers_cons_cons (c := '\r') (e := '\n') rfl rfl rfl]
      exact same rfl rfl ih
  | case2 rest hne ih => exact same rfl rfl ih
  | case3 c rest hne hne' ih =>
      cases hc : isFiller c with
      | true => exact same hc hc ih
      | false => rw [collapseFillers_cons_solid hc, collapseFillers_cons_solid hc, ih]
  | case4 => rfl

/-- A stylesheet is minified to the same text whatever its line ends are. -/
theorem minify_uniformLines (text : List Char)
    : minify (uniformLines text) = minify text := by
  rw [← minify_collapseFillers, collapseFillers_uniformLines, minify_collapseFillers]

end CssMinifier.Stylesheet
