import CssMinifier.Proofs.Stylesheet.Layout
import CssMinifier.Stylesheet.Rule
import Mathlib.Data.List.Basic

/-! Spread layouts: solid characters with at most one space in each gap, and none beside
the characters that stand tight. After the fillers have collapsed a stylesheet is a
spread layout, and each later rule leaves one.
-/

namespace CssMinifier.Stylesheet

open CssMinifier.Text

/-- What a gap leaves: a space, unless the gap is empty or a neighbour stands tight. The
ends of a text are no neighbours.
-/
def spacing (tight : List Char) (left : Option Char) (gap : List Char) (right : Option Char)
    : List Char :=
  if gap = [] ∨ left.any (· ∈ tight) ∨ right.any (· ∈ tight) then [] else [' ']

/-- The first of some solid characters. -/
def firstChar (solids : List Solid) : Option Char :=
  solids.head?.map Solid.char

/-- Solid characters with the spaces that their gaps leave. -/
def spreadSolids (tight : List Char) : List Solid → List Char
  | [] => []
  | solid :: rest =>
      solid.char
        :: (spacing tight (some solid.char) solid.gap (firstChar rest)
          ++ spreadSolids tight rest)

/-- A layout with the spaces that its margin and gaps leave. -/
def Layout.spread (tight : List Char) (layout : Layout) : List Char :=
  spacing tight none layout.margin (firstChar layout.solids)
    ++ spreadSolids tight layout.solids

-----------------------------------------------------------------------------------------
-- Spaces and first characters
-----------------------------------------------------------------------------------------

theorem not_isBlank_of_solid {c : Char} (h : isFiller c = false)
    : isBlank c = false := by
  cases hb : isBlank c with
  | false => rfl
  | true => simp [isFiller_of_isBlank hb] at h

theorem ne_space_of_solid {c : Char} (h : isFiller c = false)
    : c ≠ ' ' := by
  intro space
  rw [space] at h
  cases h

theorem not_isFiller_of_mark {mark : Char} (h : mark ∈ marks)
    : isFiller mark = false := by
  have solid : marks.all (!isFiller ·) = true := rfl
  simpa using List.all_eq_true.mp solid mark h

@[simp]
theorem semicolon_mem_marks : ';' ∈ marks := by
  simp [marks]

@[simp]
theorem brace_mem_marks : '}' ∈ marks := by
  simp [marks]

theorem spacing_eq (tight : List Char) (left : Option Char) (gap : List Char)
    (right : Option Char)
    : spacing tight left gap right = [] ∨ spacing tight left gap right = [' '] := by
  unfold spacing
  split
  · exact Or.inl rfl
  · exact Or.inr rfl

/-- One more tight character takes the space from the gaps beside it. -/
theorem spacing_cons (mark : Char) (tight : List Char) (left : Option Char) (gap : List Char)
    (right : Option Char)
    : spacing (mark :: tight) left gap right
      = if left = some mark ∨ right = some mark then [] else spacing tight left gap right := by
  cases left <;> cases right <;> grind [spacing]

theorem spread_congr {tight other : List Char} (h : ∀ c, c ∈ tight ↔ c ∈ other)
    (layout : Layout)
    : layout.spread tight = layout.spread other := by
  have same (left : Option Char) (gap : List Char) (right : Option Char)
      : spacing tight left gap right = spacing other left gap right := by
    simp only [spacing, h]
  have rest (solids : List Solid) : spreadSolids tight solids = spreadSolids other solids := by
    induction solids with
    | nil => rfl
    | cons first rest ih => simp only [spreadSolids, same, ih]
  simp only [Layout.spread, same, rest]

@[simp]
theorem head?_spreadSolids (tight : List Char) (solids : List Solid)
    : (spreadSolids tight solids).head? = firstChar solids := by
  cases solids <;> rfl

theorem solid_of_firstChar {solids : List Solid} {c : Char} (h : firstChar solids = some c)
    : isFiller c = false := by
  cases solids with
  | nil => simp [firstChar] at h
  | cons first rest =>
      have he : first.char = c := Option.some.inj h
      exact he ▸ first.solid

theorem dropWhile_spreadSolids {p : Char → Bool} (hp : ∀ c, p c = true → isFiller c = true)
    (tight : List Char) (solids : List Solid)
    : (spreadSolids tight solids).dropWhile p = spreadSolids tight solids := by
  cases solids with
  | nil => rfl
  | cons first rest =>
      have : p first.char = false := by
        cases h : p first.char with
        | false => rfl
        | true => exact absurd (hp _ h) (by simp [first.solid])
      simp [spreadSolids, this]

-----------------------------------------------------------------------------------------
-- Collapsing the fillers
-----------------------------------------------------------------------------------------

@[simp]
theorem collapseFillers_cons_solid {c : Char} (hc : isFiller c = false) (text : List Char)
    : collapseFillers (c :: text) = c :: collapseFillers text := by
  simp [collapseFillers, hc]

theorem collapseFillers_cons_filler {c : Char} (hc : isFiller c = true) (text : List Char)
    : collapseFillers (c :: text)
      = if (collapseFillers text).head? = some ' ' then
          collapseFillers text
        else
          ' ' :: collapseFillers text := by
  rw [collapseFillers, List.foldr_cons, if_pos hc]
  rfl

theorem collapseFillers_append {fillers : List Char} (h : fillers.all isFiller = true)
    {text : List Char} (solid : (collapseFillers text).head? ≠ some ' ')
    : collapseFillers (fillers ++ text)
      = (if fillers = [] then [] else [' ']) ++ collapseFillers text := by
  induction fillers with
  | nil => rfl
  | cons c rest ih =>
      simp only [List.all_cons, Bool.and_eq_true] at h
      rw [List.cons_append, collapseFillers_cons_filler h.1, ih h.2]
      by_cases hr : rest = [] <;> simp [hr, solid]

theorem collapseFillers_solids (solids : List Solid)
    : collapseFillers (solids.flatMap Solid.text) = spreadSolids [] solids := by
  induction solids with
  | nil => rfl
  | cons first rest ih =>
      have solid : (collapseFillers (rest.flatMap Solid.text)).head? ≠ some ' ' := by
        rw [ih, head?_spreadSolids]
        exact fun h => ne_space_of_solid (solid_of_firstChar h) rfl
      rw [List.flatMap_cons, Solid.text, List.cons_append,
        collapseFillers_cons_solid first.solid, collapseFillers_append first.loose solid, ih,
        spreadSolids]
      congr 2
      simp [spacing]

/-- Collapsing the fillers spreads a layout with no character tight. -/
theorem collapseFillers_text (layout : Layout)
    : collapseFillers layout.text = layout.spread [] := by
  have solid : (collapseFillers (layout.solids.flatMap Solid.text)).head? ≠ some ' ' := by
    rw [collapseFillers_solids, head?_spreadSolids]
    exact fun h => ne_space_of_solid (solid_of_firstChar h) rfl
  rw [Layout.text, collapseFillers_append layout.loose solid, collapseFillers_solids,
    Layout.spread]
  congr 1
  simp [spacing]

-----------------------------------------------------------------------------------------
-- Tightening around a mark
-----------------------------------------------------------------------------------------

@[simp]
theorem tighten_cons_self (mark : Char) (text : List Char)
    : tighten mark (mark :: text) = mark :: (tighten mark text).dropWhile isBlank := by
  simp [tighten]

theorem tighten_cons_kept {mark c : Char} (hc : isBlank c = false) (hne : c ≠ mark)
    (text : List Char)
    : tighten mark (c :: text) = c :: tighten mark text := by
  simp [tighten, hne, hc]

theorem tighten_cons_blank {mark c : Char} (hm : isBlank mark = false) (hc : isBlank c = true)
    (text : List Char)
    : tighten mark (c :: text)
      = if (tighten mark text).head? = some mark then
          tighten mark text
        else
          c :: tighten mark text := by
  have step
      : tighten mark (c :: text)
        = if c = mark then
            c :: (tighten mark text).dropWhile isBlank
          else if isBlank c ∧ (tighten mark text).head? = some mark then
            tighten mark text
          else
            c :: tighten mark text :=
    rfl
  have hne : c ≠ mark := by
    rintro rfl
    simp [hm] at hc
  simp only [step, hne, if_false, hc, true_and]

/-- A mark to the right takes the space of a gap. -/
theorem tighten_spacing {mark : Char} (hm : isFiller mark = false) {tight gap text : List Char}
    {left right : Option Char} (head : (tighten mark text).head? = right)
    : tighten mark (spacing tight left gap right ++ text)
      = (if right = some mark then [] else spacing tight left gap right)
        ++ tighten mark text := by
  rcases spacing_eq tight left gap right with he | he
  · simp [he]
  · rw [he, List.singleton_append, tighten_cons_blank (not_isBlank_of_solid hm) rfl, head]
    split <;> simp

theorem dropWhile_spacing (tight gap : List Char) (left right : Option Char)
    (other : List Char) (solids : List Solid)
    : (spacing tight left gap right ++ spreadSolids other solids).dropWhile isBlank
      = spreadSolids other solids := by
  have same := dropWhile_spreadSolids (fun _ => isFiller_of_isBlank) other solids
  have blank : isBlank ' ' = true := rfl
  rcases spacing_eq tight left gap right with he | he
  · simpa [he] using same
  · simpa [he, blank] using same

/-- Tightening acts gap by gap, by induction from the right. -/
theorem tighten_spreadSolids {mark : Char} (hm : isFiller mark = false) (tight : List Char)
    (solids : List Solid)
    : tighten mark (spreadSolids tight solids) = spreadSolids (mark :: tight) solids := by
  induction solids with
  | nil => rfl
  | cons first rest ih =>
      have head : (tighten mark (spreadSolids tight rest)).head? = firstChar rest := by
        rw [ih, head?_spreadSolids]
      simp only [spreadSolids, spacing_cons]
      by_cases hc : first.char = mark
      · -- The mark takes blanks up to the next solid character, which is what its gap
        -- has left.
        rw [hc, tighten_cons_self, tighten_spacing hm head, ih]
        congr 1
        split
        · simpa using dropWhile_spreadSolids (fun _ => isFiller_of_isBlank) (mark :: tight) rest
        · simpa using dropWhile_spacing tight first.gap _ _ (mark :: tight) rest
      · rw [tighten_cons_kept (not_isBlank_of_solid first.solid) hc, tighten_spacing hm head, ih]
        simp [hc]

/-- Tightening around a mark makes it one of the tight characters. -/
theorem tighten_spread {mark : Char} (hm : isFiller mark = false) (tight : List Char)
    (layout : Layout)
    : tighten mark (layout.spread tight) = layout.spread (mark :: tight) := by
  have head
      : (tighten mark (spreadSolids tight layout.solids)).head? = firstChar layout.solids := by
    rw [tighten_spreadSolids hm, head?_spreadSolids]
  rw [Layout.spread, tighten_spacing hm head, tighten_spreadSolids hm, Layout.spread,
    spacing_cons]
  simp

/-- Tightening around several marks, by induction on them. -/
theorem applyAll_tighten {chosen : List Char} (h : ∀ mark ∈ chosen, isFiller mark = false)
    (tight : List Char) (layout : Layout)
    : applyAll (chosen.map .tighten) (layout.spread tight)
      = layout.spread (chosen.reverse ++ tight) := by
  induction chosen generalizing tight with
  | nil => rfl
  | cons mark rest ih =>
      have step
          : applyAll ((mark :: rest).map .tighten) (layout.spread tight)
            = applyAll (rest.map .tighten) (tighten mark (layout.spread tight)) := rfl
      rw [step, tighten_spread (h mark (by simp)), ih (fun other ho => h other (by simp [ho]))]
      simp

end CssMinifier.Stylesheet
