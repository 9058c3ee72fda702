import CssMinifier.Text.Class

/-! Layouts: the solid characters of a text, in order, with the fillers between them.
Every text has exactly one layout.
-/

namespace CssMinifier.Stylesheet

open CssMinifier.Text

theorem loose_nil : ([] : List Char).all isFiller = true :=
  rfl

theorem filter_loose {fillers : List Char} (h : fillers.all isFiller = true)
    : fillers.filter (!isFiller ·) = [] := by
  simpa [List.filter_eq_nil_iff] using h

/-- A solid character, one that is no filler, with the fillers right behind it. -/
@[ext]
structure Solid where
  char : Char
  gap : List Char
  solid : isFiller char = false
  loose : gap.all isFiller = true
deriving DecidableEq

/-- The text of a solid character and its gap. -/
def Solid.text (solid : Solid) : List Char :=
  solid.char :: solid.gap

/-- A text as the fillers at its start and its solid characters. -/
@[ext]
structure Layout where
  margin : List Char
  solids : List Solid
  loose : margin.all isFiller = true
deriving DecidableEq

namespace Layout

/-- The text that is laid out. -/
def text (layout : Layout) : List Char :=
  layout.margin ++ layout.solids.flatMap Solid.text

/-- The layout of a text. -/
def ofText : List Char → Layout
  | [] => ⟨[], [], loose_nil⟩
  | c :: rest =>
      let behind := ofText rest
      if h : isFiller c = true then
        ⟨c :: behind.margin, behind.solids, by simp [h, behind.loose]⟩
      else
        let first := ⟨c, behind.margin, Bool.eq_false_iff.mpr h, behind.loose⟩
        ⟨[], first :: behind.solids, loose_nil⟩

/-- Nothing is lost when a text is laid out, by induction on the text. -/
@[simp]
theorem text_ofText (text : List Char)
    : (ofText text).text = text := by
  induction text with
  | nil => rfl
  | cons c rest ih =>
      by_cases h : isFiller c = true
      · simpa [ofText, h, Layout.text] using ih
      · simpa [ofText, h, Layout.text, Solid.text] using ih

theorem ofText_append {fillers : List Char} (h : fillers.all isFiller = true)
    (text : List Char)
    : (ofText (fillers ++ text)).margin = fillers ++ (ofText text).margin
      ∧ (ofText (fillers ++ text)).solids = (ofText text).solids := by
  induction fillers with
  | nil => exact ⟨rfl, rfl⟩
  | cons c rest ih =>
      simp only [List.all_cons, Bool.and_eq_true] at h
      obtain ⟨hm, hs⟩ := ih h.2
      simp [ofText, h.1, hm, hs]

/-- A text that starts solid has no margin, by induction on its solid characters. -/
theorem ofText_solids (solids : List Solid)
    : ofText (solids.flatMap Solid.text) = ⟨[], solids, loose_nil⟩ := by
  induction solids with
  | nil => rfl
  | cons first rest ih =>
      obtain ⟨hm, hs⟩ := ofText_append first.loose (rest.flatMap Solid.text)
      simp only [ih, List.append_nil] at hm hs
      simp [Solid.text, ofText, first.solid, hm, hs]

/-- A layout is the layout of its text. -/
@[simp]
theorem ofText_text (layout : Layout)
    : ofText layout.text = layout := by
  obtain ⟨hm, hs⟩ := ofText_append layout.loose (layout.solids.flatMap Solid.text)
  simp only [ofText_solids, List.append_nil] at hm hs
  exact Layout.ext hm hs

@[simp]
theorem map_char_solids (layout : Layout)
    : layout.solids.map Solid.char = layout.text.filter (!isFiller ·) := by
  have kept (solids : List Solid)
      : (solids.flatMap Solid.text).filter (!isFiller ·) = solids.map Solid.char := by
    induction solids with
    | nil => rfl
    | cons first rest ih =>
        simp [Solid.text, first.solid, filter_loose first.loose, ih]
  rw [Layout.text, List.filter_append, filter_loose layout.loose, kept, List.nil_append]

theorem ofText_cons_filler {c : Char} (h : isFiller c = true) (text : List Char)
    : (ofText (c :: text)).margin = c :: (ofText text).margin
      ∧ (ofText (c :: text)).solids = (ofText text).solids := by
  simp [ofText, h]

theorem ofText_cons_solid {c : Char} (h : isFiller c = false) (text : List Char)
    : (ofText (c :: text)).margin = []
      ∧ (ofText (c :: text)).solids
        = ⟨c, (ofText text).margin, h, (ofText text).loose⟩ :: (ofText text).solids := by
  simp [ofText, h]

@[simp]
theorem margin_eq_nil_iff {text : List Char}
    : (ofText text).margin = [] ↔ ∀ c ∈ text.head?, isFiller c = false := by
  cases text with
  | nil => simp [ofText]
  | cons c rest =>
      cases hc : isFiller c with
      | true => simp [(ofText_cons_filler hc rest).1, hc]
      | false => simp [(ofText_cons_solid hc rest).1, hc]

/-- A solid character parts the layout of a text into those of what is before and behind it.
-/
theorem solids_append_solid {c : Char} (hc : isFiller c = false)
    (before behind : List Char)
    : (ofText (before ++ c :: behind)).solids
      = (ofText before).solids
        ++ ⟨c, (ofText behind).margin, hc, (ofText behind).loose⟩ :: (ofText behind).solids := by
  let whole : Layout :=
    { margin := (ofText before).margin
      solids := (ofText before).solids
        ++ ⟨c, (ofText behind).margin, hc, (ofText behind).loose⟩ :: (ofText behind).solids
      loose := (ofText before).loose }
  have left := text_ofText before
  have right := text_ofText behind
  simp only [Layout.text] at left right
  have same : whole.text = before ++ c :: behind := by
    rw [← right, ← left]
    simp [whole, Layout.text, Solid.text]
  rw [← same, ofText_text]

end Layout

end CssMinifier.Stylesheet
