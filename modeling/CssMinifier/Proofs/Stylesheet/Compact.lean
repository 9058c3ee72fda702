import CssMinifier.Proofs.Stylesheet.Comment
import Mathlib.Data.List.Chain

/-! Compact texts, which have no spacing to lose. Every minified text is compact, and the
texts that minify to themselves are the compact ones without a complete comment or a last
semicolon.
-/

namespace CssMinifier.Stylesheet

open CssMinifier.Text

/-- Two characters that may stand side by side: a space stands beside no space and no
mark.
-/
structure Fits (left right : Char) : Prop where
  behindSpace : left = ' ' → right ≠ ' ' ∧ right ∉ marks
  beforeSpace : right = ' ' → left ∉ marks

/-- A text whose only fillers are single spaces between characters that are no marks. -/
structure Compact (text : List Char) : Prop where
  fillers : ∀ c ∈ text, isFiller c = true → c = ' '
  neighbours : text.IsChain Fits
  first : text.head? ≠ some ' '
  last : text.getLast? ≠ some ' '

theorem fits_of_solid {left right : Char} (hl : isFiller left = false)
    (hr : isFiller right = false)
    : Fits left right :=
  ⟨fun he => absurd he (ne_space_of_solid hl), fun he => absurd he (ne_space_of_solid hr)⟩

-----------------------------------------------------------------------------------------
-- Assembled texts are compact
-----------------------------------------------------------------------------------------

theorem solid_of_head?_assemble {solids : List Solid} {c : Char}
    (h : (assemble solids).head? = some c)
    : isFiller c = false := by
  rw [head?_assemble] at h
  exact solid_of_firstChar h

/-- Neighbours in an assembled text fit, by induction from the right. -/
theorem neighbours_assemble (solids : List Solid)
    : (assemble solids).IsChain Fits := by
  induction solids with
  | nil => exact List.isChain_nil
  | cons first rest ih =>
      by_cases h : first.char = ';' ∧ firstChar rest = some '}'
      · rwa [assemble_of_last h]
      · rw [assemble_of_kept h]
        rcases between_eq first rest with he | ⟨he, hf, next, head, hn⟩
        · rw [he, List.nil_append, List.isChain_cons]
          exact ⟨fun c hc => fits_of_solid first.solid (solid_of_head?_assemble hc), ih⟩
        · have behind : Fits first.char ' ' :=
            ⟨fun space => absurd space (ne_space_of_solid first.solid), fun _ => hf⟩
          rw [he, List.singleton_append, List.isChain_cons, List.isChain_cons]
          refine ⟨fun c hc => Option.some.inj hc ▸ behind, fun c hc => ?_, ih⟩
          have same : c = next := by
            rw [(head?_assemble_eq_iff hn rest).mpr head] at hc
            exact (Option.some.inj hc).symm
          have solid := solid_of_firstChar head
          exact same ▸ ⟨fun _ => ⟨ne_space_of_solid solid, hn⟩,
            fun space => absurd space (ne_space_of_solid solid)⟩

theorem compact_assemble (solids : List Solid)
    : Compact (assemble solids) where
  fillers c hc filler := by
    rcases mem_assemble hc with space | ⟨solid, _, same⟩
    · exact space
    · rw [← same, solid.solid] at filler
      cases filler
  neighbours := neighbours_assemble solids
  first he := ne_space_of_solid (solid_of_head?_assemble he) rfl
  last he := by
    rw [← spreadSolids_marks] at he
    exact ne_space_of_solid (solid_of_getLast? he) rfl

theorem compact_minify (text : List Char)
    : Compact (minify text) :=
  minify_eq text ▸ compact_assemble _

-----------------------------------------------------------------------------------------
-- Compact texts are assembled from themselves
-----------------------------------------------------------------------------------------

/-- A gap in a compact text is at most one space. -/
theorem Compact.gap_eq {c : Char} {gap text : List Char}
    (h : Compact (c :: (gap ++ text))) (loose : gap.all isFiller = true)
    : gap = [] ∨ gap = [' '] := by
  have space {d : Char} (member : d ∈ gap) : d = ' ' :=
    h.fillers d (by simp [member]) (List.all_eq_true.mp loose d member)
  rcases gap with _ | ⟨d, _ | ⟨e, rest⟩⟩
  · exact Or.inl rfl
  · have hd : d = ' ' := space (by simp)
    exact Or.inr (by rw [hd])
  · have hd : d = ' ' := space (by simp)
    have he : e = ' ' := space (by simp)
    have chain := (List.isChain_cons.mp (List.isChain_cons.mp h.neighbours).2).1
    exact absurd he ((chain e (by simp)).behindSpace hd).1

theorem Compact.behind {c : Char} {gap : List Char} {solids : List Solid}
    (h : Compact (c :: (gap ++ solids.flatMap Solid.text)))
    : Compact (solids.flatMap Solid.text) where
  fillers d hd := h.fillers d (by simp [hd])
  neighbours := (List.isChain_cons.mp h.neighbours).2.right_of_append
  first he := by
    rw [head?_textOf] at he
    exact ne_space_of_solid (solid_of_firstChar he) rfl
  last he := by
    apply h.last
    rw [← List.cons_append, List.getLast?_append, he]
    rfl

/-- Solid characters with compact text are assembled to that text, by induction from the
right.
-/
theorem assemble_of_compact {solids : List Solid} (h : Compact (solids.flatMap Solid.text))
    (hs : ¬ [';', '}'] <:+: solids.flatMap Solid.text)
    : assemble solids = solids.flatMap Solid.text := by
  induction solids with
  | nil => rfl
  | cons first rest ih =>
      rw [List.flatMap_cons, Solid.text, List.cons_append] at h hs ⊢
      have later : ¬ [';', '}'] <:+: rest.flatMap Solid.text := by
        intro pair
        exact hs (pair.trans (List.suffix_append_of_suffix (List.suffix_refl _)
          |>.trans (List.suffix_cons _ _)).isInfix)
      have tail := ih h.behind later
      have gap := h.gap_eq first.loose
      have chain := List.isChain_cons.mp h.neighbours
      rcases rest with _ | ⟨second, rest⟩
      · -- A compact text does not end in a space.
        have closed : first.gap = [] := by
          refine gap.resolve_right fun open_ => h.last ?_
          simp [open_]
        simp [assemble, between, firstChar, closed]
      · rcases gap with closed | open_
        · -- Without a gap, a semicolon that is dropped would stand right before its
          -- brace.
          have kept : ¬ (first.char = ';' ∧ firstChar (second :: rest) = some '}') := by
            intro last
            refine hs (pair_infix_cons.mpr (Or.inl ⟨last.1, ?_⟩))
            rw [closed, List.nil_append, head?_textOf]
            exact last.2
          rw [assemble_of_kept kept, tail, closed]
          simp [between, closed]
        · -- A space fits only between characters that are no marks, and none of those is
          -- dropped.
          have left : first.char ∉ marks := (chain.1 ' ' (by simp [open_])).beforeSpace rfl
          have right : second.char ∉ marks := by
            have fits := chain.2
            rw [open_, List.singleton_append, List.isChain_cons] at fits
            exact ((fits.1 second.char (by simp [Solid.text])).behindSpace rfl).2
          have kept : ¬ (first.char = ';' ∧ firstChar (second :: rest) = some '}') := by
            intro last
            exact left (last.1 ▸ semicolon_mem_marks)
          rw [assemble_of_kept kept, tail]
          simp [between, open_, left, right]

theorem assembled_ofText {text : List Char} (h : Compact text) (hs : ¬ [';', '}'] <:+: text)
    : (Layout.ofText text).assembled = text := by
  have whole := Layout.text_ofText text
  have bare : (Layout.ofText text).margin = [] := by
    cases margin : (Layout.ofText text).margin with
    | nil => rfl
    | cons c rest =>
        have loose := (Layout.ofText text).loose
        rw [margin, List.all_cons, Bool.and_eq_true] at loose
        rw [Layout.text, margin] at whole
        have space : c = ' ' := h.fillers c (by rw [← whole]; simp) loose.1
        exact absurd (by rw [← whole, space]; rfl) h.first
  rw [Layout.text, bare, List.nil_append] at whole
  rw [Layout.assembled, assemble_of_compact (whole.symm ▸ h) (whole.symm ▸ hs), whole]

-----------------------------------------------------------------------------------------
-- Texts that minify to themselves
-----------------------------------------------------------------------------------------

/-- Minifying takes comments off and adds no weight to what is left, if no character is
lighter than a space.
-/
theorem weight_minify_le (weight : Char → Nat) (light : ∀ c, weight ' ' ≤ weight c)
    (text : List Char)
    : ((minify text).map weight).sum ≤ ((dropComments text).map weight).sum := by
  have whole
      := congrArg (fun text => (text.map weight).sum) (Layout.text_ofText (dropComments text))
  simp only [Layout.text, List.map_append, List.sum_append] at whole
  have short := (weight_assemble weight light (Layout.ofText (dropComments text)).solids).1
  rw [minify_eq, Layout.assembled]
  omega

theorem length_minify_le (text : List Char)
    : (minify text).length ≤ (dropComments text).length := by
  simpa using weight_minify_le (fun _ => 1) (fun _ => Nat.le_refl 1) text

theorem length_minify_le_length (text : List Char)
    : (minify text).length ≤ text.length :=
  (length_minify_le text).trans (dropComments_sublist text).length_le

/-- Minifying shortens every text with a complete comment. -/
theorem length_minify_lt_of_hasComment {text : List Char} (h : HasComment text)
    : (minify text).length < text.length :=
  Nat.lt_of_le_of_lt (length_minify_le text) (length_dropComments_lt h)

/-- Minifying shortens every text with a semicolon right before a closing brace. -/
theorem length_minify_lt_of_pair {text : List Char} (h : ¬ HasComment text)
    (hs : [';', '}'] <:+: text)
    : (minify text).length < text.length := by
  have whole := Layout.text_ofText text
  have solid : [';', '}'] <:+: (Layout.ofText text).solids.map Solid.char := by
    rw [Layout.map_char_solids, whole]
    exact hs.filter (!isFiller ·)
  have short := (length_assemble (Layout.ofText text).solids).2 solid
  have sizes := congrArg List.length whole
  rw [Layout.text, List.length_append] at sizes
  rw [minify_eq, dropComments_eq_self h, Layout.assembled]
  omega

/-- The texts that minify to themselves. -/
theorem minify_eq_self {text : List Char}
    : minify text = text ↔ ¬ HasComment text ∧ Compact text ∧ ¬ [';', '}'] <:+: text := by
  constructor
  · intro fixed
    have noComment : ¬ HasComment text := by
      intro h
      have := length_minify_lt_of_hasComment h
      rw [fixed] at this
      exact Nat.lt_irrefl _ this
    refine ⟨noComment, fixed ▸ compact_minify text, fun pair => ?_⟩
    have := length_minify_lt_of_pair noComment pair
    rw [fixed] at this
    exact Nat.lt_irrefl _ this
  · intro clean
    obtain ⟨noComment, compact, noPair⟩ := clean
    rw [minify_eq, dropComments_eq_self noComment, assembled_ofText compact noPair]

end CssMinifier.Stylesheet
