import CssMinifier.Proofs.Stylesheet.Assembly
import Mathlib.Data.List.Infix

/-! Complete comments. Their removal shortens a text that holds one and keeps any other
text, and what is assembled from a text holds one exactly if the text does.
-/

namespace CssMinifier.Stylesheet

open CssMinifier.Text

/-- Holds for a text with an opener and a closer behind it. -/
def HasComment (text : List Char) : Prop :=
  ∃ before inside after, text = before ++ '/' :: '*' :: inside ++ '*' :: '/' :: after

theorem slash_not_mem_marks : '/' ∉ marks := by
  simp [marks]

theorem star_not_mem_marks : '*' ∉ marks := by
  simp [marks]

-----------------------------------------------------------------------------------------
-- Pairs of neighbours
-----------------------------------------------------------------------------------------

theorem pair_infix_append {a b : Char} {fillers : List Char} (ha : isFiller a = false)
    (h : fillers.all isFiller = true) (text : List Char)
    : [a, b] <:+: fillers ++ text ↔ [a, b] <:+: text := by
  induction fillers with
  | nil => rfl
  | cons c rest ih =>
      simp only [List.all_cons, Bool.and_eq_true] at h
      have hne : c ≠ a := by
        intro same
        simp [same, ha] at h
      rw [List.cons_append, pair_infix_cons, ih h.2]
      simp [hne]

/-- Fillers between a solid character and a text part the two. -/
theorem pair_infix_solid {a b c : Char} {fillers text : List Char}
    (ha : isFiller a = false) (hb : isFiller b = false) (h : fillers.all isFiller = true)
    : [a, b] <:+: c :: (fillers ++ text)
      ↔ (c = a ∧ fillers = [] ∧ text.head? = some b) ∨ [a, b] <:+: text := by
  rw [pair_infix_cons, pair_infix_append ha h]
  cases fillers with
  | nil => simp
  | cons d rest =>
      have hne : d ≠ b := by
        intro same
        simp [same, hb] at h
      simp [hne]

theorem closer_infix_iff {text : List Char}
    : ['*', '/'] <:+: text ↔ (afterCloser text).isSome = true := by
  fun_induction afterCloser text with
  | case1 rest => simp [pair_infix_cons]
  | case2 c rest hne ih =>
      rw [pair_infix_cons, ih]
      refine or_iff_right fun closes => ?_
      obtain ⟨star, head⟩ := closes
      obtain ⟨tail, slash⟩ := List.head?_eq_some_iff.mp head
      exact hne tail star slash
  | case3 => simp

-----------------------------------------------------------------------------------------
-- Removal of comments
-----------------------------------------------------------------------------------------

theorem hasComment_cons {c : Char} {text : List Char}
    : HasComment (c :: text)
      ↔ (c = '/' ∧ text.head? = some '*' ∧ ['*', '/'] <:+: text.tail) ∨ HasComment text := by
  constructor
  · intro comment
    obtain ⟨before, inside, after, he⟩ := comment
    cases before with
    | nil =>
        simp only [List.nil_append, List.cons_append, List.cons.injEq] at he
        obtain ⟨rfl, rfl⟩ := he
        exact Or.inl ⟨rfl, rfl, inside, after, by simp⟩
    | cons d rest =>
        simp only [List.cons_append, List.cons.injEq] at he
        exact Or.inr ⟨rest, inside, after, by simp [he.2]⟩
  · intro comment
    rcases comment with ⟨rfl, head, inside, after, he⟩ | ⟨before, inside, after, rfl⟩
    · obtain ⟨rest, rfl⟩ := List.head?_eq_some_iff.mp head
      exact ⟨[], inside, after, by simpa using he.symm⟩
    · exact ⟨c :: before, inside, after, by simp⟩

theorem HasComment.opener {text : List Char} (h : HasComment text)
    : ['/', '*'] <:+: text := by
  obtain ⟨before, inside, after, rfl⟩ := h
  exact ⟨before, inside ++ '*' :: '/' :: after, by simp⟩

theorem HasComment.closer {text : List Char} (h : HasComment text)
    : ['*', '/'] <:+: text := by
  obtain ⟨before, inside, after, rfl⟩ := h
  exact ⟨before ++ '/' :: '*' :: inside, after, by simp⟩

theorem afterCloser_suffix {text rest : List Char} (h : afterCloser text = some rest)
    : rest <:+ text := by
  fun_induction afterCloser text with
  | case1 rest =>
      obtain rfl := Option.some.inj h
      exact ⟨['*', '/'], rfl⟩
  | case2 c rest hne ih => exact (ih h).trans (List.suffix_cons c rest)
  | case3 => cases h

theorem dropComments_cons {c : Char} {text : List Char}
    (h : ¬ (c = '/' ∧ text.head? = some '*'))
    : dropComments (c :: text) = c :: dropComments text := by
  rw [dropComments]
  intro rest slash star
  exact h ⟨slash, by simp [star]⟩

theorem dropComments_cons_filler {c : Char} (hc : isFiller c = true) (text : List Char)
    : dropComments (c :: text) = c :: dropComments text := by
  refine dropComments_cons fun opens => ?_
  rw [opens.1] at hc
  cases hc

theorem dropComments_opener (text : List Char)
    : dropComments ('/' :: '*' :: text)
      = match afterCloser text with
        | some after => dropComments after
        | none => '/' :: '*' :: text := by
  rw [dropComments]
  split <;> simp_all

/-- Removal of comments keeps characters in their order, by induction on the comments. -/
theorem dropComments_sublist (text : List Char)
    : (dropComments text).Sublist text := by
  fun_induction dropComments text with
  | case1 rest after h _ ih =>
      exact ih.trans ((afterCloser_suffix h).sublist.trans (by simp))
  | case2 rest h => exact List.Sublist.refl _
  | case3 c rest hne ih => exact ih.cons_cons c
  | case4 => exact List.Sublist.refl _

theorem dropComments_eq_self {text : List Char} (h : ¬ HasComment text)
    : dropComments text = text := by
  fun_induction dropComments text with
  | case1 rest after found _ ih =>
      refine absurd (hasComment_cons.mpr (Or.inl ⟨rfl, rfl, ?_⟩)) h
      simp [closer_infix_iff, found]
  | case2 rest found => rfl
  | case3 c rest hne ih => rw [ih fun inner => h (hasComment_cons.mpr (Or.inr inner))]
  | case4 => rfl

/-- An opener without a closer: nothing behind it can hold a complete comment either. -/
theorem not_hasComment_unclosed {text : List Char} (h : afterCloser text = none)
    : ¬ HasComment ('/' :: '*' :: text) := by
  intro comment
  have closer : ['*', '/'] <:+: text := by
    rcases hasComment_cons.mp comment with ⟨_, _, closer⟩ | inner
    · exact closer
    · exact ((hasComment_cons.mp inner).resolve_left (by simp)).closer
  simp [closer_infix_iff, h] at closer

theorem length_dropComments_lt {text : List Char} (h : HasComment text)
    : (dropComments text).length < text.length := by
  fun_induction dropComments text with
  | case1 rest after found _ ih =>
      have short := (dropComments_sublist after).length_le
      have shorter := length_afterCloser found
      simp only [List.length_cons]
      omega
  | case2 rest found => exact absurd h (not_hasComment_unclosed found)
  | case3 c rest hne ih =>
      simp only [List.length_cons]
      refine Nat.succ_lt_succ (ih ((hasComment_cons.mp h).resolve_left fun opens => ?_))
      obtain ⟨slash, head, _⟩ := opens
      obtain ⟨tail, star⟩ := List.head?_eq_some_iff.mp head
      exact hne tail slash star
  | case4 => simp [HasComment] at h

-----------------------------------------------------------------------------------------
-- Comments of an assembled text
-----------------------------------------------------------------------------------------

theorem hasComment_append {fillers : List Char} (h : fillers.all isFiller = true)
    (text : List Char)
    : HasComment (fillers ++ text) ↔ HasComment text := by
  induction fillers with
  | nil => rfl
  | cons d rest ih =>
      simp only [List.all_cons, Bool.and_eq_true] at h
      have hne : d ≠ '/' := by
        intro slash
        rw [slash] at h
        cases h.1
      rw [List.cons_append, hasComment_cons, ih h.2]
      simp [hne]

theorem hasComment_solid {c : Char} {fillers text : List Char} (h : fillers.all isFiller = true)
    : HasComment (c :: (fillers ++ text))
      ↔ (c = '/' ∧ fillers = [] ∧ text.head? = some '*' ∧ ['*', '/'] <:+: text.tail)
        ∨ HasComment text := by
  rw [hasComment_cons, hasComment_append h]
  cases fillers with
  | nil => simp
  | cons d rest =>
      have hne : d ≠ '*' := by
        intro star
        have loose : isFiller '*' = true := List.all_eq_true.mp h '*' (by simp [star])
        cases loose
      simp [hne]

@[simp]
theorem head?_textOf (solids : List Solid)
    : (solids.flatMap Solid.text).head? = firstChar solids := by
  cases solids <;> rfl

/-- A first character that is no mark is never dropped. -/
theorem head?_assemble_eq_iff {b : Char} (hb : b ∉ marks) (solids : List Solid)
    : (assemble solids).head? = some b ↔ firstChar solids = some b := by
  rw [head?_assemble, firstChar_elide]
  split
  · next pair =>
      have semicolon : firstChar solids = some ';' := by
        cases solids with
        | nil => simp at pair
        | cons first rest =>
            simp only [List.map_cons, List.cons_prefix_cons] at pair
            exact congrArg some pair.1.symm
      have apart {c : Char} (mark : c ∈ marks) : some c ≠ some b := by
        intro same
        exact hb (Option.some.inj same ▸ mark)
      rw [semicolon]
      exact iff_of_false (apart brace_mem_marks) (apart semicolon_mem_marks)
  · rfl

/-- Assembling keeps the pairs of characters that are no marks, by induction from the
right.
-/
theorem pair_infix_assemble {a b : Char} (ha : a ∉ marks) (hb : b ∉ marks)
    (sa : isFiller a = false) (sb : isFiller b = false) (solids : List Solid)
    : [a, b] <:+: assemble solids ↔ [a, b] <:+: solids.flatMap Solid.text := by
  induction solids with
  | nil => rfl
  | cons first rest ih =>
      rw [List.flatMap_cons, Solid.text, List.cons_append, pair_infix_solid sa sb first.loose,
        head?_textOf]
      by_cases h : first.char = ';' ∧ firstChar rest = some '}'
      · have hne : first.char ≠ a := by
          intro same
          rw [h.1] at same
          exact ha (same ▸ semicolon_mem_marks)
        rw [assemble_of_last h, ih]
        simp [hne]
      · rw [assemble_of_kept h, pair_infix_solid sa sb (between_loose first rest), ih,
          head?_assemble_eq_iff hb]
        refine or_congr_left (and_congr_right fun he => and_congr_left fun head => ?_)
        exact between_eq_nil_iff (he ▸ ha) head hb

theorem closer_infix_tail {solids : List Solid} (head : firstChar solids = some '*')
    : ['*', '/'] <:+: (assemble solids).tail
      ↔ ['*', '/'] <:+: (solids.flatMap Solid.text).tail := by
  cases solids with
  | nil => rfl
  | cons first rest =>
      have star : first.char = '*' := Option.some.inj head
      rw [assemble_of_kept (by simp [star]), List.flatMap_cons, Solid.text, List.cons_append,
        List.tail_cons, List.tail_cons,
        pair_infix_append rfl (between_loose first rest), pair_infix_append rfl first.loose,
        pair_infix_assemble star_not_mem_marks slash_not_mem_marks rfl rfl]

/-- Assembling neither makes nor breaks a complete comment, by induction from the right.
-/
theorem hasComment_assemble_iff (solids : List Solid)
    : HasComment (assemble solids) ↔ HasComment (solids.flatMap Solid.text) := by
  induction solids with
  | nil => rfl
  | cons first rest ih =>
      rw [List.flatMap_cons, Solid.text, List.cons_append, hasComment_solid first.loose,
        head?_textOf]
      by_cases h : first.char = ';' ∧ firstChar rest = some '}'
      · rw [assemble_of_last h, ih, h.1]
        simp
      · rw [assemble_of_kept h, hasComment_solid (between_loose first rest), ih,
          head?_assemble_eq_iff star_not_mem_marks]
        refine or_congr_left (and_congr_right fun slash => ?_)
        -- Slash and star are no marks: a gap between them leaves a space and parts the
        -- opener.
        have bare : first.char ∉ marks := slash ▸ slash_not_mem_marks
        constructor
        · intro comment
          obtain ⟨tight, head, closer⟩ := comment
          have closed := (between_eq_nil_iff bare head star_not_mem_marks).mp tight
          exact ⟨closed, head, (closer_infix_tail head).mp closer⟩
        · intro comment
          obtain ⟨closed, head, closer⟩ := comment
          have tight := (between_eq_nil_iff bare head star_not_mem_marks).mpr closed
          exact ⟨tight, head, (closer_infix_tail head).mpr closer⟩

/-- A minified text holds a complete comment exactly if one is left once comments are
removed.
-/
theorem hasComment_minify_iff (text : List Char)
    : HasComment (minify text) ↔ HasComment (dropComments text) := by
  have whole := Layout.text_ofText (dropComments text)
  rw [minify_eq, Layout.assembled, hasComment_assemble_iff, ← whole, Layout.text,
    hasComment_append (Layout.ofText (dropComments text)).loose, ← Layout.text, whole]

end CssMinifier.Stylesheet
