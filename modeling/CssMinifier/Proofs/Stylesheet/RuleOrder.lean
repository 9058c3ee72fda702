import CssMinifier.Proofs.Stylesheet.Assembly

/-! The order of the rules. The rules for the marks commute on every text, and once fillers
have collapsed the ends may be trimmed at any time, so many orders of the rules give the same
minified form.
-/

namespace CssMinifier.Stylesheet

open CssMinifier.Text

-----------------------------------------------------------------------------------------
-- Tightening around two marks
-----------------------------------------------------------------------------------------

/-- Tightening acts behind the blanks at the start as it would without them, by induction on
the text.
-/
theorem tighten_dropWhile {mark : Char} (hm : isBlank mark = false) (text : List Char)
    : tighten mark (text.dropWhile isBlank) = (tighten mark text).dropWhile isBlank := by
  induction text with
  | nil => rfl
  | cons c rest ih =>
      by_cases own : c = mark
      · rw [own, List.dropWhile_cons_of_neg (by simp [hm]), tighten_cons_self,
          List.dropWhile_cons_of_neg (by simp [hm])]
      · cases hc : isBlank c with
        | false =>
            rw [List.dropWhile_cons_of_neg (by simp [hc]), tighten_cons_kept hc own,
              List.dropWhile_cons_of_neg (by simp [hc])]
        | true =>
            rw [List.dropWhile_cons_of_pos hc, ih, tighten_cons_blank hm hc]
            split
            · rfl
            · rw [List.dropWhile_cons_of_pos hc]

/-- Tightening neither brings another character to the start nor takes it away. -/
theorem head?_tighten_eq_iff {mark d : Char} (hm : isBlank mark = false)
    (hd : isBlank d = false) (hne : d ≠ mark) {text : List Char}
    : (tighten mark text).head? = some d ↔ text.head? = some d := by
  cases text with
  | nil => rfl
  | cons c rest =>
      by_cases own : c = mark
      · rw [own, tighten_cons_self]
        rfl
      · cases hc : isBlank c with
        | false =>
            rw [tighten_cons_kept hc own]
            rfl
        | true =>
            have apart : c ≠ d := by
              rintro rfl
              simp [hd] at hc
            rw [tighten_cons_blank hm hc]
            split
            · next head => simp [head, apart, hne.symm]
            · rfl

variable {mark other : Char} {text : List Char}

theorem tighten_tighten_mark (ho : isBlank other = false) (hm : isBlank mark = false)
    (hne : mark ≠ other)
    (comm : tighten mark (tighten other text) = tighten other (tighten mark text))
    : tighten mark (tighten other (mark :: text))
      = tighten other (tighten mark (mark :: text)) := by
  rw [tighten_cons_kept hm hne, tighten_cons_self, tighten_cons_self, tighten_cons_kept hm hne,
    tighten_dropWhile ho, comm]

/-- A blank goes if one of the two marks comes first behind it. -/
theorem tighten_tighten_blank (hm : isBlank mark = false) (ho : isBlank other = false)
    (hne : mark ≠ other) {c : Char} (hc : isBlank c = true)
    : tighten mark (tighten other (c :: text))
      = if (tighten mark (tighten other text)).head? = some mark
            ∨ (tighten mark (tighten other text)).head? = some other then
          tighten mark (tighten other text)
        else
          c :: tighten mark (tighten other text) := by
  have same
      : (tighten mark (tighten other text)).head? = some other
        ↔ (tighten other text).head? = some other :=
    head?_tighten_eq_iff hm ho hne.symm
  rw [tighten_cons_blank ho hc]
  by_cases head : (tighten other text).head? = some other
  · rw [if_pos head, if_pos (Or.inr (same.mpr head))]
  · rw [if_neg head, tighten_cons_blank hm hc]
    simp only [same, head, or_false]

/-- Two marks may be tightened in either order, by induction on the text. -/
theorem tighten_comm (hm : isBlank mark = false) (ho : isBlank other = false)
    (text : List Char)
    : tighten mark (tighten other text) = tighten other (tighten mark text) := by
  by_cases same : mark = other
  · rw [same]
  induction text with
  | nil => rfl
  | cons c rest ih =>
      by_cases first : c = mark
      · rw [first]
        exact tighten_tighten_mark ho hm same ih
      by_cases second : c = other
      · rw [second]
        exact (tighten_tighten_mark hm ho (Ne.symm same) ih.symm).symm
      cases hc : isBlank c with
      | true =>
          rw [tighten_tighten_blank hm ho same hc, tighten_tighten_blank ho hm (Ne.symm same) hc,
            ih]
          exact if_congr or_comm rfl rfl
      | false =>
          rw [tighten_cons_kept hc second, tighten_cons_kept hc first, tighten_cons_kept hc first,
            tighten_cons_kept hc second, ih]

theorem not_isBlank_of_mark {mark : Char} (h : mark ∈ marks)
    : isBlank mark = false :=
  not_isBlank_of_solid (not_isFiller_of_mark h)

/-- Marks may be tightened in any order. -/
theorem applyAll_tighten_perm {order chosen : List Char} (h : order.Perm chosen)
    (known : ∀ mark ∈ order, mark ∈ marks) (text : List Char)
    : applyAll (order.map .tighten) text = applyAll (chosen.map .tighten) text := by
  refine (h.map Rule.tighten).foldl_eq' ?_ text
  intro rule hr rule' hr' done
  obtain ⟨mark, member, rfl⟩ := List.mem_map.mp hr
  obtain ⟨mark', member', rfl⟩ := List.mem_map.mp hr'
  exact tighten_comm (not_isBlank_of_mark (known mark' member'))
    (not_isBlank_of_mark (known mark member)) done

-----------------------------------------------------------------------------------------
-- Trimming early
-----------------------------------------------------------------------------------------

@[simp]
theorem applyAll_append (first last : List Rule) (text : List Char)
    : applyAll (first ++ last) text = applyAll last (applyAll first text) :=
  List.foldl_append

theorem elide_closeLast (solids : List Solid)
    : elide (closeLast solids) = closeLast (elide solids) := by
  induction solids with
  | nil => rfl
  | cons first rest ih =>
      cases rest with
      | nil => simp [closeLast, elide, firstChar]
      | cons second rest =>
          have step (behind : List Solid)
              : elide (first :: behind)
                = if first.char = ';' ∧ firstChar behind = some '}' then
                    elide behind
                  else
                    first :: elide behind :=
            rfl
          rw [closeLast, step, step, firstChar_closeLast, ih]
          split
          · rfl
          · rw [closeLast_cons _ (elide_ne_nil second rest)]

theorem trimEnds_tighten {mark : Char} (hm : isFiller mark = false) (tight : List Char)
    (layout : Layout)
    : tighten mark (trimEnds (layout.spread tight))
      = trimEnds (tighten mark (layout.spread tight)) := by
  rw [trimEnds_spread, tighten_spread hm, tighten_spread hm, trimEnds_spread]

theorem trimEnds_dropLastSemicolons {tight : List Char} (hs : ';' ∈ tight) (hb : '}' ∈ tight)
    (layout : Layout)
    : dropLastSemicolons (trimEnds (layout.spread tight))
      = trimEnds (dropLastSemicolons (layout.spread tight)) := by
  have same : layout.trimmed.elided = layout.elided.trimmed :=
    Layout.ext rfl (elide_closeLast layout.solids)
  rw [trimEnds_spread, dropLastSemicolons_spread hs hb, dropLastSemicolons_spread hs hb,
    trimEnds_spread, same]

/-- The ends may be trimmed before the remaining rules and not only behind them, by induction
on the marks that remain.
-/
theorem applyAll_trimEnds {chosen tight : List Char} (solid : ∀ mark ∈ chosen, mark ∈ marks)
    (hs : ';' ∈ chosen ++ tight) (hb : '}' ∈ chosen ++ tight) (layout : Layout)
    : applyAll (chosen.map .tighten ++ [.dropLastSemicolons]) (trimEnds (layout.spread tight))
      = trimEnds
          (applyAll (chosen.map .tighten ++ [.dropLastSemicolons]) (layout.spread tight)) := by
  induction chosen generalizing tight with
  | nil => exact trimEnds_dropLastSemicolons hs hb layout
  | cons mark rest ih =>
      have hm := not_isFiller_of_mark (solid mark (by simp))
      have step (text : List Char)
          : applyAll ((mark :: rest).map .tighten ++ [.dropLastSemicolons]) text
            = applyAll (rest.map .tighten ++ [.dropLastSemicolons]) (tighten mark text) := rfl
      have known : ∀ mark ∈ rest, mark ∈ marks := fun other member => solid other (by simp [member])
      rw [step, step, trimEnds_tighten hm, tighten_spread hm]
      exact ih known (by grind) (by grind)

/-- It does not matter which of the rules behind the collapsing have run when the ends are
trimmed.
-/
theorem applyAll_trimEnds_between {order : List Char} (h : order.Perm marks)
    {before after : List Rule}
    (split : order.map .tighten ++ [.dropLastSemicolons] = before ++ after) (layout : Layout)
    : applyAll after (trimEnds (applyAll before (layout.spread [])))
      = trimEnds
          (applyAll (order.map .tighten ++ [.dropLastSemicolons]) (layout.spread [])) := by
  have known : ∀ mark ∈ order, mark ∈ marks := fun mark member => h.mem_iff.mp member
  rcases List.eq_nil_or_concat after with rfl | ⟨rest, last, rfl⟩
  · rw [split, List.append_nil]
    rfl
  · rw [List.concat_eq_append, ← List.append_assoc] at split
    obtain ⟨tightened, dropped⟩ := List.append_inj' split rfl
    obtain ⟨first, second, rfl, rfl, rfl⟩ := List.map_eq_append_iff.mp tightened
    have solid : ∀ mark ∈ first, isFiller mark = false :=
      fun mark member => not_isFiller_of_mark (known mark (by simp [member]))
    have kept : ∀ mark ∈ second, mark ∈ marks := fun mark member => known mark (by simp [member])
    have all {mark : Char} (hm : mark ∈ marks) : mark ∈ second ++ (first.reverse ++ []) := by
      have member := h.mem_iff.mpr hm
      simpa [or_comm] using member
    rw [List.concat_eq_append, ← dropped, applyAll_tighten solid,
      applyAll_trimEnds kept (all semicolon_mem_marks) (all brace_mem_marks), List.map_append,
      List.append_assoc, applyAll_append (first.map .tighten), applyAll_tighten solid]

-----------------------------------------------------------------------------------------
-- Orders with the same minified form
-----------------------------------------------------------------------------------------

/-- A stylesheet is minified by any order of the marks, with the ends trimmed last. -/
theorem minify_of_perm {order : List Char} (h : order.Perm marks) (text : List Char)
    : minify text
      = trimEnds
          (applyAll (order.map .tighten ++ [.dropLastSemicolons])
            (collapseFillers (dropComments text))) := by
  have known : ∀ mark ∈ order, mark ∈ marks := fun mark member => h.mem_iff.mp member
  have unrolled
      : minify text
        = trimEnds
            (dropLastSemicolons
              (applyAll (marks.map .tighten) (collapseFillers (dropComments text)))) := by
    simp [minify, rules, applyAll, Rule.apply]
  rw [unrolled, applyAll_append, applyAll_tighten_perm h known]
  rfl

/-- The rules for two marks commute on every text. The rules for the marks may run in any
order, and the ends may be trimmed at any time once fillers have collapsed: the minified form
is the same.
-/
theorem minify_reordered
    : (∀ mark ∈ marks,
        ∀ other ∈ marks,
          ∀ text : List Char,
            (Rule.tighten mark).apply ((Rule.tighten other).apply text)
              = (Rule.tighten other).apply ((Rule.tighten mark).apply text))
      ∧ ∀ (order : List Char) (before after : List Rule) (text : List Char),
          order.Perm marks
          → order.map .tighten ++ [.dropLastSemicolons] = before ++ after
          → applyAll ([.dropComments, .collapseFillers] ++ before ++ .trimEnds :: after) text
            = minify text := by
  constructor
  · intro mark hm other ho text
    exact tighten_comm (not_isBlank_of_mark hm) (not_isBlank_of_mark ho) text
  · intro order before after text perm split
    have start
        : applyAll ([.dropComments, .collapseFillers] ++ before ++ .trimEnds :: after) text
          = applyAll after
              (trimEnds (applyAll before (collapseFillers (dropComments text)))) := by
      rw [applyAll_append, applyAll_append]
      rfl
    rw [start, minify_of_perm perm, ← Layout.text_ofText (dropComments text),
      collapseFillers_text]
    exact applyAll_trimEnds_between perm split _

/-- The marks may run backwards, with the ends trimmed behind the first five of them. -/
theorem minify_reordered_backwards
    : applyAll
          ([.dropComments, .collapseFillers]
            ++ [')', '(', '~', '+', '>'].map .tighten
            ++ .trimEnds :: ([',', ';', ':', '\x7d', '\x7b'].map .tighten ++ [.dropLastSemicolons]))
          " a ( b ; ) ".toList
      = minify " a ( b ; ) ".toList :=
  minify_reordered.2 marks.reverse _ _ _ (List.reverse_perm marks) rfl

end CssMinifier.Stylesheet
