import CssMinifier.Proofs.Stylesheet.Spread
import Mathlib.Algebra.GroupWithZero.Nat

/-! Minifying in one pass. The last two rules drop solid characters and end gaps of a
spread layout, so the fourteen rules together read the minified form off the layout of
the text without comments.
-/

namespace CssMinifier.Stylesheet

open CssMinifier.Text

-----------------------------------------------------------------------------------------
-- Dropping last semicolons
-----------------------------------------------------------------------------------------

/-- The solid characters without each semicolon whose next one is a closing brace. -/
def elide : List Solid → List Solid
  | [] => []
  | first :: rest =>
      if first.char = ';' ∧ firstChar rest = some '}' then elide rest else first :: elide rest

theorem dropLastSemicolons_cons (c : Char) (text : List Char)
    : dropLastSemicolons (c :: text)
      = if c = ';' ∧ text.head? = some '}' then
          dropLastSemicolons text
        else
          c :: dropLastSemicolons text := by
  split
  · next h =>
      obtain ⟨rfl, head⟩ := h
      obtain ⟨rest, rfl⟩ := List.head?_eq_some_iff.mp head
      simp [dropLastSemicolons]
  · next h =>
      rw [dropLastSemicolons]
      intro rest semicolon brace
      exact h ⟨semicolon, by simp [brace]⟩

theorem dropLastSemicolons_spacing (tight : List Char) (left : Option Char) (gap : List Char)
    (right : Option Char) (text : List Char)
    : dropLastSemicolons (spacing tight left gap right ++ text)
      = spacing tight left gap right ++ dropLastSemicolons text := by
  rcases spacing_eq tight left gap right with he | he
  · simp [he]
  · simp [he, dropLastSemicolons_cons]

/-- Where semicolon and brace stand tight, dropping a semicolon before a brace changes no
gap.
-/
theorem spacing_elide {tight : List Char} (hs : ';' ∈ tight) (hb : '}' ∈ tight)
    (left : Option Char) (gap : List Char) (solids : List Solid)
    : spacing tight left gap (firstChar (elide solids))
      = spacing tight left gap (firstChar solids) := by
  induction solids with
  | nil => rfl
  | cons first rest ih =>
      by_cases h : first.char = ';' ∧ firstChar rest = some '}'
      · rw [elide, if_pos h, ih, h.2]
        simp [spacing, firstChar, h.1, hs, hb]
      · rw [elide, if_neg h]
        rfl

theorem dropLastSemicolons_spreadSolids {tight : List Char} (hs : ';' ∈ tight)
    (hb : '}' ∈ tight) (solids : List Solid)
    : dropLastSemicolons (spreadSolids tight solids) = spreadSolids tight (elide solids) := by
  induction solids with
  | nil => rfl
  | cons first rest ih =>
      have none {right : Option Char} (h : first.char = ';')
          : spacing tight (some first.char) first.gap right = [] := by
        simp [spacing, h, hs]
      rw [spreadSolids, dropLastSemicolons_cons, dropLastSemicolons_spacing, ih, elide]
      by_cases h : first.char = ';' ∧ firstChar rest = some '}'
      · rw [if_pos h, none h.1, if_pos]
        · rfl
        · simpa using h
      · rw [if_neg h, spreadSolids, spacing_elide hs hb, if_neg]
        intro last
        obtain ⟨semicolon, head⟩ := last
        simp only [none semicolon, List.nil_append, head?_spreadSolids] at head
        exact h ⟨semicolon, head⟩

/-- The layout without each semicolon whose next solid character is a closing brace. -/
def Layout.elided (layout : Layout) : Layout :=
  { layout with solids := elide layout.solids }

theorem dropLastSemicolons_spread {tight : List Char} (hs : ';' ∈ tight) (hb : '}' ∈ tight)
    (layout : Layout)
    : dropLastSemicolons (layout.spread tight) = layout.elided.spread tight := by
  simp only [Layout.spread, Layout.elided, dropLastSemicolons_spacing,
    dropLastSemicolons_spreadSolids hs hb, spacing_elide hs hb]

-----------------------------------------------------------------------------------------
-- Trimming the ends
-----------------------------------------------------------------------------------------

/-- The solid characters with nothing behind the last one. -/
def closeLast : List Solid → List Solid
  | [] => []
  | [last] => [⟨last.char, [], last.solid, loose_nil⟩]
  | first :: second :: rest => first :: closeLast (second :: rest)

@[simp]
theorem firstChar_closeLast (solids : List Solid)
    : firstChar (closeLast solids) = firstChar solids := by
  rcases solids with _ | ⟨first, _ | ⟨second, rest⟩⟩ <;> rfl

/-- Only spaces stand behind the last solid character. -/
theorem spreadSolids_closeLast (tight : List Char) (solids : List Solid)
    : ∃ spaces : List Char,
        spaces.all (· == ' ') = true
        ∧ spreadSolids tight solids = spreadSolids tight (closeLast solids) ++ spaces := by
  induction solids using closeLast.induct with
  | case1 => exact ⟨[], rfl, rfl⟩
  | case2 last =>
      refine ⟨spacing tight (some last.char) last.gap none, ?_, ?_⟩
      · rcases spacing_eq tight (some last.char) last.gap none with he | he <;> simp [he]
      · simp [spreadSolids, closeLast, spacing, firstChar]
  | case3 first second rest ih =>
      obtain ⟨spaces, blank, he⟩ := ih
      refine ⟨spaces, blank, ?_⟩
      rw [spreadSolids, he, closeLast, spreadSolids, firstChar_closeLast]
      simp

theorem solid_of_getLast? {tight : List Char} {solids : List Solid} {c : Char}
    (h : (spreadSolids tight (closeLast solids)).getLast? = some c)
    : isFiller c = false := by
  induction solids using closeLast.induct with
  | case1 => simp [closeLast, spreadSolids] at h
  | case2 last =>
      simp only [closeLast, spreadSolids, firstChar, spacing, List.head?_nil, Option.map_none,
        true_or, if_true, List.nil_append, List.getLast?_singleton, Option.some.injEq] at h
      exact h ▸ last.solid
  | case3 first second rest ih =>
      apply ih
      have filled : spreadSolids tight (closeLast (second :: rest)) ≠ [] := by
        cases rest <;> simp [closeLast, spreadSolids]
      rw [closeLast, spreadSolids, ← List.cons_append,
        List.getLast?_append_of_ne_nil _ filled] at h
      exact h

/-- Without a final line feed the ends lose their spaces and nothing else happens. -/
theorem trimEnds_eq {text : List Char}
    (h : (text.dropWhile (· == ' ')).getLast? ≠ some '\n')
    : trimEnds text = dropTrailingSpaces (text.dropWhile (· == ' ')) := by
  unfold trimEnds
  simp only
  split
  · next front he =>
      rw [← List.head?_reverse, he] at h
      exact absurd rfl h
  · rfl

theorem dropWhile_spaces {spaces : List Char} (h : spaces.all (· == ' ') = true)
    (text : List Char)
    : (spaces ++ text).dropWhile (· == ' ') = text.dropWhile (· == ' ') :=
  List.dropWhile_append_of_pos (List.all_eq_true.mp h)

theorem dropWhile_solid {text : List Char}
    (h : ∀ c, text.head? = some c → isFiller c = false)
    : text.dropWhile (· == ' ') = text := by
  cases text with
  | nil => rfl
  | cons c rest => simp [ne_space_of_solid (h c rfl)]

/-- A text whose last characters are solid or spaces does not end in a line feed. -/
theorem getLast?_ne_feed {body back : List Char} (hb : back.all (· == ' ') = true)
    (last : ∀ c, body.getLast? = some c → isFiller c = false)
    : (body ++ back).getLast? ≠ some '\n' := by
  intro feed
  rw [List.getLast?_append] at feed
  cases hlast : back.getLast? with
  | none =>
      have solid : isFiller '\n' = false := last '\n' (by simpa [hlast] using feed)
      cases solid
  | some d =>
      have space : d = ' ' := by
        simpa using List.all_eq_true.mp hb d (List.mem_of_getLast? hlast)
      simp [hlast, space] at feed

/-- Trimming takes the spaces around a text whose own ends are solid. -/
theorem trimEnds_append {front body back : List Char} (hf : front.all (· == ' ') = true)
    (hb : back.all (· == ' ') = true) (first : ∀ c, body.head? = some c → isFiller c = false)
    (last : ∀ c, body.getLast? = some c → isFiller c = false)
    : trimEnds (front ++ (body ++ back)) = body := by
  cases hbody : body with
  | nil =>
      have empty : (front ++ back).dropWhile (· == ' ') = [] := by
        simpa [dropWhile_spaces hf] using dropWhile_spaces hb []
      rw [List.nil_append, trimEnds_eq (by simp [empty]), empty]
      rfl
  | cons c rest =>
      rw [← hbody]
      have kept : (front ++ (body ++ back)).dropWhile (· == ' ') = body ++ back := by
        rw [dropWhile_spaces hf, dropWhile_solid]
        intro d hd
        exact first d (by simpa [hbody] using hd)
      -- Before a final line feed trimming would act there too, but there is none.
      rw [trimEnds_eq (by rw [kept]; exact getLast?_ne_feed hb last), kept, dropTrailingSpaces,
        List.reverse_append, dropWhile_spaces (by simpa using hb), dropWhile_solid,
        List.reverse_reverse]
      intro d hd
      exact last d (by simpa [List.head?_reverse] using hd)

/-- The layout with nothing at its two ends. -/
def Layout.trimmed (layout : Layout) : Layout :=
  ⟨[], closeLast layout.solids, loose_nil⟩

theorem trimEnds_spread (tight : List Char) (layout : Layout)
    : trimEnds (layout.spread tight) = layout.trimmed.spread tight := by
  obtain ⟨spaces, blank, he⟩ := spreadSolids_closeLast tight layout.solids
  have bare : layout.trimmed.spread tight = spreadSolids tight (closeLast layout.solids) := by
    simp [Layout.spread, Layout.trimmed, spacing]
  rw [bare, Layout.spread, he]
  refine trimEnds_append ?_ blank ?_ (fun c => solid_of_getLast?)
  · rcases spacing_eq tight none layout.margin (firstChar layout.solids) with hm | hm <;>
      simp [hm]
  · intro c hc
    rw [head?_spreadSolids] at hc
    exact solid_of_firstChar hc

-----------------------------------------------------------------------------------------
-- All rules together
-----------------------------------------------------------------------------------------

/-- What stands between a solid character and those behind it: a space if it has a gap
and neither neighbour of the gap is a mark, nothing at the end.
-/
def between (first : Solid) : List Solid → List Char
  | [] => []
  | second :: _ =>
      if first.gap ≠ [] ∧ first.char ∉ marks ∧ second.char ∉ marks then [' '] else []

/-- The minified form of solid characters, read off them in one pass: every character but
the semicolons whose next one is a closing brace, and what stands between the characters.
-/
def assemble : List Solid → List Char
  | [] => []
  | first :: rest =>
      (if first.char = ';' ∧ firstChar rest = some '}' then [] else [first.char])
        ++ between first rest
        ++ assemble rest

theorem between_eq (first : Solid) (rest : List Solid)
    : between first rest = []
      ∨ between first rest = [' ']
        ∧ first.char ∉ marks
        ∧ ∃ next, firstChar rest = some next ∧ next ∉ marks := by
  cases rest with
  | nil => exact Or.inl rfl
  | cons second rest =>
      rw [between]
      split
      · next h => exact Or.inr ⟨rfl, h.2.1, second.char, rfl, h.2.2⟩
      · exact Or.inl rfl

theorem between_of_mark {first : Solid} (h : first.char ∈ marks) (rest : List Solid)
    : between first rest = [] :=
  (between_eq first rest).resolve_right fun space => space.2.1 h

theorem between_loose (first : Solid) (rest : List Solid)
    : (between first rest).all isFiller = true := by
  rcases between_eq first rest with he | ⟨he, _⟩
  · rw [he]
    rfl
  · rw [he]
    rfl

theorem between_eq_nil_iff {first : Solid} {rest : List Solid} {next : Char}
    (hf : first.char ∉ marks) (head : firstChar rest = some next) (hn : next ∉ marks)
    : between first rest = [] ↔ first.gap = [] := by
  cases rest with
  | nil => simp [firstChar] at head
  | cons second rest =>
      obtain rfl := Option.some.inj head
      simp [between, hf, hn]

theorem assemble_of_last {first : Solid} {rest : List Solid}
    (h : first.char = ';' ∧ firstChar rest = some '}')
    : assemble (first :: rest) = assemble rest := by
  have mark : first.char ∈ marks := h.1 ▸ semicolon_mem_marks
  rw [assemble, if_pos h, between_of_mark mark]
  rfl

theorem assemble_of_kept {first : Solid} {rest : List Solid}
    (h : ¬ (first.char = ';' ∧ firstChar rest = some '}'))
    : assemble (first :: rest) = first.char :: (between first rest ++ assemble rest) := by
  rw [assemble, if_neg h]
  rfl

/-- Every character of an assembled text is a space or one of the solid characters. -/
theorem mem_assemble {solids : List Solid} {c : Char} (h : c ∈ assemble solids)
    : c = ' ' ∨ ∃ solid ∈ solids, solid.char = c := by
  induction solids with
  | nil => simp [assemble] at h
  | cons first rest ih =>
      rw [assemble, List.append_assoc, List.mem_append, List.mem_append] at h
      rcases h with own | space | later
      · have same : c = first.char := by
          split at own
          · simp at own
          · simpa using own
        exact Or.inr ⟨first, by simp, same.symm⟩
      · rcases between_eq first rest with he | ⟨he, _⟩
        · simp [he] at space
        · exact Or.inl (by simpa [he] using space)
      · obtain he | ⟨solid, member, same⟩ := ih later
        · exact Or.inl he
        · exact Or.inr ⟨solid, by simp [member], same⟩

theorem weight_between (weight : Char → Nat) (light : ∀ c, weight ' ' ≤ weight c)
    (first : Solid) (rest : List Solid)
    : ((between first rest).map weight).sum ≤ (first.gap.map weight).sum := by
  cases rest with
  | nil => simp [between]
  | cons second rest =>
      rw [between]
      split
      · next open_ =>
          obtain ⟨c, gap, he⟩ := List.exists_cons_of_ne_nil open_.1
          have := light c
          simp only [he, List.map_cons, List.map_nil, List.sum_cons, List.sum_nil]
          omega
      · simp

theorem pair_infix_cons {a b c : Char} {text : List Char}
    : [a, b] <:+: c :: text ↔ (c = a ∧ text.head? = some b) ∨ [a, b] <:+: text := by
  rw [List.infix_cons_iff, List.cons_prefix_cons, @eq_comm _ a c]
  cases text with
  | nil => simp
  | cons d rest => simp [List.cons_prefix_cons, @eq_comm _ b d]

/-- Assembling never adds weight to a text if no character is lighter than a space, and a
dropped semicolon takes its own weight away.
-/
theorem weight_assemble (weight : Char → Nat) (light : ∀ c, weight ' ' ≤ weight c)
    (solids : List Solid)
    : ((assemble solids).map weight).sum ≤ ((solids.flatMap Solid.text).map weight).sum
      ∧ ([';', '}'] <:+: solids.map Solid.char
          → ((assemble solids).map weight).sum + weight ';'
            ≤ ((solids.flatMap Solid.text).map weight).sum) := by
  induction solids with
  | nil => simp [assemble]
  | cons first rest ih =>
      have space := weight_between weight light first rest
      have text
          : (((first :: rest).flatMap Solid.text).map weight).sum
            = weight first.char + (first.gap.map weight).sum
              + ((rest.flatMap Solid.text).map weight).sum := by
        simp [Solid.text, Nat.add_assoc]
      by_cases h : first.char = ';' ∧ firstChar rest = some '}'
      · rw [assemble_of_last h, text, h.1]
        have := ih.1
        exact ⟨by omega, fun _ => by omega⟩
      · have kept
            : ((assemble (first :: rest)).map weight).sum
              = weight first.char + ((between first rest).map weight).sum
                + ((assemble rest).map weight).sum := by
          rw [assemble_of_kept h]
          simp [Nat.add_assoc]
        rw [kept, text]
        have := ih.1
        refine ⟨by omega, fun pair => ?_⟩
        have later : [';', '}'] <:+: rest.map Solid.char := by
          refine (pair_infix_cons.mp pair).resolve_left fun here => h ⟨here.1, ?_⟩
          simpa [firstChar] using here.2
        have := ih.2 later
        omega

/-- Assembling never lengthens a text, and a dropped semicolon shortens it. -/
theorem length_assemble (solids : List Solid)
    : (assemble solids).length ≤ (solids.flatMap Solid.text).length
      ∧ ([';', '}'] <:+: solids.map Solid.char
          → (assemble solids).length < (solids.flatMap Solid.text).length) := by
  simpa [Nat.add_one_le_iff] using
    weight_assemble (fun _ => 1) (fun _ => Nat.le_refl 1) solids

theorem elide_ne_nil (first : Solid) (rest : List Solid)
    : elide (first :: rest) ≠ [] := by
  induction rest generalizing first with
  | nil => simp [elide, firstChar]
  | cons second rest ih =>
      rw [elide]
      split
      · exact ih second
      · simp

theorem closeLast_cons (first : Solid) {rest : List Solid} (h : rest ≠ [])
    : closeLast (first :: rest) = first :: closeLast rest := by
  cases rest with
  | nil => exact absurd rfl h
  | cons second rest => rfl

/-- The last two rules assemble what the other rules have spread, by induction from the
right.
-/
theorem spreadSolids_marks (solids : List Solid)
    : spreadSolids marks (closeLast (elide solids)) = assemble solids := by
  induction solids with
  | nil => rfl
  | cons first rest ih =>
      by_cases h : first.char = ';' ∧ firstChar rest = some '}'
      · rw [elide, if_pos h, ih, assemble_of_last h]
      · rw [elide, if_neg h, assemble_of_kept h]
        cases rest with
        | nil => simp [elide, closeLast, spreadSolids, spacing, firstChar, between, assemble]
        | cons second rest =>
            -- Eliding never drops the last solid character, so closing the end commutes
            -- with it.
            rw [closeLast_cons _ (elide_ne_nil _ _), spreadSolids, ih, firstChar_closeLast,
              spacing_elide semicolon_mem_marks brace_mem_marks]
            by_cases hf : first.char ∈ marks <;> by_cases hn : second.char ∈ marks <;>
              simp [spacing, between, firstChar, hf, hn]

theorem head?_assemble (solids : List Solid)
    : (assemble solids).head? = firstChar (elide solids) := by
  rw [← spreadSolids_marks, head?_spreadSolids, firstChar_closeLast]

/-- The first character is kept, unless it is a semicolon whose next one is a closing
brace.
-/
theorem firstChar_elide (solids : List Solid)
    : firstChar (elide solids)
      = if [';', '}'] <+: solids.map Solid.char then some '}' else firstChar solids := by
  cases solids with
  | nil => rfl
  | cons first rest =>
      have pair
          : [';', '}'] <+: (first :: rest).map Solid.char
            ↔ first.char = ';' ∧ firstChar rest = some '}' := by
        cases rest <;> simp [List.cons_prefix_cons, firstChar, eq_comm]
      by_cases h : first.char = ';' ∧ firstChar rest = some '}'
      · rw [elide, if_pos h, if_pos (pair.mpr h)]
        cases rest with
        | nil => simp [firstChar] at h
        | cons second rest =>
            have brace : second.char = '}' := Option.some.inj h.2
            rw [elide, if_neg (by simp [brace])]
            exact congrArg some brace
      · rw [elide, if_neg h, if_neg (pair.not.mpr h)]
        rfl

/-- The minified form of a layout. -/
def Layout.assembled (layout : Layout) : List Char :=
  assemble layout.solids

theorem applyAll_spacing (layout : Layout)
    : applyAll
          (.collapseFillers :: marks.map .tighten ++ [.dropLastSemicolons, .trimEnds])
          layout.text
      = layout.assembled := by
  have solid : ∀ mark ∈ marks, isFiller mark = false := fun _ => not_isFiller_of_mark
  have unrolled
      : applyAll
            (.collapseFillers :: marks.map .tighten ++ [.dropLastSemicolons, .trimEnds])
            layout.text
        = trimEnds
            (dropLastSemicolons
              (applyAll (marks.map .tighten) (collapseFillers layout.text))) := by
    simp [applyAll, Rule.apply]
  have same : ∀ c, c ∈ marks.reverse ++ [] ↔ c ∈ marks := by simp
  rw [unrolled, collapseFillers_text, applyAll_tighten solid, spread_congr same,
    dropLastSemicolons_spread semicolon_mem_marks brace_mem_marks, trimEnds_spread]
  simp [Layout.spread, Layout.trimmed, Layout.elided, spacing, spreadSolids_marks,
    Layout.assembled]

/-- A stylesheet is minified by assembling the layout of its text without comments. -/
theorem minify_eq (text : List Char)
    : minify text = (Layout.ofText (dropComments text)).assembled := by
  have first
      : minify text
        = applyAll
            (.collapseFillers :: marks.map .tighten ++ [.dropLastSemicolons, .trimEnds])
            (dropComments text) := by
    simp only [minify, rules, applyAll, List.cons_append, List.nil_append, List.foldl_cons,
      Rule.apply]
  rw [first, ← applyAll_spacing, Layout.text_ofText]

/-- The rules in a row equal one pass: the text without comments has exactly one layout,
whose solid characters are the characters of that text that are no fillers, in order, and
whose assembly is the minified form.
-/
theorem minify_assembles_layout (text : List Char)
    : (∃! layout : Layout, layout.text = dropComments text)
      ∧ ∀ layout : Layout,
          layout.text = dropComments text
          → layout.solids.map Solid.char = (dropComments text).filter (!isFiller ·)
            ∧ minify text = layout.assembled := by
  refine ⟨⟨Layout.ofText (dropComments text), Layout.text_ofText _, ?_⟩, ?_⟩
  · intro other he
    rw [← he, Layout.ofText_text]
  · intro layout he
    refine ⟨he ▸ layout.map_char_solids, ?_⟩
    rw [minify_eq, ← he, Layout.ofText_text]

end CssMinifier.Stylesheet
