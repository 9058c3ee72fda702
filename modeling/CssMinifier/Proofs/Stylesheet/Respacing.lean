import CssMinifier.Proofs.Stylesheet.Scan

/-! Fillers that do not matter. Beside a filler, beside a mark and at the two ends of a
stylesheet fillers may come and go, inside and outside of comments, and the minified form
stays the same.
-/

namespace CssMinifier.Stylesheet

open CssMinifier.Text

-----------------------------------------------------------------------------------------
-- Loose places
-----------------------------------------------------------------------------------------

/-- Holds for characters beside which fillers do not show. -/
def Slack (c : Char) : Prop :=
  isFiller c = true ∨ c ∈ marks
deriving Decidable

/-- Holds for a place in a text, given what is before and behind it, at an end of the text or
with a slack neighbour.
-/
def Loose (before behind : List Char) : Prop :=
  (∀ c ∈ before.getLast?, Slack c) ∨ (∀ c ∈ behind.head?, Slack c)

instance Loose.decidable (before behind : List Char) : Decidable (Loose before behind) :=
  have (option : Option Char) : Decidable (∀ c ∈ option, Slack c) := option.decidableForallMem
  inferInstanceAs (Decidable (_ ∨ _))

theorem Slack.ne_slash {c : Char} (h : Slack c)
    : c ≠ '/' := by
  rintro rfl
  rcases h with filler | mark
  · cases filler
  · exact slash_not_mem_marks mark

theorem Slack.ne_star {c : Char} (h : Slack c)
    : c ≠ '*' := by
  rintro rfl
  rcases h with filler | mark
  · cases filler
  · exact star_not_mem_marks mark

/-- Two characters that are not slack do not meet at a loose place, with fillers in it or not.
-/
theorem Loose.parted {a b : Char} (ha : ¬ Slack a) (hb : ¬ Slack b)
    {before fillers behind : List Char} (h : Loose before behind)
    (hf : fillers.all isFiller = true)
    : Parted a b before (fillers ++ behind) := by
  intro pair
  cases fillers with
  | nil =>
      rcases h with left | right
      · exact ha (left a pair.1)
      · exact hb (right b pair.2)
  | cons c rest =>
      have same : c = b := Option.some.inj pair.2
      exact hb (Or.inl (List.all_eq_true.mp hf b (by simp [same])))

theorem slash_not_slack : ¬ Slack '/' :=
  fun slack => slack.ne_slash rfl

theorem star_not_slack : ¬ Slack '*' :=
  fun slack => slack.ne_star rfl

/-- A place stays loose if the characters beside it stay. -/
theorem Loose.congr {before behind front back : List Char} (h : Loose before behind)
    (left : (∀ c ∈ before.getLast?, Slack c) → front.getLast? = before.getLast?)
    (right : (∀ c ∈ behind.head?, Slack c) → back.head? = behind.head?)
    : Loose front back := by
  rcases h with slack | slack
  · exact Or.inl (left slack ▸ slack)
  · exact Or.inr (right slack ▸ slack)

-----------------------------------------------------------------------------------------
-- Fillers in a text with comments
-----------------------------------------------------------------------------------------

theorem dropComments_fillers {fillers : List Char} (h : fillers.all isFiller = true)
    (text : List Char)
    : dropComments (fillers ++ text) = fillers ++ dropComments text := by
  induction fillers with
  | nil => rfl
  | cons c rest ih =>
      rw [List.all_cons, Bool.and_eq_true] at h
      rw [List.cons_append, dropComments_cons_filler h.1, ih h.2, List.cons_append]

theorem afterCloser_fillers {fillers : List Char} (h : fillers.all isFiller = true)
    (text : List Char)
    : afterCloser (fillers ++ text) = afterCloser text := by
  have solid {c : Char} (hc : isFiller c = false) : c ∉ fillers := by
    intro member
    rw [List.all_eq_true.mp h c member] at hc
    cases hc
  refine afterCloser_append (fun pair => ?_) (fun pair => ?_)
  · exact solid (c := '*') rfl (pair.subset (by simp))
  · exact solid (c := '*') rfl (List.mem_of_getLast? pair.1)

theorem head?_dropComments {text : List Char} (h : text.head? ≠ some '/')
    : (dropComments text).head? = text.head? := by
  cases text with
  | nil => simp [dropComments]
  | cons c rest =>
      have shut : ¬ (c = '/' ∧ rest.head? = some '*') := fun opens => h (congrArg some opens.1)
      rw [dropComments_cons shut]
      rfl

theorem ne_some_of_slack {c : Char} {option : Option Char} (h : ∀ d ∈ option, Slack d)
    (hc : ¬ Slack c)
    : option ≠ some c :=
  fun same => hc (h c same)

/-- Outside of comments a slack neighbour of a place stays beside it. -/
theorem Closed.loose_dropComments {before behind : List Char} (closed : Closed before)
    (h : Loose before behind)
    : Loose (dropComments before) (dropComments behind) := by
  refine h.congr (fun slack => ?_) (fun slack => ?_)
  · exact closed.getLast?_dropComments (ne_some_of_slack slack slash_not_slack)
  · exact head?_dropComments (ne_some_of_slack slack slash_not_slack)

/-- A loose place behind an open comment parts no closer. -/
theorem Loose.parted_inside {start inside fillers behind : List Char}
    (h : Loose (start ++ '/' :: '*' :: inside) behind) (hf : fillers.all isFiller = true)
    : Parted '*' '/' inside (fillers ++ behind) := by
  intro pair
  refine h.parted star_not_slack slash_not_slack hf ⟨?_, pair.2⟩
  simp [List.getLast?_append, List.getLast?_cons, pair.1]

/-- Fillers at a loose place go with a comment or stand at a loose place of the text without
comments.
-/
theorem loose_dropComments {before fillers behind : List Char} (h : Loose before behind)
    (hf : fillers.all isFiller = true)
    : ∃ front gap back,
        Loose front back
        ∧ gap.all isFiller = true
        ∧ dropComments (before ++ (fillers ++ behind)) = front ++ (gap ++ back)
        ∧ dropComments (before ++ behind) = front ++ back := by
  rcases closed_or_open before with closed | ⟨start, inside, closed, unclosed, rfl⟩
  · refine ⟨dropComments before, fillers, dropComments behind, closed.loose_dropComments h, hf,
      ?_, ?_⟩
    · rw [closed.dropComments_append (h.parted slash_not_slack star_not_slack hf),
        dropComments_fillers hf]
    · exact closed.dropComments_append (h.parted slash_not_slack star_not_slack loose_nil)
  · have bare := closed.dropComments_open unclosed (h.parted_inside loose_nil)
    rw [List.nil_append] at bare
    rw [closed.dropComments_open unclosed (h.parted_inside hf), afterCloser_fillers hf, bare]
    -- With a closer behind it the place is in a comment, without one it is kept as it stands.
    cases afterCloser behind with
    | some after =>
        refine ⟨dropComments start ++ dropComments after, [], [], ?_, loose_nil, ?_, ?_⟩
        · exact Or.inr (by simp)
        · simp
        · simp
    | none =>
        refine ⟨dropComments start ++ '/' :: '*' :: inside, fillers, behind, ?_, hf, ?_, ?_⟩
        · refine h.congr (fun _ => ?_) (fun _ => rfl)
          simp [List.getLast?_append, List.getLast?_cons]
        · simp
        · simp

-----------------------------------------------------------------------------------------
-- Gaps that do not show
-----------------------------------------------------------------------------------------

/-- The same characters in order, with gaps at the same places: between two characters that
are no marks both have a gap or none has.
-/
inductive SameGaps : List Solid → List Solid → Prop
  | nil : SameGaps [] []
  | cons {first other : Solid} {rest behind : List Solid}
      (char : first.char = other.char)
      (gap : first.char ∈ marks
        ∨ (∀ c ∈ firstChar rest, c ∈ marks)
        ∨ (first.gap = [] ↔ other.gap = []))
      (later : SameGaps rest behind)
      : SameGaps (first :: rest) (other :: behind)

theorem SameGaps.cons_iff {first other : Solid} {rest behind : List Solid}
    : SameGaps (first :: rest) (other :: behind)
      ↔ first.char = other.char
        ∧ (first.char ∈ marks
          ∨ (∀ c ∈ firstChar rest, c ∈ marks)
          ∨ (first.gap = [] ↔ other.gap = []))
        ∧ SameGaps rest behind := by
  constructor
  · rintro (_ | ⟨char, gap, later⟩)
    exact ⟨char, gap, later⟩
  · rintro ⟨char, gap, later⟩
    exact .cons char gap later

instance SameGaps.decidable : (solids others : List Solid) → Decidable (SameGaps solids others)
  | [], [] => isTrue .nil
  | [], _ :: _ => isFalse nofun
  | _ :: _, [] => isFalse nofun
  | _ :: rest, _ :: behind =>
      have := SameGaps.decidable rest behind
      have (solids : List Solid) : Decidable (∀ c ∈ firstChar solids, c ∈ marks) :=
        (firstChar solids).decidableForallMem
      decidable_of_iff' _ SameGaps.cons_iff

theorem SameGaps.refl (solids : List Solid)
    : SameGaps solids solids := by
  induction solids with
  | nil => exact .nil
  | cons first rest ih => exact .cons rfl (Or.inr (Or.inr Iff.rfl)) ih

theorem SameGaps.firstChar_eq {solids others : List Solid} (h : SameGaps solids others)
    : firstChar solids = firstChar others := by
  cases h with
  | nil => rfl
  | cons char _ _ => exact congrArg some char

theorem SameGaps.between_eq {first other : Solid} {rest behind : List Solid}
    (h : SameGaps (first :: rest) (other :: behind))
    : between first rest = between other behind := by
  obtain ⟨char, gap, later⟩ := SameGaps.cons_iff.mp h
  cases later with
  | nil => rfl
  | @cons second _ _ _ next _ _ =>
      rw [between, between, ← char, ← next]
      refine if_congr ?_ rfl rfl
      rcases gap with mark | right | same
      · simp [mark]
      · have mark : second.char ∈ marks := right second.char rfl
        simp [mark]
      · rw [Ne, Ne, same]

/-- Gaps that do not show are assembled to the same text, by induction on the characters. -/
theorem SameGaps.assemble_eq {solids others : List Solid} (h : SameGaps solids others)
    : assemble solids = assemble others := by
  induction h with
  | nil => rfl
  | cons char gap later ih =>
      have space := (SameGaps.cons char gap later).between_eq
      rw [assemble, assemble, char, later.firstChar_eq, ih, space]

/-- The gap of a solid character before a loose place does not show the fillers there. -/
theorem Loose.gap {c : Char} {fillers behind : List Char} (h : Loose [c] behind)
    (hc : isFiller c = false) (hf : fillers.all isFiller = true)
    : c ∈ marks
      ∨ (∀ d ∈ firstChar (Layout.ofText (fillers ++ behind)).solids, d ∈ marks)
      ∨ ((Layout.ofText (fillers ++ behind)).margin = []
        ↔ (Layout.ofText behind).margin = []) := by
  rcases h with left | right
  · have slack : Slack c := left c rfl
    exact Or.inl (slack.resolve_left (by simp [hc]))
  · rw [(Layout.ofText_append hf behind).2, (Layout.ofText_append hf behind).1]
    cases behind with
    | nil => exact Or.inr (Or.inl (by simp [Layout.ofText, firstChar]))
    | cons d rest =>
        have slack : Slack d := right d rfl
        cases hd : isFiller d with
        | true => simp [(Layout.ofText_cons_filler hd rest).1]
        | false =>
            have mark : d ∈ marks := slack.resolve_left (by simp [hd])
            rw [(Layout.ofText_cons_solid hd rest).2]
            exact Or.inr (Or.inl fun e he => Option.some.inj he ▸ mark)

/-- Fillers at a loose place do not show, by induction on the text before it. -/
theorem Loose.sameGaps {before fillers behind : List Char} (h : Loose before behind)
    (hf : fillers.all isFiller = true)
    : SameGaps (Layout.ofText (before ++ (fillers ++ behind))).solids
        (Layout.ofText (before ++ behind)).solids := by
  induction before with
  | nil =>
      rw [List.nil_append, List.nil_append, (Layout.ofText_append hf behind).2]
      exact .refl _
  | cons c rest ih =>
      have inner : Loose rest behind := by
        refine h.imp_left fun slack d hd => slack d ?_
        rw [Option.mem_def] at hd
        simp [List.getLast?_cons, hd]
      rw [List.cons_append, List.cons_append]
      cases hc : isFiller c with
      | true =>
          rw [(Layout.ofText_cons_filler hc _).2, (Layout.ofText_cons_filler hc _).2]
          exact ih inner
      | false =>
          rw [(Layout.ofText_cons_solid hc _).2, (Layout.ofText_cons_solid hc _).2]
          refine .cons rfl ?_ (ih inner)
          cases rest with
          | nil => exact h.gap hc hf
          | cons d rest =>
              refine Or.inr (Or.inr ?_)
              rw [Layout.margin_eq_nil_iff, Layout.margin_eq_nil_iff]
              rfl

-----------------------------------------------------------------------------------------
-- Minified forms
-----------------------------------------------------------------------------------------

/-- Fillers at a loose place do not matter. -/
theorem Loose.minify_eq {before fillers behind : List Char} (h : Loose before behind)
    (hf : fillers.all isFiller = true)
    : minify (before ++ (fillers ++ behind)) = minify (before ++ behind) := by
  obtain ⟨front, gap, back, place, hg, filled, bare⟩ := loose_dropComments h hf
  rw [Stylesheet.minify_eq, Stylesheet.minify_eq, filled, bare]
  exact (place.sameGaps hg).assemble_eq

theorem loose_behind_fillers {fillers : List Char} (h : fillers.all isFiller = true)
    (hne : fillers ≠ []) (before behind : List Char)
    : Loose (before ++ fillers) behind := by
  refine Or.inl fun c hc => Or.inl ?_
  rw [List.getLast?_append_of_ne_nil _ hne] at hc
  exact List.all_eq_true.mp h c (List.mem_of_getLast? hc)

theorem loose_before_fillers {fillers : List Char} (h : fillers.all isFiller = true)
    (hne : fillers ≠ []) (before behind : List Char)
    : Loose before (fillers ++ behind) := by
  refine Or.inr fun c hc => Or.inl ?_
  rw [List.head?_append_of_ne_nil _ hne] at hc
  exact List.all_eq_true.mp h c (List.mem_of_head? hc)

/-- A run of fillers may become any other run. -/
theorem minify_swap_run {run other : List Char} (hr : run.all isFiller = true)
    (ho : other.all isFiller = true) (same : run = [] ↔ other = []) (before behind : List Char)
    : minify (before ++ (run ++ behind)) = minify (before ++ (other ++ behind)) := by
  by_cases empty : run = []
  · rw [empty, same.mp empty]
  · have filled : other ≠ [] := same.not.mp empty
    calc minify (before ++ (run ++ behind))
      _ = minify (before ++ run ++ behind) := by rw [List.append_assoc]
      _ = minify (before ++ run ++ (other ++ behind)) :=
          ((loose_behind_fillers hr empty before behind).minify_eq ho).symm
      _ = minify (before ++ (run ++ (other ++ behind))) := by rw [List.append_assoc]
      _ = minify (before ++ (other ++ behind)) :=
          (loose_before_fillers ho filled before behind).minify_eq hr

/-- Gaps that do not show do not matter behind any text, by induction on the characters. -/
theorem SameGaps.minify_append {solids others : List Solid} (h : SameGaps solids others)
    (before : List Char)
    : minify (before ++ solids.flatMap Solid.text)
      = minify (before ++ others.flatMap Solid.text) := by
  induction h generalizing before with
  | nil => rfl
  | @cons first other rest behind char gap later ih =>
      have either (loose : Loose (before ++ [first.char]) (rest.flatMap Solid.text))
          : minify (before ++ [first.char] ++ (first.gap ++ rest.flatMap Solid.text))
            = minify (before ++ [first.char] ++ (other.gap ++ rest.flatMap Solid.text)) :=
        (loose.minify_eq first.loose).trans (loose.minify_eq other.loose).symm
      have swap
          : minify (before ++ [first.char] ++ (first.gap ++ rest.flatMap Solid.text))
            = minify (before ++ [first.char] ++ (other.gap ++ rest.flatMap Solid.text)) := by
        rcases gap with mark | right | same
        · exact either (Or.inl (by simp [Slack, mark]))
        · refine either (Or.inr fun c hc => Or.inr (right c ?_))
          rwa [head?_textOf] at hc
        · exact minify_swap_run first.loose other.loose same _ _
      calc minify (before ++ (first :: rest).flatMap Solid.text)
        _ = minify (before ++ [first.char] ++ (first.gap ++ rest.flatMap Solid.text)) := by
            simp [Solid.text]
        _ = minify (before ++ [first.char] ++ (other.gap ++ rest.flatMap Solid.text)) := swap
        _ = minify (before ++ [first.char] ++ other.gap ++ rest.flatMap Solid.text) := by
            rw [List.append_assoc _ other.gap]
        _ = minify (before ++ [first.char] ++ other.gap ++ behind.flatMap Solid.text) := ih _
        _ = minify (before ++ (other :: behind).flatMap Solid.text) := by
            simp [Solid.text, char]

/-- Holds for texts that differ only in the fillers within runs of fillers, beside marks and
at their ends.
-/
def SameSpacing (text other : List Char) : Prop :=
  SameGaps (Layout.ofText text).solids (Layout.ofText other).solids
deriving Decidable

theorem minify_solids (text : List Char)
    : minify ((Layout.ofText text).solids.flatMap Solid.text) = minify text := by
  have start : Loose [] ((Layout.ofText text).solids.flatMap Solid.text) := Or.inl (by simp)
  have margin := start.minify_eq (Layout.ofText text).loose
  rw [List.nil_append, List.nil_append] at margin
  rw [← margin, ← Layout.text, Layout.text_ofText]

/-- Fillers that do not show do not matter. -/
theorem SameSpacing.minify_eq {text other : List Char} (h : SameSpacing text other)
    : minify text = minify other := by
  calc minify text
    _ = minify ((Layout.ofText text).solids.flatMap Solid.text) := (minify_solids text).symm
    _ = minify ((Layout.ofText other).solids.flatMap Solid.text) := SameGaps.minify_append h []
    _ = minify other := minify_solids other

/-- Fillers may be put in or taken out beside a filler, beside a mark and at the ends, and
texts that differ only in such fillers are minified to the same text.
-/
theorem minify_respaced
    : (∀ before fillers behind : List Char,
        fillers.all isFiller = true
        → Loose before behind
        → minify (before ++ fillers ++ behind) = minify (before ++ behind))
      ∧ ∀ text other : List Char, SameSpacing text other → minify text = minify other := by
  constructor
  · intro before fillers behind hf place
    rw [List.append_assoc]
    exact place.minify_eq hf
  · intro text other same
    exact same.minify_eq

/-- A line feed inside of a comment and the spacing around a brace do not matter. -/
theorem minify_respaced_brace
    : minify ("a/*".toList ++ ['\n'] ++ " ,*/\x7b".toList)
        = minify ("a/*".toList ++ " ,*/\x7b".toList)
      ∧ minify "a \x7b b".toList = minify "a\t\x7bb\n".toList :=
  ⟨minify_respaced.1 _ _ _ rfl (by decide), minify_respaced.2 _ _ (by decide)⟩

end CssMinifier.Stylesheet
