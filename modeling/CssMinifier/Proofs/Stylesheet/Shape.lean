import CssMinifier.Proofs.Stylesheet.Idempotence

/-! The shape of minified texts, read off their pieces: the characters, the pairs of neighbours
and the two ends that a compact text may have, and the two residues that a minified text keeps
exactly if they stand in the text without comments.
-/

namespace CssMinifier.Stylesheet

open CssMinifier.Text

-----------------------------------------------------------------------------------------
-- Compact texts by their pieces
-----------------------------------------------------------------------------------------

/-- A text by the characters, the pairs of neighbours and the ends that it lacks: its only
blank is the space, it holds no byte order mark, and no space stands beside a space, beside a
mark or at an end.
-/
structure WellSpaced (text : List Char) : Prop where
  blanks : ∀ c ∈ text, isBlank c = true → c = ' '
  unmarked : byteOrderMark ∉ text
  single : ¬ [' ', ' '] <:+: text
  tight : ∀ mark ∈ marks, ¬ [' ', mark] <:+: text ∧ ¬ [mark, ' '] <:+: text
  first : text.head? ≠ some ' '
  last : text.getLast? ≠ some ' '

/-- A text is a chain exactly if every pair of neighbours in it is related. -/
theorem isChain_iff_pairs {Related : Char → Char → Prop} {text : List Char}
    : text.IsChain Related
      ↔ ∀ left right, [left, right] <:+: text → Related left right := by
  constructor
  · intro chain left right pair
    have both := List.IsChain.infix chain pair
    exact List.isChain_pair.mp both
  · intro pairs
    exact (List.isChain_isInfix text).imp pairs

/-- The fillers of a text are spaces exactly if its blanks are and it holds no byte order mark.
-/
theorem fillers_iff {text : List Char}
    : (∀ c ∈ text, isFiller c = true → c = ' ')
      ↔ (∀ c ∈ text, isBlank c = true → c = ' ') ∧ byteOrderMark ∉ text := by
  constructor
  · intro spaces
    constructor
    · intro c member blank
      exact spaces c member (isFiller_of_isBlank blank)
    · intro member
      have space : byteOrderMark = ' ' := spaces byteOrderMark member rfl
      cases space
  · intro clean c member filler
    obtain ⟨spaces, unmarked⟩ := clean
    rw [isFiller, Bool.or_eq_true, beq_iff_eq] at filler
    rcases filler with blank | mark
    · exact spaces c member blank
    · exact absurd (mark ▸ member) unmarked

/-- Neighbours fit exactly if no space stands beside a space or a mark. -/
theorem neighbours_iff {text : List Char}
    : text.IsChain Fits
      ↔ ¬ [' ', ' '] <:+: text
        ∧ ∀ mark ∈ marks, ¬ [' ', mark] <:+: text ∧ ¬ [mark, ' '] <:+: text := by
  rw [isChain_iff_pairs]
  constructor
  · intro fit
    have single : ¬ [' ', ' '] <:+: text := by
      intro pair
      exact ((fit ' ' ' ' pair).behindSpace rfl).1 rfl
    refine ⟨single, fun mark known => ⟨?_, ?_⟩⟩
    · intro pair
      exact ((fit ' ' mark pair).behindSpace rfl).2 known
    · intro pair
      exact (fit mark ' ' pair).beforeSpace rfl known
  · intro apart left right pair
    obtain ⟨single, tight⟩ := apart
    constructor
    · rintro rfl
      refine ⟨?_, fun known => (tight right known).1 pair⟩
      rintro rfl
      exact single pair
    · rintro rfl known
      exact (tight left known).2 pair

theorem compact_iff_wellSpaced {text : List Char}
    : Compact text ↔ WellSpaced text := by
  constructor
  · intro compact
    obtain ⟨blanks, unmarked⟩ := fillers_iff.mp compact.fillers
    obtain ⟨single, tight⟩ := neighbours_iff.mp compact.neighbours
    exact ⟨blanks, unmarked, single, tight, compact.first, compact.last⟩
  · intro spaced
    have fillers := fillers_iff.mpr ⟨spaced.blanks, spaced.unmarked⟩
    have neighbours := neighbours_iff.mpr ⟨spaced.single, spaced.tight⟩
    exact ⟨fillers, neighbours, spaced.first, spaced.last⟩

-----------------------------------------------------------------------------------------
-- What is left for a second pass
-----------------------------------------------------------------------------------------

/-- Three solid characters are next to each other, fillers aside, exactly if they stand in the
text with gaps between them.
-/
theorem triple_infix_filter {a b c : Char} (ha : isFiller a = false) (hb : isFiller b = false)
    (hc : isFiller c = false) {text : List Char}
    : [a, b, c] <:+: text.filter (!isFiller ·)
      ↔ ∃ gap gap' : List Char,
          gap.all isFiller = true
          ∧ gap'.all isFiller = true
          ∧ a :: gap ++ b :: gap' ++ [c] <:+: text := by
  constructor
  · intro triple
    obtain ⟨_, _, whole⟩ := triple
    obtain ⟨upTo, after, rfl, whole, _⟩ := List.filter_eq_append_iff.mp whole.symm
    obtain ⟨before, _, rfl, _, kept⟩ := List.filter_eq_append_iff.mp whole
    -- The three are kept one after the other; what is dropped between two of them is a gap.
    obtain ⟨lead, _, rfl, _, _, kept⟩ := List.filter_eq_cons_iff.mp kept
    obtain ⟨gap, _, rfl, loose, _, kept⟩ := List.filter_eq_cons_iff.mp kept
    obtain ⟨gap', rest, rfl, loose', _, _⟩ := List.filter_eq_cons_iff.mp kept
    exact ⟨gap, gap', by simpa using loose, by simpa using loose', before ++ lead,
      rest ++ after, by simp⟩
  · intro spaced
    obtain ⟨gap, gap', loose, loose', before, after, rfl⟩ := spaced
    refine ⟨before.filter (!isFiller ·), after.filter (!isFiller ·), ?_⟩
    simp [filter_loose loose, filter_loose loose', ha, hb, hc]

/-- A minified text is well spaced. It holds a semicolon before a brace exactly if the text
without comments holds two before one, fillers aside, and a complete comment exactly if that
text does.
-/
theorem minify_shape (text : List Char)
    : WellSpaced (minify text)
      ∧ ([';', '}'] <:+: minify text
        ↔ ∃ gap gap' : List Char,
            gap.all isFiller = true
            ∧ gap'.all isFiller = true
            ∧ ';' :: gap ++ ';' :: gap' ++ ['}'] <:+: dropComments text)
      ∧ (HasComment (minify text) ↔ HasComment (dropComments text)) := by
  have spaced := compact_iff_wellSpaced.mp (compact_minify text)
  have pair := pair_infix_minify text
  rw [triple_infix_filter rfl rfl rfl] at pair
  exact ⟨spaced, pair, hasComment_minify_iff text⟩

/-- The texts that minify to themselves are the well spaced ones without a complete comment
and without a semicolon before a brace.
-/
theorem minify_fixed_iff (text : List Char)
    : minify text = text
      ↔ ¬ HasComment text ∧ WellSpaced text ∧ ¬ [';', '}'] <:+: text := by
  rw [minify_eq_self, compact_iff_wellSpaced]

end CssMinifier.Stylesheet
