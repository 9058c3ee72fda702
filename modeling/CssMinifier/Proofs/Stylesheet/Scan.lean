import CssMinifier.Proofs.Stylesheet.Comment

/-! Scans of a text: plain stretches with a comment behind each, and a rest without a
complete comment. Every text has exactly one scan, and what is left of it once comments are
removed are the plain stretches and the rest.
-/

namespace CssMinifier.Stylesheet

-----------------------------------------------------------------------------------------
-- The first place of a pair
-----------------------------------------------------------------------------------------

/-- Holds for a text that ends in a pair of characters and holds it nowhere earlier. -/
structure EndsInFirst (a b : Char) (text : List Char) : Prop where
  last : [a, b] <:+ text
  earlier : ¬ [a, b] <:+: text.dropLast

theorem pair_infix_concat {a b : Char} (hne : a ≠ b) {text : List Char}
    : [a, b] <:+: text ++ [a] ↔ [a, b] <:+: text := by
  induction text with
  | nil => simp [List.infix_cons_iff]
  | cons c rest ih =>
      rw [List.cons_append, pair_infix_cons, pair_infix_cons, ih]
      cases rest with
      | nil => simp [hne]
      | cons d rest => rfl

/-- Of two different characters no first place of the pair overlaps a second one. -/
theorem endsInFirst_append {a b : Char} (hne : a ≠ b) {text : List Char}
    : EndsInFirst a b (text ++ [a, b]) ↔ ¬ [a, b] <:+: text := by
  have shorter : (text ++ [a, b]).dropLast = text ++ [a] := by simp
  rw [← pair_infix_concat hne, ← shorter]
  exact ⟨EndsInFirst.earlier, fun none => ⟨List.suffix_append text [a, b], none⟩⟩

/-- Where a text is cut behind the first place of a pair, it is cut in one way. -/
theorem EndsInFirst.unique {a b : Char} {first other rest tail : List Char}
    (hf : EndsInFirst a b first) (ho : EndsInFirst a b other)
    (h : first ++ rest = other ++ tail)
    : first = other ∧ rest = tail := by
  -- Of two such heads neither goes on behind the other.
  have whole {short long : List Char} (hs : EndsInFirst a b short) (hl : EndsInFirst a b long)
      (head : short <+: long)
      : short = long := by
    obtain ⟨more, rfl⟩ := head
    by_cases hm : more = []
    · simp [hm]
    · refine absurd ?_ hl.earlier
      rw [List.dropLast_append_of_ne_nil hm]
      exact hs.last.isInfix.trans (List.prefix_append _ _).isInfix
  have same : first = other := by
    rcases List.prefix_or_prefix_of_prefix ⟨rest, h⟩ (List.prefix_append other tail)
      with head | head
    · exact whole hf ho head
    · exact (whole ho hf head).symm
  exact ⟨same, List.append_cancel_left (same ▸ h)⟩

/-- A text that holds a pair can be cut at the first one, by induction on the text. -/
theorem cut_at_first {a b : Char} {text : List Char} (h : [a, b] <:+: text)
    : ∃ before behind, ¬ [a, b] <:+: before ∧ text = before ++ a :: b :: behind := by
  induction text with
  | nil => simp at h
  | cons c rest ih =>
      by_cases here : c = a ∧ rest.head? = some b
      · obtain ⟨rfl, head⟩ := here
        obtain ⟨behind, rfl⟩ := List.head?_eq_some_iff.mp head
        exact ⟨[], behind, by simp, rfl⟩
      · obtain ⟨before, behind, none, rfl⟩ := ih ((pair_infix_cons.mp h).resolve_left here)
        refine ⟨c :: before, behind, fun pair => ?_, rfl⟩
        rcases pair_infix_cons.mp pair with ⟨same, head⟩ | inner
        · exact here ⟨same, by simp [List.head?_append, head]⟩
        · exact none inner

/-- Holds for texts that make no pair of the characters where they meet. -/
def Parted (a b : Char) (before behind : List Char) : Prop :=
  ¬ (before.getLast? = some a ∧ behind.head? = some b)

theorem Parted.of_cons {a b c : Char} {rest behind : List Char}
    (h : Parted a b (c :: rest) behind) (inner : ¬ (c = a ∧ rest.head? = some b))
    : ¬ (c = a ∧ (rest ++ behind).head? = some b) ∧ Parted a b rest behind := by
  constructor
  · cases rest with
    | nil => exact fun pair => h ⟨by simp [pair.1], pair.2⟩
    | cons d rest => exact inner
  · intro pair
    exact h ⟨by simp [List.getLast?_cons, pair.1], pair.2⟩

/-- The search for a closer passes over text without one that makes none with what is behind
it, by induction on the text.
-/
theorem afterCloser_append {inside behind : List Char} (h : ¬ ['*', '/'] <:+: inside)
    (parted : Parted '*' '/' inside behind)
    : afterCloser (inside ++ behind) = afterCloser behind := by
  induction inside with
  | nil => rfl
  | cons c rest ih =>
      rw [pair_infix_cons, not_or] at h
      obtain ⟨shut, later⟩ := parted.of_cons h.1
      rw [List.cons_append, afterCloser, ih h.2 later]
      intro after star slash
      exact shut ⟨star, by simp [slash]⟩

/-- A closer is found at its first place. -/
theorem afterCloser_first {inside : List Char} (h : ¬ ['*', '/'] <:+: inside)
    (behind : List Char)
    : afterCloser (inside ++ '*' :: '/' :: behind) = some behind :=
  afterCloser_append h (by simp [Parted])

-----------------------------------------------------------------------------------------
-- Scans
-----------------------------------------------------------------------------------------

/-- A plain stretch of text that runs up to the first opener behind its start, and the
comment there: an opener and a body that runs up to the first closer.
-/
@[ext]
structure Piece where
  plain : List Char
  body : List Char
  opens : EndsInFirst '/' '*' (plain ++ ['/', '*'])
  closes : EndsInFirst '*' '/' body

def Piece.comment (piece : Piece) : List Char :=
  '/' :: '*' :: piece.body

def Piece.text (piece : Piece) : List Char :=
  piece.plain ++ piece.comment

/-- A text as stretches with a comment behind each, and a rest in which no opener has a
closer behind it.
-/
@[ext]
structure Scan where
  pieces : List Piece
  rest : List Char
  clean : ¬ HasComment rest

/-- The text that is scanned. -/
def Scan.text (scan : Scan) : List Char :=
  scan.pieces.flatMap Piece.text ++ scan.rest

/-- The text without the comments of its scan. -/
def Scan.plain (scan : Scan) : List Char :=
  scan.pieces.flatMap Piece.plain ++ scan.rest

theorem Piece.not_opener (piece : Piece)
    : ¬ ['/', '*'] <:+: piece.plain :=
  (endsInFirst_append (by decide)).mp piece.opens

/-- The text of a comment between its opener and its closer. -/
theorem Piece.exists_inside (piece : Piece)
    : ∃ inside, ¬ ['*', '/'] <:+: inside ∧ piece.body = inside ++ ['*', '/'] := by
  obtain ⟨inside, he⟩ := piece.closes.last
  exact ⟨inside, (endsInFirst_append (by decide)).mp (he ▸ piece.closes), he.symm⟩

theorem Piece.hasComment (piece : Piece) (text : List Char)
    : HasComment (piece.text ++ text) := by
  obtain ⟨inside, _, he⟩ := piece.exists_inside
  exact ⟨piece.plain, inside, text, by simp [Piece.text, Piece.comment, he]⟩

/-- A text starts with one piece at most. -/
theorem Piece.unique {piece other : Piece} {rest tail : List Char}
    (h : piece.text ++ rest = other.text ++ tail)
    : piece = other ∧ rest = tail := by
  have opened
      : (piece.plain ++ ['/', '*']) ++ (piece.body ++ rest)
        = (other.plain ++ ['/', '*']) ++ (other.body ++ tail) := by
    simpa [Piece.text, Piece.comment] using h
  obtain ⟨plain, closed⟩ := piece.opens.unique other.opens opened
  obtain ⟨body, behind⟩ := piece.closes.unique other.closes closed
  exact ⟨Piece.ext (List.append_cancel_right plain) body, behind⟩

/-- Texts with one text have one scan, by induction on the pieces. -/
theorem Scan.unique {scan other : Scan} (h : scan.text = other.text)
    : scan = other := by
  obtain ⟨pieces, rest, clean⟩ := scan
  obtain ⟨others, tail, tidy⟩ := other
  simp only [Scan.text] at h
  have same : pieces = others ∧ rest = tail := by
    induction pieces generalizing others with
    | nil =>
        cases others with
        | nil => exact ⟨rfl, h⟩
        | cons other others =>
            rw [List.flatMap_cons, List.append_assoc, List.flatMap_nil, List.nil_append] at h
            exact absurd (h ▸ other.hasComment _) clean
    | cons piece pieces ih =>
        rw [List.flatMap_cons, List.append_assoc] at h
        cases others with
        | nil =>
            rw [List.flatMap_nil, List.nil_append] at h
            exact absurd (h ▸ piece.hasComment _) tidy
        | cons other others =>
            rw [List.flatMap_cons, List.append_assoc] at h
            obtain ⟨rfl, later⟩ := Piece.unique h
            obtain ⟨rfl, rfl⟩ := ih others later
            exact ⟨rfl, rfl⟩
  exact Scan.ext same.1 same.2

/-- The piece of a stretch without an opener and a comment without an inner closer. -/
def Piece.of {plain inside : List Char} (hp : ¬ ['/', '*'] <:+: plain)
    (hi : ¬ ['*', '/'] <:+: inside)
    : Piece where
  plain := plain
  body := inside ++ ['*', '/']
  opens := (endsInFirst_append (by decide)).mpr hp
  closes := (endsInFirst_append (by decide)).mpr hi

/-- A character that opens no comment goes before the first stretch of a scan. -/
theorem exists_scan_cons {c : Char} {scan : Scan}
    (h : ¬ (c = '/' ∧ scan.text.head? = some '*'))
    : ∃ wider : Scan, wider.text = c :: scan.text := by
  obtain ⟨pieces, rest, clean⟩ := scan
  cases pieces with
  | nil =>
      have still : ¬ HasComment (c :: rest) := by
        intro comment
        refine clean ((hasComment_cons.mp comment).resolve_left fun opens => h ?_)
        exact ⟨opens.1, opens.2.1⟩
      exact ⟨⟨[], c :: rest, still⟩, rfl⟩
  | cons piece pieces =>
      have still : ¬ ['/', '*'] <:+: c :: piece.plain := by
        rw [pair_infix_cons, not_or]
        refine ⟨fun opens => h ⟨opens.1, ?_⟩, piece.not_opener⟩
        simp [Scan.text, Piece.text, Piece.comment, List.head?_append, opens.2]
      obtain ⟨inside, closes, he⟩ := piece.exists_inside
      refine ⟨⟨Piece.of still closes :: pieces, rest, clean⟩, ?_⟩
      simp [Scan.text, Piece.text, Piece.comment, Piece.of, he]

/-- Every text has a scan, by induction on the removal of its comments. -/
theorem exists_scan (text : List Char)
    : ∃ scan : Scan, scan.text = text := by
  fun_induction dropComments text with
  | case1 rest after found _ ih =>
      obtain ⟨scan, rfl⟩ := ih
      have closer : ['*', '/'] <:+: rest := closer_infix_iff.mpr (by simp [found])
      obtain ⟨inside, behind, closes, rfl⟩ := cut_at_first closer
      have same : behind = scan.text := by
        rw [afterCloser_first closes] at found
        exact Option.some.inj found
      have bare : ¬ ['/', '*'] <:+: [] := by simp
      refine ⟨⟨Piece.of bare closes :: scan.pieces, scan.rest, scan.clean⟩, ?_⟩
      simp [Scan.text, Piece.text, Piece.comment, Piece.of, same]
  | case2 rest unclosed => exact ⟨⟨[], _, not_hasComment_unclosed unclosed⟩, rfl⟩
  | case3 c rest hne ih =>
      obtain ⟨scan, rfl⟩ := ih
      refine exists_scan_cons fun opens => ?_
      obtain ⟨tail, star⟩ := List.head?_eq_some_iff.mp opens.2
      exact hne tail opens.1 star
  | case4 => exact ⟨⟨[], [], by simp [HasComment]⟩, rfl⟩

-----------------------------------------------------------------------------------------
-- Removal of comments along a scan
-----------------------------------------------------------------------------------------

/-- Text without an opener that makes none with what is behind it is kept, by induction on the
text.
-/
theorem dropComments_append {before behind : List Char} (h : ¬ ['/', '*'] <:+: before)
    (parted : Parted '/' '*' before behind)
    : dropComments (before ++ behind) = before ++ dropComments behind := by
  induction before with
  | nil => rfl
  | cons c rest ih =>
      rw [pair_infix_cons, not_or] at h
      obtain ⟨shut, later⟩ := parted.of_cons h.1
      rw [List.cons_append, dropComments_cons shut, ih h.2 later, List.cons_append]

theorem Piece.dropComments_append (piece : Piece) (text : List Char)
    : dropComments (piece.text ++ text) = piece.plain ++ dropComments text := by
  obtain ⟨inside, closes, he⟩ := piece.exists_inside
  have whole
      : piece.text ++ text = piece.plain ++ '/' :: '*' :: (inside ++ '*' :: '/' :: text) := by
    simp [Piece.text, Piece.comment, he]
  rw [whole, Stylesheet.dropComments_append piece.not_opener (by simp [Parted]),
    dropComments_opener, afterCloser_first closes]

/-- What is left of the text of some pieces and of a text behind them, by induction on the
pieces.
-/
theorem dropComments_pieces (pieces : List Piece) (text : List Char)
    : dropComments (pieces.flatMap Piece.text ++ text)
      = pieces.flatMap Piece.plain ++ dropComments text := by
  induction pieces with
  | nil => rfl
  | cons piece rest ih =>
      rw [List.flatMap_cons, List.flatMap_cons, List.append_assoc, piece.dropComments_append,
        ih, List.append_assoc]

theorem Scan.dropComments_text (scan : Scan)
    : dropComments scan.text = scan.plain := by
  rw [Scan.text, dropComments_pieces, dropComments_eq_self scan.clean, Scan.plain]

/-- Holds for a text whose scan leaves no opener behind its last comment. -/
def Closed (text : List Char) : Prop :=
  ∃ scan : Scan, scan.text = text ∧ ¬ ['/', '*'] <:+: scan.rest

theorem closed_pieces (pieces : List Piece) {rest : List Char} (h : ¬ ['/', '*'] <:+: rest)
    : Closed (pieces.flatMap Piece.text ++ rest) :=
  ⟨⟨pieces, rest, fun comment => h comment.opener⟩, rfl, h⟩

/-- Behind a closed text the removal of comments starts anew. -/
theorem Closed.dropComments_append {before behind : List Char} (h : Closed before)
    (parted : Parted '/' '*' before behind)
    : dropComments (before ++ behind) = dropComments before ++ dropComments behind := by
  obtain ⟨scan, rfl, none⟩ := h
  have edge : Parted '/' '*' scan.rest behind := by
    intro pair
    exact parted ⟨by simp [Scan.text, List.getLast?_append, pair.1], pair.2⟩
  rw [scan.dropComments_text, Scan.text, List.append_assoc, dropComments_pieces,
    Stylesheet.dropComments_append none edge, Scan.plain, List.append_assoc]

/-- Behind an open comment the text goes up to a closer, or all is kept. -/
theorem Closed.dropComments_open {before inside behind : List Char} (h : Closed before)
    (unclosed : ¬ ['*', '/'] <:+: inside) (parted : Parted '*' '/' inside behind)
    : dropComments ((before ++ '/' :: '*' :: inside) ++ behind)
      = dropComments before
        ++ (afterCloser behind).elim ('/' :: '*' :: (inside ++ behind)) dropComments := by
  rw [List.append_assoc, h.dropComments_append (by simp [Parted]), List.cons_append,
    List.cons_append, dropComments_opener, afterCloser_append unclosed parted]
  cases afterCloser behind with
  | some after => rfl
  | none => rfl

/-- The last character of a closed text stays if it ends no comment. -/
theorem Closed.getLast?_dropComments {text : List Char} (h : Closed text)
    (open_ : text.getLast? ≠ some '/')
    : (dropComments text).getLast? = text.getLast? := by
  obtain ⟨scan, rfl, -⟩ := h
  rw [scan.dropComments_text, Scan.plain, Scan.text]
  by_cases filled : scan.rest = []
  · rcases List.eq_nil_or_concat scan.pieces with none | ⟨pieces, piece, he⟩
    · simp [none]
    · -- The text ends where its last comment does.
      obtain ⟨inside, _, body⟩ := piece.exists_inside
      refine absurd ?_ open_
      simp [Scan.text, filled, he, Piece.text, Piece.comment, body, List.getLast?_append,
        List.getLast?_cons]
  · rw [List.getLast?_append_of_ne_nil _ filled, List.getLast?_append_of_ne_nil _ filled]

/-- A text is closed, or it is a closed text and an opener without a closer behind it. -/
theorem closed_or_open (text : List Char)
    : Closed text
      ∨ ∃ before inside,
          Closed before
          ∧ ¬ ['*', '/'] <:+: inside
          ∧ text = before ++ '/' :: '*' :: inside := by
  obtain ⟨scan, rfl⟩ := exists_scan text
  by_cases opener : ['/', '*'] <:+: scan.rest
  · obtain ⟨before, inside, none, he⟩ := cut_at_first opener
    have unclosed : ¬ ['*', '/'] <:+: inside := by
      intro closer
      obtain ⟨within, behind, _, rfl⟩ := cut_at_first closer
      exact scan.clean ⟨before, within, behind, by simp [he]⟩
    exact Or.inr ⟨_, inside, closed_pieces scan.pieces none, unclosed, by simp [Scan.text, he]⟩
  · exact Or.inl ⟨scan, rfl, opener⟩

/-- Every text has exactly one scan, and the removal of comments leaves its plain text. An
opener does not share its star with a closer, the first closer ends a comment whatever openers
stand in it, and an opener outside of comments without a closer stays with all behind it.
-/
theorem dropComments_scan (text : List Char)
    : (∃! scan : Scan, scan.text = text)
      ∧ (∀ scan : Scan, scan.text = text → dropComments text = scan.plain)
      ∧ (∀ piece : Piece, piece.comment ≠ ['/', '*', '/'])
      ∧ dropComments ['/', '*', '/'] = ['/', '*', '/']
      ∧ (∀ inside behind : List Char,
          ¬ ['*', '/'] <:+: inside
          → dropComments ('/' :: '*' :: (inside ++ '*' :: '/' :: behind)) = dropComments behind)
      ∧ ∀ before behind : List Char,
          Closed before
          → ¬ ['*', '/'] <:+: behind
          → dropComments (before ++ '/' :: '*' :: behind)
            = dropComments before ++ '/' :: '*' :: behind := by
  refine ⟨?_, ?_, ?_, ?_, ?_, ?_⟩
  · obtain ⟨scan, he⟩ := exists_scan text
    exact ⟨scan, he, fun other same => Scan.unique (same.trans he.symm)⟩
  · rintro scan rfl
    exact scan.dropComments_text
  · intro piece same
    have body : piece.body = ['/'] := by simpa [Piece.comment] using same
    have short : ['*', '/'] <:+ ['/'] := body ▸ piece.closes.last
    exact absurd short.length_le (by decide)
  · rw [dropComments_opener]
    rfl
  · intro inside behind closes
    rw [dropComments_opener, afterCloser_first closes]
  · intro before behind closed unclosed
    have none : afterCloser behind = none := by
      simpa [closer_infix_iff] using unclosed
    rw [closed.dropComments_append (by simp [Parted]), dropComments_opener, none]

/-- The comment of "a/*x/*y*/b/*/c" holds an opener, and the opener behind it is kept. -/
theorem dropComments_scan_nested
    : ∃ scan : Scan,
        scan.text = "a/*x/*y*/b/*/c".toList
        ∧ dropComments "a/*x/*y*/b/*/c".toList = scan.plain
        ∧ scan.plain = "ab/*/c".toList := by
  have opens : ¬ ['/', '*'] <:+: ['a'] := by decide
  have closes : ¬ ['*', '/'] <:+: "x/*y".toList := by decide
  have empty : ¬ HasComment [] := by simp [HasComment]
  have clean : ¬ HasComment "b/*/c".toList := by
    simp [hasComment_cons, empty, closer_infix_iff, afterCloser]
  let scan : Scan := ⟨[Piece.of opens closes], "b/*/c".toList, clean⟩
  have text : scan.text = "a/*x/*y*/b/*/c".toList := by rfl
  exact ⟨scan, text, (dropComments_scan _).2.1 scan text, by rfl⟩

end CssMinifier.Stylesheet
