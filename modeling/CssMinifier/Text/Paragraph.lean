import CssMinifier.Text.Class
import CssMinifier.Text.Word

/-! Paragraphs broken into lines. A paragraph is a list of chunks: runs of spaces, words, and
the parts of hyphenated words. A line takes as many chunks as fit, loses a run of spaces at
either end, and cuts a chunk only if it is longer than a line.
-/

namespace CssMinifier.Text.Paragraph

/-- Holds for the six plain white-space characters. -/
def isSpace (c : Char) : Bool :=
  c = ' ' || (0x9 ≤ c.toNat && c.toNat ≤ 0xD)

/-- The text with every run of plain white space as one space, and no blanks at the ends. -/
def normalized (text : List Char) : List Char :=
  strip <|
    text.foldr
      (fun c done =>
        if isSpace c then
          if done.head? = some ' ' then done else ' ' :: done
        else
          c :: done)
      []

/-- Holds for the characters that may touch a dash between words. -/
def joinsWords (c : Char) : Bool :=
  isWord c || ['!', '"', '\'', '&', '.', ',', '?'].contains c

/-- Holds when a dash of two or more hyphens between two words comes
next. The characters before are given backwards.
-/
def dashAhead (seen rest : List Char) : Bool :=
  seen.head?.any joinsWords
    && 2 ≤ (rest.takeWhile (· = '-')).length
    && (rest.dropWhile (· = '-')).head?.any isWord

/-- Holds when a line may end behind the hyphen that stands
between the two texts: two letters stand on either side, or single letters with hyphens.
-/
def breaksAfterHyphen (seen rest : List Char) : Bool :=
  letters seen && letters rest
where
  letters : List Char → Bool
    | a :: '-' :: b :: _ => isLetter a && isLetter b
    | a :: b :: _ => isLetter a && isLetter b
    | _ => false

/-- How many characters of the text still belong to the word that has begun. -/
def wordLength (seen : List Char) : List Char → Nat
  | [] => 0
  | c :: rest =>
      if isSpace c then
        0
      else if c = '-' ∧ breaksAfterHyphen seen rest then
        1
      else if dashAhead seen (c :: rest) then
        0
      else
        wordLength (c :: seen) rest + 1

/-- The length of the chunk that starts a text with the given first character. -/
def chunkLength (seen : List Char) (c : Char) (rest : List Char) : Nat :=
  if isSpace c then
    (rest.takeWhile isSpace).length + 1
  else if dashAhead seen (c :: rest) then
    ((c :: rest).takeWhile (· = '-')).length
  else
    wordLength (c :: seen) rest + 1

/-- The chunks of a text, given the characters before it backwards. The fuel bounds the
number of chunks.
-/
def chunksFrom : Nat → List Char → List Char → List (List Char)
  | 0, _, _ => []
  | _, _, [] => []
  | fuel + 1, seen, c :: rest =>
      let chunk := (c :: rest).take (chunkLength seen c rest)
      chunk :: chunksFrom fuel (chunk.reverse ++ seen) ((c :: rest).drop chunk.length)

/-- The chunks of a text. -/
def chunks (text : List Char) : List (List Char) :=
  chunksFrom text.length [] text

/-- Holds for chunks of blanks only. -/
def isGap (chunk : List Char) : Bool :=
  chunk.all isBlank

/-- The chunks that fit into the given width, and the others. -/
def fill (width : Nat) : List (List Char) → List (List Char) × List (List Char)
  | [] => ([], [])
  | chunk :: rest =>
      if chunk.length ≤ width then
        let (line, others) := fill (width - chunk.length) rest
        (chunk :: line, others)
      else
        ([], chunk :: rest)

/-- Where a chunk that is longer than a line is cut: behind the last hyphen that fits, if
something else than hyphens stands before it, and else at the room that is left.
-/
def cut (room : Nat) (chunk : List Char) : Nat :=
  let behindHyphen := ((chunk.take room).reverse.dropWhile (· ≠ '-')).length
  if 1 < behindHyphen ∧ (chunk.take (behindHyphen - 1)).any (· ≠ '-') then
    behindHyphen
  else
    room

/-- One line and the chunks that are left. If the next chunk fits on no line, the part of it
that fits goes onto this one.
-/
def takeLine (width : Nat) (text : List (List Char)) : List (List Char) × List (List Char) :=
  match fill width text with
  | (line, chunk :: rest) =>
      if width < chunk.length then
        let room := width - line.flatten.length
        let kept := cut room chunk
        (line ++ [chunk.take kept], chunk.drop kept :: rest)
      else
        (line, chunk :: rest)
  | (line, []) => (line, [])

/-- The line without a run of blanks at its end. -/
def withoutLastGap (line : List (List Char)) : List (List Char) :=
  if (line.getLast?).any isGap then line.dropLast else line

/-- The lines of a list of chunks. A run of blanks at the start is dropped unless no line has
been laid yet. The fuel bounds the number of lines.
-/
def layLines (width : Nat) : Nat → Bool → List (List Char) → List (List Char)
  | 0, _, _ => []
  | _, _, [] => []
  | fuel + 1, begun, chunk :: rest =>
      let text := if begun && isGap chunk then rest else chunk :: rest
      let (taken, others) := takeLine width text
      let line := withoutLastGap taken
      if line = [] then
        layLines width fuel begun others
      else
        line.flatten :: layLines width fuel true others

/-- The lines of a paragraph, none longer than the width. -/
def wrap (width : Nat) (text : List Char) : List (List Char) :=
  layLines width (text.length + 1) false (chunks (normalized text))

end CssMinifier.Text.Paragraph
