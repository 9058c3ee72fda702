import CssMinifier.Text.Class

/-! Spacing rules of a stylesheet: fillers collapse, punctuation stands tight, a block's last
semicolon goes, and the two ends carry no spaces.
-/

namespace CssMinifier.Stylesheet

open CssMinifier.Text

/-- Every run of fillers becomes one space. -/
def collapseFillers (text : List Char) : List Char :=
  text.foldr
    (fun c done =>
      if isFiller c then
        if done.head? = some ' ' then done else ' ' :: done
      else
        c :: done)
    []

/-- The blanks before and after every occurrence of the mark are dropped. -/
def tighten (mark : Char) (text : List Char) : List Char :=
  text.foldr
    (fun c done =>
      if c = mark then
        c :: done.dropWhile isBlank
      else if isBlank c ∧ done.head? = some mark then
        done
      else
        c :: done)
    []

/-- A semicolon right before a closing brace is dropped. Of several in a row only the last
one goes.
-/
def dropLastSemicolons : List Char → List Char
  | ';' :: '}' :: rest => '}' :: dropLastSemicolons rest
  | c :: rest => c :: dropLastSemicolons rest
  | [] => []

/-- The text without the spaces at its end, counted from the back. -/
def dropTrailingSpaces (text : List Char) : List Char :=
  (text.reverse.dropWhile (· == ' ')).reverse

/-- Spaces at the start and at the end are dropped. A single final line feed counts as part
of the end: the spaces before it go, and it stays.
-/
def trimEnds (text : List Char) : List Char :=
  let body := text.dropWhile (· == ' ')
  match body.reverse with
  | '\n' :: front => dropTrailingSpaces front.reverse ++ ['\n']
  | _ => dropTrailingSpaces body

end CssMinifier.Stylesheet
