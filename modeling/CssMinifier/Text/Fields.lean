/-! Texts cut at a separator, and put together again. -/

namespace CssMinifier.Text

/-- The pieces of a text, of characters or of bytes, between the separators. There is always at
least one.
-/
def fields {α : Type} [DecidableEq α] (separator : α) : List α → List (List α)
  | [] => [[]]
  | c :: rest =>
      if c = separator then
        [] :: fields separator rest
      else
        match fields separator rest with
        | [] => [[c]]
        | first :: more => (c :: first) :: more

/-- The pieces with the separator between them. -/
def joined (separator : Char) : List (List Char) → List Char
  | [] => []
  | [piece] => piece
  | piece :: next :: more => piece ++ separator :: joined separator (next :: more)

/-- A text has at least one field. -/
theorem fields_ne_nil {α : Type} [DecidableEq α] (separator : α) (text : List α)
    : fields separator text ≠ [] := by
  fun_cases fields separator text <;> simp

/-- What stands before the first separator; the whole text if there is none. -/
def before (separator : Char) (text : List Char) : List Char :=
  text.takeWhile (· ≠ separator)

/-- What stands behind the first separator; nothing if there is none. -/
def behind (separator : Char) (text : List Char) : List Char :=
  (text.dropWhile (· ≠ separator)).drop 1

/-- What stands behind the last separator; the whole text if there is none. -/
def behindLast {α : Type} [DecidableEq α] (separator : α) (text : List α) : List α :=
  (text.reverse.takeWhile (· ≠ separator)).reverse

end CssMinifier.Text
