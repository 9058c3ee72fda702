import CssMinifier.Text.Quoted

/-! Texts with placeholders. A percent sign starts a placeholder: a second one stands for the
sign itself, and a name in parentheses with a letter for the way of writing stands for a
field's value.
-/

namespace CssMinifier.Text.Template

/-- A named value. Texts are quoted where the quoted way of writing is asked for. -/
structure Field where
  name : String
  value : String
  isText : Bool := true

/-- Why a placeholder cannot be filled. -/
inductive Error
  | incompleteName
  | incomplete
  | unsupported (c : Char) (index : Nat)
  | unknownName (name : String)
  | notANumber (c : Char)
deriving DecidableEq

/-- The text of an error. -/
def Error.message : Error → String
  | .incompleteName => "incomplete format key"
  | .incomplete => "incomplete format"
  | .unsupported c index =>
      let shown := if 31 ≤ c.toNat ∧ c.toNat < 126 then c else '?'
      "unsupported format character '" ++ shown.toString ++ "' (0x"
        ++ String.ofList (Nat.toDigits 16 c.toNat) ++ ") at index " ++ toString index
  | .unknownName name => quoted name
  | .notANumber c =>
      if c = 'c' then
        "%c requires int or char"
      else if ['x', 'X', 'o'].contains c then
        "%" ++ c.toString ++ " format: an integer is required, not str"
      else if ['d', 'i', 'u'].contains c then
        "%" ++ c.toString ++ " format: a real number is required, not str"
      else
        "must be real number, not str"

/-- The name up to the parenthesis that closes it, with the depth of those open inside it, and
what follows; nothing if it is never closed.
-/
def closing? (depth : Nat) : List Char → Option (List Char × List Char)
  | [] => none
  | ')' :: rest =>
      if depth = 0 then
        some ([], rest)
      else
        (closing? (depth - 1) rest).map fun (name, after) => (')' :: name, after)
  | c :: rest =>
      (closing? (if c = '(' then depth + 1 else depth) rest).map fun (name, after) =>
        (c :: name, after)

/-- How a value is set: padded to a width on the left or on the right, and cut to a length. -/
structure Setting where
  left : Bool
  width : Nat
  length? : Option Nat

/-- A value set into its place. -/
def Setting.place (setting : Setting) (value : List Char) : List Char :=
  let shown := match setting.length? with
    | some n => value.take n
    | none => value
  let padding := List.replicate (setting.width - shown.length) ' '
  if setting.left then shown ++ padding else padding ++ shown

/-- The value of a run of digits. -/
def number (digits : List Char) : Nat :=
  digits.foldl (fun n c => n * 10 + (c.toNat - 0x30)) 0

/-- The setting between a placeholder's name and its letter, and what follows. -/
def setting (text : List Char) : Setting × List Char :=
  let isFlag := fun c : Char => ['-', '+', ' ', '#', '0'].contains c
  let flags := text.takeWhile isFlag
  let sized := text.dropWhile isFlag
  let width := number (sized.takeWhile Char.isDigit)
  let isModifier := fun c : Char => ['h', 'l', 'L'].contains c
  let modified := fun rest : List Char =>
    if rest.head?.any isModifier then rest.drop 1 else rest
  match sized.dropWhile Char.isDigit with
  | '.' :: rest =>
      (⟨flags.contains '-', width, some (number (rest.takeWhile Char.isDigit))⟩,
        modified (rest.dropWhile Char.isDigit))
  | rest => (⟨flags.contains '-', width, none⟩, modified rest)

/-- The letters that ask for a number. -/
def numberLetters : List Char :=
  ['c', 'd', 'i', 'u', 'o', 'x', 'X', 'e', 'E', 'f', 'F', 'g', 'G']

/-- A field written in the way that the letter asks for. -/
def written (field : Field) (setting : Setting) (c : Char) (index : Nat)
    : Except Error (List Char) :=
  if c = 's' then
    .ok (setting.place field.value.toList)
  else if c = 'r' ∨ c = 'a' then
    .ok (setting.place (if field.isText then (quoted field.value).toList else field.value.toList))
  else if numberLetters.contains c then
    .error (.notANumber c)
  else
    .error (.unsupported c index)

/-- The field that a placeholder names, if it names one, and what follows the name. -/
def named (fields : List Field) : List Char → Except Error (Option Field × List Char)
  | '(' :: inside =>
      match closing? 0 inside with
      | none => .error .incompleteName
      | some (name, after) =>
          match fields.find? (fun field => field.name.toList = name) with
          | none => .error (.unknownName (String.ofList name))
          | some field => .ok (some field, after)
  | text => .ok (none, text)

/-- What a placeholder stands for, given the text behind its percent sign, and the text that
follows it. The size is that of the whole text, from which errors count their position. A
placeholder without a name stands for nothing.
-/
def placeholder (fields : List Field) (size : Nat) (text : List Char)
    : Except Error (List Char × List Char) :=
  match named fields text with
  | .error e => .error e
  | .ok (field?, after) =>
      match setting after with
      | (_, []) => .error .incomplete
      | (place, c :: rest) =>
          let blank : Field := { name := "", value := "" }
          match written (field?.getD blank) place c (size - (c :: rest).length) with
          | .error e => .error e
          | .ok shown => .ok (shown, rest)

/-- The text with its placeholders filled. The fuel bounds the number of characters. -/
def fillFrom (fields : List Field) (size : Nat) : Nat → List Char → Except Error (List Char)
  | 0, _ => .ok []
  | _, [] => .ok []
  | fuel + 1, '%' :: '%' :: rest => (fillFrom fields size fuel rest).map ('%' :: ·)
  | fuel + 1, '%' :: text =>
      match placeholder fields size text with
      | .error e => .error e
      | .ok (shown, rest) => (fillFrom fields size fuel rest).map (shown ++ ·)
  | fuel + 1, c :: rest => (fillFrom fields size fuel rest).map (c :: ·)

/-- The text with its placeholders filled from the fields. -/
def fill (fields : List Field) (text : String) : Except Error String :=
  (fillFrom fields text.length text.length text.toList).map String.ofList

end CssMinifier.Text.Template
