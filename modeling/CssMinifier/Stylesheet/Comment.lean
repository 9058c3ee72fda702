/-! Comments of a stylesheet. A comment runs from an opener to the first closer after it; an
opener that is never closed is ordinary text, and so is everything behind it.
-/

namespace CssMinifier.Stylesheet

/-- What follows the first closing mark, if there is one. -/
def afterCloser : List Char → Option (List Char)
  | '*' :: '/' :: rest => some rest
  | _ :: rest => afterCloser rest
  | [] => none

/-- The text behind a closer is shorter than the text before it. -/
theorem length_afterCloser {text rest : List Char} (h : afterCloser text = some rest)
    : rest.length < text.length := by
  fun_induction afterCloser text with
  | case1 => cases h; simp only [List.length_cons]; omega
  | case2 _ _ _ ih => exact Nat.lt_succ_of_lt (ih h)
  | case3 => cases h

/-- The text without its comments. -/
def dropComments : List Char → List Char
  | '/' :: '*' :: rest =>
      match h : afterCloser rest with
      | some after =>
          have := length_afterCloser h
          dropComments after
      | none => '/' :: '*' :: rest
  | c :: rest => c :: dropComments rest
  | [] => []
termination_by text => text.length
decreasing_by
  all_goals simp only [List.length_cons]; omega

end CssMinifier.Stylesheet
