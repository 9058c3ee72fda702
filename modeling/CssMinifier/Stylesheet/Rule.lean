import CssMinifier.Stylesheet.Comment
import CssMinifier.Stylesheet.Spacing

/-! The fourteen text rules that minify a stylesheet, in the order in which they run. Each
rule sees the text that the one before it left.
-/

namespace CssMinifier.Stylesheet

/-- The punctuation that stands without space around it. -/
def marks : List Char :=
  ['{', '}', ':', ';', ',', '>', '+', '~', '(', ')']

/-- A progress stage: neighbouring rules of one stage are announced together. -/
inductive Stage
  | comments
  | whitespace
  | punctuation
deriving DecidableEq

/-- The words that announce a stage. -/
def Stage.title : Stage → String
  | .comments => "Removing comments"
  | .whitespace => "Removing whitespace"
  | .punctuation => "Optimizing syntax"

/-- One text rule. -/
inductive Rule
  | dropComments
  | collapseFillers
  | tighten (mark : Char)
  | dropLastSemicolons
  | trimEnds
deriving DecidableEq

namespace Rule

/-- The stage that a rule belongs to. -/
def stage : Rule → Stage
  | .dropComments => .comments
  | .collapseFillers => .whitespace
  | .tighten _ | .dropLastSemicolons | .trimEnds => .punctuation

/-- The text after one rule. -/
def apply : Rule → List Char → List Char
  | .dropComments => Stylesheet.dropComments
  | .collapseFillers => Stylesheet.collapseFillers
  | .tighten mark => Stylesheet.tighten mark
  | .dropLastSemicolons => Stylesheet.dropLastSemicolons
  | .trimEnds => Stylesheet.trimEnds

/-- A shortest text that a rule replaces as a whole. -/
def sample : Rule → List Char
  | .dropComments => ['/', '*', '*', '/']
  | .collapseFillers => ['\n']
  | .tighten mark => [' ', mark]
  | .dropLastSemicolons => [';', '}']
  | .trimEnds => [' ']

/-- What a rule puts in place of the text that it removes. -/
def replacement (rule : Rule) : String :=
  String.ofList (rule.apply rule.sample)

end Rule

/-- All rules in running order. -/
def rules : List Rule :=
  [.dropComments, .collapseFillers] ++ marks.map .tighten ++ [.dropLastSemicolons, .trimEnds]

/-- The text after a list of rules, each fed with what the one before it left. -/
def applyAll (steps : List Rule) (text : List Char) : List Char :=
  steps.foldl (fun done rule => rule.apply done) text

/-- The minified form of a stylesheet. -/
def minify (text : List Char) : List Char :=
  applyAll rules text

/-- The texts after each of the given rules. -/
def traceOf : List Rule → List Char → List (List Char)
  | [], _ => []
  | rule :: rest, text => rule.apply text :: traceOf rest (rule.apply text)

/-- The texts after each rule of a minification. -/
def trace (text : List Char) : List (List Char) :=
  traceOf rules text

/-- The stages in the order in which they are announced: one entry for each run of rules of
the same stage.
-/
def announced : List Rule → List Stage
  | [] => []
  | [rule] => [rule.stage]
  | rule :: next :: rest =>
      if rule.stage = next.stage then
        announced (next :: rest)
      else
        rule.stage :: announced (next :: rest)

/-- The progress messages of one minification. -/
def progress : List String :=
  ["Starting CSS minification..."]
  ++ (announced rules).map (fun stage => "  -> " ++ stage.title ++ "...")
  ++ ["CSS minification completed"]

end CssMinifier.Stylesheet
