import CssMinifier.CommandLine
import CssMinifier.Proofs.Options.Interleaving
import Mathlib.Data.List.TakeWhile

/-! Plain arguments behind the separator. There any text is plain, so every choice of options
can be spelled on a command line, whatever its texts look like.
-/

namespace CssMinifier

open CssMinifier.Number

namespace Options

/-- Behind the separator all arguments are plain. -/
theorem classifyAll_separated (items : List Item) (texts : List String)
    : classifyAll (items.flatMap Item.arguments ++ separator :: texts)
      = .ok (items.flatMap Item.classified
          ++ (separator, .separator) :: texts.map (·, .plain)) := by
  have known : classify separator = .ok .separator := rfl
  rw [classifyAll_items, classifyAll, known]
  rfl

/-- The first place takes the separator along with its text. -/
theorem place_separated (texts : List String)
    : place ((separator, .separator) :: texts.map (·, .plain))
      = ((separator, .separator) :: (texts.take 1).map (·, .plain),
        (texts.drop 1).map (·, .plain)) := by
  cases texts with
  | nil => rfl
  | cons first more => cases more <;> rfl

/-- What is left out of the first place is the separator itself, whatever its text is. -/
theorem placeValue_separated (texts : List String)
    : placeValue ((separator, .separator) :: (texts.take 1).map (·, .plain)) = texts[0]? := by
  cases texts <;> simp [placeValue]

/-- Behind the separator only a second text can be lost for looking like the separator. -/
theorem collect_separated (options : Options) {texts : List String}
    (apart : texts[1]? ≠ some separator)
    : collect false options ((separator, .separator) :: texts.map (·, .plain))
      = .ok (options.placed texts, texts.drop 2) := by
  have second : (texts.drop 1)[0]? ≠ some separator := by simpa using apart
  have plain : ∀ argument ∈ texts.map (·, Kind.plain), isPlain argument = true := by
    simp [isPlain]
  rw [collect_run false options rfl, List.takeWhile_eq_self_iff.mpr plain,
    List.dropWhile_eq_nil_iff.mpr plain, settle, if_neg (by simp)]
  simp only [fillPlaces, place_separated, place_texts, placeValue_separated,
    placeValue_texts second]
  simp [placed, Except.map, Function.comp_def]

/-- Switches, then the separator and at most two texts, are always understood. -/
theorem parse_separated (settings : Settings) {items : List Item}
    (dashed : ∀ item ∈ items, item.isPlain = false) {texts : List String}
    (few : texts.length ≤ 2) (apart : texts[1]? ≠ some separator)
    : parse settings (items.flatMap Item.arguments ++ separator :: texts)
      = .ok ((switched (defaults settings) items).placed texts) := by
  have collected := collect_switches dashed false (defaults settings)
    ((separator, .separator) :: texts.map (·, .plain))
  rw [collect_separated _ apart, List.drop_eq_nil_iff.mpr few] at collected
  rw [parse_of_collect (classifyAll_separated items texts) collected, if_pos rfl]

end Options

namespace CommandLine

open CssMinifier.Options

/-- Every choice of options has a command line, whatever its texts look like. -/
theorem read_configuration (settings : Settings) (calledAs : String)
    {input output encoding timeout : String} {number : Binary64} (quiet : Bool)
    (encoded : encoding ≠ separator) (named : output ≠ separator)
    (reads : Reading.read? timeout.toList = some number)
    : read settings calledAs
        ((if quiet then ["-q"] else [])
          ++ ["--encoding=" ++ encoding, "--timeout=" ++ timeout, "--", input, output])
      = .ok
          { input := some input
            output := some (Path.parse output)
            encoding := some encoding
            timeout := some number
            quiet } := by
  have timed : timeout ≠ separator := by
    intro same
    have unread : Reading.read? separator.toList = none := by decide +kernel
    rw [same, unread] at reads
    cases reads
  let items : List Item :=
    (if quiet then [.quiet false] else [])
      ++ [.encoding (.attached encoding encoded), .timeout (.attached timeout timed) number reads]
  have dashed : ∀ item ∈ items, item.isPlain = false := by
    have all : items.all (!·.isPlain) = true := by cases quiet <;> rfl
    simpa using all
  have spelled : items.flatMap Item.arguments ++ separator :: [input, output]
      = (if quiet then ["-q"] else [])
        ++ ["--encoding=" ++ encoding, "--timeout=" ++ timeout, "--", input, output] := by
    cases quiet <;> rfl
  have second : [input, output][1]? ≠ some separator := by simpa using named
  rw [← spelled, read, parse_separated settings dashed (by simp) second]
  cases quiet <;> rfl

/-- An input that is the separator, an output that is a switch, and values like other switches. -/
theorem read_configuration_lookalikes
    : let settings : Settings := ⟨"ocr-widget.css", "utf-8", .nan⟩
      "--timeout=5 x" ≠ separator
      ∧ "-q" ≠ separator
      ∧ Reading.read? " -Infinity\n".toList = some (.infinite true)
      ∧ read settings "minify-css"
          ["-q", "--encoding=--timeout=5 x", "--timeout= -Infinity\n", "--", "--", "-q"]
        = .ok
            { input := some "--"
              output := some (Path.parse "-q")
              encoding := some "--timeout=5 x"
              timeout := some (.infinite true)
              quiet := true } := by
  intro settings
  have encoded : "--timeout=5 x" ≠ separator := by decide
  have named : "-q" ≠ separator := by decide
  have reads : Reading.read? " -Infinity\n".toList = some (.infinite true) := by decide +kernel
  exact ⟨encoded, named, reads, read_configuration settings "minify-css" true encoded named reads⟩

end CommandLine

end CssMinifier
