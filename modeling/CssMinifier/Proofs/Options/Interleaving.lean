import CssMinifier.CommandLine
import CssMinifier.Proofs.Options.Item

/-! Switches and plain arguments in any order. Switches may stand anywhere, the last of each
kind counts, but both places are filled by the first block of plain arguments, and every other
plain argument is left over.
-/

namespace CssMinifier

namespace Options

-----------------------------------------------------------------------------------------
-- Blocks of plain items
-----------------------------------------------------------------------------------------

/-- The texts of all plain items. -/
def texts (items : List Item) : List String :=
  items.filterMap Item.text?

/-- The texts of the first block of plain items, which no switch divides. -/
def firstBlock (items : List Item) : List String :=
  texts ((items.dropWhile (!·.isPlain)).takeWhile (·.isPlain))

/-- The texts of the plain items behind the first block. -/
def laterTexts (items : List Item) : List String :=
  texts ((items.dropWhile (!·.isPlain)).dropWhile (·.isPlain))

theorem texts_append (items more : List Item)
    : texts (items ++ more) = texts items ++ texts more :=
  List.filterMap_append

/-- A switch has no part in the texts and blocks behind it. -/
theorem texts_dashed {item : Item} (dashed : item.isPlain = false) (more : List Item)
    : texts (item :: more) = texts more
      ∧ firstBlock (item :: more) = firstBlock more
      ∧ laterTexts (item :: more) = laterTexts more := by
  have skipped := List.dropWhile_cons_of_pos (p := (!·.isPlain)) (l := more)
    (by simp [dashed] : (!item.isPlain) = true)
  refine ⟨List.filterMap_cons_none (by simpa [Item.isPlain] using dashed), ?_, ?_⟩
  · rw [firstBlock, skipped, firstBlock]
  · rw [laterTexts, skipped, laterTexts]

/-- A plain item is the start of the first block. -/
theorem blocks_plain (bare : Bare) (more : List Item)
    : firstBlock (.plain bare :: more) = bare.text :: texts (more.takeWhile (·.isPlain))
      ∧ laterTexts (.plain bare :: more) = texts (more.dropWhile (·.isPlain)) :=
  ⟨rfl, rfl⟩

/-- All plain texts are those of the first block and those behind it. -/
theorem texts_eq (items : List Item)
    : texts items = firstBlock items ++ laterTexts items := by
  induction items with
  | nil => rfl
  | cons item more ih =>
      cases dashed : item.isPlain with
      | false =>
          obtain ⟨all, first, later⟩ := texts_dashed dashed more
          rw [all, first, later, ih]
      | true =>
          rw [firstBlock, laterTexts, ← texts_append,
            List.dropWhile_cons_of_neg (by simp [dashed]), List.takeWhile_append_dropWhile]

-----------------------------------------------------------------------------------------
-- Blocks among the arguments
-----------------------------------------------------------------------------------------

/-- A plain item is one plain argument, and the arguments of any other lead with its switch. -/
theorem classified_cases (item : Item)
    : (∃ bare, item = .plain bare)
      ∨ item.isPlain = false
        ∧ ∃ argument more, item.classified = argument :: more ∧ isPlain argument = false := by
  cases item with
  | plain bare => exact Or.inl ⟨bare, rfl⟩
  | quiet long => cases long <;> exact Or.inr ⟨rfl, _, _, rfl, rfl⟩
  | encoding value => cases value <;> exact Or.inr ⟨rfl, _, _, rfl, rfl⟩
  | timeout value number reads => cases value <;> exact Or.inr ⟨rfl, _, _, rfl, rfl⟩

/-- A run of plain arguments is a block of plain items, by induction on the items. -/
theorem run_classified (items : List Item)
    : (items.flatMap Item.classified).takeWhile isPlain
        = (texts (items.takeWhile (·.isPlain))).map (·, .plain)
      ∧ (items.flatMap Item.classified).dropWhile isPlain
        = (items.dropWhile (·.isPlain)).flatMap Item.classified := by
  induction items with
  | nil => exact ⟨rfl, rfl⟩
  | cons item more ih =>
      rcases classified_cases item with ⟨bare, rfl⟩ | ⟨dashed, argument, others, head, stops⟩
      · have own : isPlain (bare.text, .plain) = true := rfl
        have plain : (Item.plain bare).isPlain = true := rfl
        rw [List.flatMap_cons, Item.classified_plain, List.singleton_append,
          List.takeWhile_cons_of_pos own, List.dropWhile_cons_of_pos own,
          List.takeWhile_cons_of_pos plain, List.dropWhile_cons_of_pos plain, ih.1, ih.2]
        exact ⟨rfl, rfl⟩
      · rw [List.takeWhile_cons_of_neg (by simp [dashed]),
          List.dropWhile_cons_of_neg (by simp [dashed]), List.flatMap_cons, head,
          List.cons_append, List.takeWhile_cons_of_neg (by simp [stops]),
          List.dropWhile_cons_of_neg (by simp [stops])]
        exact ⟨rfl, rfl⟩

-----------------------------------------------------------------------------------------
-- Filling the places
-----------------------------------------------------------------------------------------

/-- The options with both places filled from some texts. -/
def placed (options : Options) (texts : List String) : Options :=
  { options with input := texts[0]?, output := texts[1]?.map Path.parse }

/-- A place takes the first of some plain texts. -/
theorem place_texts (texts : List String)
    : place (texts.map (·, .plain))
      = ((texts.take 1).map (·, .plain), (texts.drop 1).map (·, .plain)) := by
  cases texts with
  | nil => rfl
  | cons first more => cases more <;> rfl

theorem placeValue_texts {texts : List String} (apart : texts[0]? ≠ some separator)
    : placeValue ((texts.take 1).map (·, .plain)) = texts[0]? := by
  cases texts with
  | nil => rfl
  | cons first more =>
      have apart : first ≠ separator := by simpa using apart
      simp [placeValue, apart]

theorem fillPlaces_texts (options : Options) {texts : List String}
    (apart : ∀ text ∈ texts, text ≠ separator)
    : fillPlaces options (texts.map (·, .plain)) = (options.placed texts, texts.drop 2) := by
  have first : texts[0]? ≠ some separator :=
    fun same => apart _ (List.mem_of_getElem? same) rfl
  have second : (texts.drop 1)[0]? ≠ some separator :=
    fun same => apart _ (List.mem_of_mem_drop (List.mem_of_getElem? same)) rfl
  simp only [fillPlaces, place_texts, placeValue_texts first, placeValue_texts second]
  simp [placed, Function.comp_def]

/-- Once the places are filled, a plain argument is left over wherever it stands. -/
theorem collect_filled_cons (options : Options) {argument : String × Kind}
    (plain : isPlain argument = true) (rest : List (String × Kind))
    : collect true options (argument :: rest)
      = (collect true options rest).map (Prod.map id (argument.1 :: ·)) := by
  rw [collect_run true options plain]
  cases rest with
  | nil => simp [settle, Except.map]
  | cons next others =>
      by_cases joins : isPlain next = true
      · rw [collect_run true options joins, List.takeWhile_cons_of_pos joins,
          List.dropWhile_cons_of_pos joins]
        simp only [settle, if_true]
        cases collect true options (others.dropWhile isPlain) <;> rfl
      · rw [List.takeWhile_cons_of_neg joins, List.dropWhile_cons_of_neg joins]
        rfl

/-- Once the places are filled, every plain item is left over, by induction on the items. -/
theorem collect_filled (options : Options) (items : List Item)
    : collect true options (items.flatMap Item.classified)
      = .ok (switched options items, texts items) := by
  induction items generalizing options with
  | nil => simp [texts]
  | cons item more ih =>
      rw [List.flatMap_cons, switched_cons]
      rcases classified_cases item with ⟨bare, rfl⟩ | ⟨dashed, _⟩
      · rw [Item.classified_plain, List.singleton_append, collect_filled_cons options rfl, ih]
        simp [texts, Item.text?, Except.map]
      · rw [collect_item dashed, ih, (texts_dashed dashed more).1]

theorem ne_separator_of_mem_texts {items : List Item}
    : ∀ text ∈ texts items, text ≠ separator := by
  intro text member
  obtain ⟨item, _, own⟩ := List.mem_filterMap.mp member
  cases item with
  | plain bare =>
      obtain rfl := Option.some.inj own
      exact bare.ne_separator
  | quiet | encoding | timeout => cases own

/-- The plain items of a block ask for no switch. -/
theorem switched_dropWhile (options : Options) (items : List Item)
    : switched options (items.dropWhile (·.isPlain)) = switched options items := by
  induction items with
  | nil => rfl
  | cons item more ih =>
      rcases classified_cases item with ⟨bare, rfl⟩ | ⟨dashed, _⟩
      · rw [List.dropWhile_cons_of_pos rfl, ih, switched_cons, switched_plain]
      · rw [List.dropWhile_cons_of_neg (by simp [dashed])]

/-- A block fills the places, and what is plain behind it is left over. -/
theorem collect_block (options : Options) (bare : Bare) (more : List Item)
    : collect false options ((Item.plain bare :: more).flatMap Item.classified)
      = .ok
          ((switched options more).placed (firstBlock (.plain bare :: more)),
            (firstBlock (.plain bare :: more)).drop 2 ++ laterTexts (.plain bare :: more)) := by
  obtain ⟨first, later⟩ := blocks_plain bare more
  obtain ⟨run, behind⟩ := run_classified more
  have apart : ∀ text ∈ bare.text :: texts (more.takeWhile (·.isPlain)), text ≠ separator :=
    List.forall_mem_cons.mpr ⟨bare.ne_separator, ne_separator_of_mem_texts⟩
  have filled := fillPlaces_texts options apart
  rw [List.map_cons] at filled
  rw [List.flatMap_cons, Item.classified_plain, List.singleton_append,
    collect_run false options rfl, run, behind, settle, if_neg (by simp), filled]
  simp only [collect_filled]
  rw [← switched_dropWhile options more, first, later]
  rfl

/-- The first block of plain items fills the places, whatever switches stand around it. Up to
the block, by induction on the items, the places stay free.
-/
theorem collect_items {options : Options} (free : options.input = none)
    (free' : options.output = none) (items : List Item)
    : collect false options (items.flatMap Item.classified)
      = .ok
          ((switched options items).placed (firstBlock items),
            (firstBlock items).drop 2 ++ laterTexts items) := by
  induction items generalizing options with
  | nil =>
      obtain ⟨input, output, encoding, timeout, quiet⟩ := options
      obtain ⟨rfl, rfl⟩ : input = none ∧ output = none := ⟨free, free'⟩
      rw [List.flatMap_nil, collect_nil, switched_nil]
      rfl
  | cons item more ih =>
      rcases classified_cases item with ⟨bare, rfl⟩ | ⟨dashed, _⟩
      · rw [collect_block, switched_cons, switched_plain]
      · obtain ⟨_, first, later⟩ := texts_dashed dashed more
        have freed : (switched options [item]).input = none := free
        have freed' : (switched options [item]).output = none := free'
        rw [List.flatMap_cons, switched_cons, collect_item dashed, ih freed freed', first, later]

-----------------------------------------------------------------------------------------
-- Whole command lines
-----------------------------------------------------------------------------------------

/-- Holds when the plain items form one block of two at most, or there are none. -/
def OneBlock (items : List Item) : Prop :=
  (firstBlock items).length ≤ 2 ∧ laterTexts items = []

instance (items : List Item) : Decidable (OneBlock items) :=
  inferInstanceAs (Decidable (_ ∧ _))

theorem oneBlock_iff {items : List Item}
    : OneBlock items ↔ (firstBlock items).drop 2 ++ laterTexts items = [] := by
  rw [List.append_eq_nil_iff, List.drop_eq_nil_iff, OneBlock]

theorem OneBlock.texts_eq {items : List Item} (h : OneBlock items)
    : texts items = firstBlock items := by
  rw [Options.texts_eq, h.2, List.append_nil]

/-- The options that items ask for under the settings: the first two plain texts, and for each
switch the last of its values or the one of the settings.
-/
def asked (settings : Settings) (items : List Item) : Options where
  input := (texts items)[0]?
  output := (texts items)[1]?.map Path.parse
  encoding := some ((items.filterMap Item.encoding?).getLastD settings.encoding)
  timeout := some ((items.filterMap Item.timeout?).getLastD settings.timeout)
  quiet := items.any Item.isQuiet

theorem placed_switched (settings : Settings) {items : List Item} (h : OneBlock items)
    : (switched (defaults settings) items).placed (firstBlock items) = asked settings items := by
  simp [placed, switched, defaults, asked, h.texts_eq, List.getLastD_eq_getLast?]

theorem parse_items (settings : Settings) (items : List Item)
    : parse settings (items.flatMap Item.arguments)
      = if OneBlock items then
          .ok (asked settings items)
        else
          .error (.usage (.unrecognized ((firstBlock items).drop 2 ++ laterTexts items))) := by
  have found : classifyAll (items.flatMap Item.arguments)
      = .ok (items.flatMap Item.classified) := by
    simpa [classifyAll, Except.map] using classifyAll_items items []
  have free : (defaults settings).input = none ∧ (defaults settings).output = none := ⟨rfl, rfl⟩
  rw [parse_of_collect found (collect_items free.1 free.2 items)]
  by_cases one : OneBlock items
  · rw [if_pos (oneBlock_iff.mp one), if_pos one, placed_switched settings one]
  · rw [if_neg (mt oneBlock_iff.mpr one), if_neg one]

end Options

namespace CommandLine

open CssMinifier.Options

/-- Items in any order are understood exactly if the plain ones form one block of two at most.
The block fills the places and the last switch of each kind counts. Otherwise all plain texts
but the first two of the first block are reported, in order.
-/
theorem read_items (settings : Settings) (calledAs : String) (items : List Item)
    : read settings calledAs (items.flatMap Item.arguments)
      = if OneBlock items then
          .ok (asked settings items)
        else
          let program := programName calledAs
          let surplus := (firstBlock items).drop 2 ++ laterTexts items
          .error
            (.exit
              { code := 2
                stdout := ""
                stderr :=
                  Help.usage program ++ program ++ ": error: "
                    ++ ("unrecognized arguments: " ++ " ".intercalate surplus) ++ "\n" }) := by
  rw [read, parse_items]
  by_cases one : OneBlock items
  · simp only [if_pos one]
  · simp only [if_neg one]
    rfl

/-- A switch between two plain arguments divides them, and the second one is left over. -/
example
    : let items : List Item :=
        [.plain ⟨"a.css", by decide⟩, .quiet false, .plain ⟨"b.css", by decide⟩]
      items.flatMap Item.arguments = ["a.css", "-q", "b.css"]
        ∧ (firstBlock items).drop 2 ++ laterTexts items = ["b.css"] :=
  ⟨rfl, rfl⟩

end CommandLine

end CssMinifier
