import CssMinifier.Proofs.Options.Collecting
import CssMinifier.Proofs.Text.Fields

/-! Command lines as sequences of items: switches spelled in full, with their values, and plain
arguments. Each item is recognised by itself, whatever stands before and behind it, and a
switch changes only its own option.
-/

namespace CssMinifier.Options

open CssMinifier.Number

-----------------------------------------------------------------------------------------
-- Items and their arguments
-----------------------------------------------------------------------------------------

/-- A text that no hyphen leads. -/
structure Bare where
  text : String
  unhyphened : text.toList.head? ≠ some '-'

/-- The value of a switch. Attached to its switch it may be any text but the separator; as an
argument of its own it is bare.
-/
inductive Value
  | attached (text : String) (apart : text ≠ separator)
  | behind (bare : Bare)

def Value.text : Value → String
  | .attached text _ => text
  | .behind bare => bare.text

/-- The arguments of a switch with a value. -/
def Value.arguments (spelling : String) : Value → List String
  | .attached text _ => [spelling ++ "=" ++ text]
  | .behind bare => [spelling, bare.text]

/-- One item of a command line. The value of a timeout is a number. -/
inductive Item
  | quiet (long : Bool)
  | encoding (value : Value)
  | timeout (value : Value) (number : Binary64)
      (reads : Reading.read? value.text.toList = some number)
  | plain (bare : Bare)

namespace Item

/-- The arguments that an item stands for. -/
def arguments : Item → List String
  | .quiet false => ["-q"]
  | .quiet true => ["--quiet"]
  | .encoding value => value.arguments "--encoding"
  | .timeout value _ _ => value.arguments "--timeout"
  | .plain bare => [bare.text]

def isQuiet : Item → Bool
  | .quiet _ => true
  | _ => false

/-- The encoding that an item asks for. -/
def encoding? : Item → Option String
  | .encoding value => some value.text
  | _ => none

/-- The timeout that an item asks for. -/
def timeout? : Item → Option Binary64
  | .timeout _ number _ => some number
  | _ => none

/-- The text of a plain item. -/
def text? : Item → Option String
  | .plain bare => some bare.text
  | _ => none

def isPlain (item : Item) : Bool :=
  item.text?.isSome

end Item

theorem Bare.ne_separator (bare : Bare)
    : bare.text ≠ separator := by
  intro same
  exact bare.unhyphened (same ▸ rfl)

theorem Value.ne_separator (value : Value)
    : value.text ≠ separator := by
  cases value with
  | attached text apart => exact apart
  | behind bare => exact bare.ne_separator

-----------------------------------------------------------------------------------------
-- Recognising arguments
-----------------------------------------------------------------------------------------

/-- Every spelling leads with a hyphen and goes on without an equals sign. -/
theorem spelling_shape
    : ∀ entry ∈ Switch.spellings,
        entry.1.head? = some '-' ∧ entry.1.tail ≠ [] ∧ '=' ∉ entry.1 := by
  decide

theorem shape_of_spelled? {spelling : List Char} {switch : Switch}
    (known : Switch.spelled? spelling = some switch)
    : ∃ c rest, spelling = '-' :: c :: rest ∧ '=' ∉ spelling := by
  obtain ⟨entry, found, _⟩ := Option.map_eq_some_iff.mp known
  obtain rfl : entry.1 = spelling := by simpa using List.find?_some found
  obtain ⟨head, tail, unequal⟩ := spelling_shape entry (List.mem_of_find?_eq_some found)
  obtain ⟨rest, whole⟩ := List.head?_eq_some_iff.mp head
  rw [whole, List.tail_cons] at tail
  obtain ⟨c, more, rfl⟩ := List.exists_cons_of_ne_nil tail
  exact ⟨c, more, whole, unequal⟩

/-- A spelling with an equals sign behind it is a switch with all that follows attached. -/
theorem classifyDashed_attached {spelling : List Char} {switch : Switch}
    (known : Switch.spelled? spelling = some switch) (text : List Char)
    : classifyDashed (spelling ++ '=' :: text)
      = .ok (.switch switch (isShortSpelling spelling) (some text)) := by
  obtain ⟨c, rest, whole, unequal⟩ := shape_of_spelled? known
  have unknown : Switch.spelled? (spelling ++ '=' :: text) = none := by
    refine Option.eq_none_iff_forall_ne_some.mpr fun other found => ?_
    obtain ⟨_, _, _, unequal⟩ := shape_of_spelled? found
    simp at unequal
  have cut : Text.before '=' (spelling ++ '=' :: text) = spelling := by
    simp [unequal]
  have attached : attached? (spelling ++ '=' :: text) = some text := by
    simp [attached?, unequal]
  have short : isShortSpelling (spelling ++ '=' :: text) = isShortSpelling spelling := by
    rw [whole]
    rfl
  simp only [classifyDashed, unknown, cut, known, attached, short]

theorem classify_attached {spelling : String} {switch : Switch}
    (known : Switch.spelled? spelling.toList = some switch) (text : String)
    : classify (spelling ++ "=" ++ text)
      = .ok (.switch switch (isShortSpelling spelling.toList) (some text.toList)) := by
  have whole : (spelling ++ "=" ++ text).toList = spelling.toList ++ '=' :: text.toList := by
    simp
  have apart : spelling ++ "=" ++ text ≠ separator := by
    intro same
    have equal : '=' ∈ separator.toList := by
      rw [← same, whole]
      simp
    exact absurd equal (by decide)
  obtain ⟨c, rest, dashed, _⟩ := shape_of_spelled? known
  have found := classifyDashed_attached known text.toList
  rw [dashed] at whole found ⊢
  rw [classify, if_neg apart, whole]
  exact found

theorem classify_bare (bare : Bare)
    : classify bare.text = .ok .plain := by
  rw [classify, if_neg bare.ne_separator]
  split
  · next whole => exact absurd (by rw [whole]; rfl) bare.unhyphened
  · rfl

theorem classifyAll_cons {argument : String} {kind : Kind} (found : classify argument = .ok kind)
    (apart : kind ≠ .separator) (rest : List String)
    : classifyAll (argument :: rest)
      = (classifyAll rest).map ((argument, kind) :: ·) := by
  rw [classifyAll, found]
  cases kind with
  | separator => exact absurd rfl apart
  | plain | unknown | switch => rfl

-----------------------------------------------------------------------------------------
-- Recognising items
-----------------------------------------------------------------------------------------

/-- The arguments of a switch with a value, with their kinds. -/
def Value.classified (spelling : String) (switch : Switch) : Value → List (String × Kind)
  | .attached text _ => [(spelling ++ "=" ++ text, .switch switch false (some text.toList))]
  | .behind bare => [(spelling, .switch switch false none), (bare.text, .plain)]

/-- The arguments of an item with their kinds. -/
def Item.classified : Item → List (String × Kind)
  | .quiet false => [("-q", .switch .quiet true none)]
  | .quiet true => [("--quiet", .switch .quiet false none)]
  | .encoding value => value.classified "--encoding" .encoding
  | .timeout value _ _ => value.classified "--timeout" .timeout
  | .plain bare => [(bare.text, .plain)]

theorem Item.classified_plain (bare : Bare)
    : (Item.plain bare).classified = [(bare.text, .plain)] :=
  rfl

theorem classifyAll_value {spelling : String} {switch : Switch}
    (known : classify spelling = .ok (.switch switch false none))
    (spelled : Switch.spelled? spelling.toList = some switch)
    (long : isShortSpelling spelling.toList = false) (value : Value) (rest : List String)
    : classifyAll (value.arguments spelling ++ rest)
      = (classifyAll rest).map (value.classified spelling switch ++ ·) := by
  cases value with
  | attached text apart =>
      have found := classify_attached spelled text
      rw [long] at found
      exact classifyAll_cons found (by simp) rest
  | behind bare =>
      simp only [Value.arguments, Value.classified, List.cons_append, List.nil_append]
      rw [classifyAll_cons known (by simp), classifyAll_cons (classify_bare bare) (by simp)]
      cases classifyAll rest <;> rfl

/-- An item is recognised in front of any arguments. -/
theorem classifyAll_item (item : Item) (rest : List String)
    : classifyAll (item.arguments ++ rest) = (classifyAll rest).map (item.classified ++ ·) := by
  cases item with
  | quiet long => cases long <;> exact classifyAll_cons rfl (by simp) rest
  | encoding value => exact classifyAll_value rfl rfl rfl value rest
  | timeout value number reads => exact classifyAll_value rfl rfl rfl value rest
  | plain bare => exact classifyAll_cons (classify_bare bare) (by simp) rest

/-- Items are recognised one after the other. -/
theorem classifyAll_items (items : List Item) (rest : List String)
    : classifyAll (items.flatMap Item.arguments ++ rest)
      = (classifyAll rest).map (items.flatMap Item.classified ++ ·) := by
  induction items with
  | nil =>
      rw [List.flatMap_nil, List.flatMap_nil, List.nil_append]
      cases classifyAll rest <;> rfl
  | cons item more ih =>
      rw [List.flatMap_cons, List.flatMap_cons, List.append_assoc, classifyAll_item, ih]
      cases classifyAll rest with
      | error ambiguity => rfl
      | ok classified => simp [Except.map]

-----------------------------------------------------------------------------------------
-- What switches ask for
-----------------------------------------------------------------------------------------

/-- The options after the switches among some items: the last of each kind counts. -/
def switched (options : Options) (items : List Item) : Options :=
  { options with
    encoding := (items.filterMap Item.encoding?).getLast?.or options.encoding
    timeout := (items.filterMap Item.timeout?).getLast?.or options.timeout
    quiet := options.quiet || items.any Item.isQuiet }

@[simp]
theorem switched_nil (options : Options)
    : switched options [] = options := by
  simp [switched]

theorem switched_append (options : Options) (items more : List Item)
    : switched options (items ++ more) = switched (switched options items) more := by
  simp [switched, List.getLast?_append, Option.or_assoc, Bool.or_assoc]

theorem switched_cons (options : Options) (item : Item) (more : List Item)
    : switched options (item :: more) = switched (switched options [item]) more :=
  switched_append options [item] more

@[simp]
theorem switched_plain (options : Options) (bare : Bare)
    : switched options [.plain bare] = options := by
  simp [switched, Item.encoding?, Item.timeout?, Item.isQuiet]

theorem switched_quiet (options : Options) (long : Bool)
    : switched options [.quiet long] = { options with quiet := true } := by
  simp [switched, Item.encoding?, Item.timeout?, Item.isQuiet]

theorem switched_encoding (options : Options) (value : Value)
    : switched options [.encoding value] = { options with encoding := some value.text } := by
  simp [switched, Item.encoding?, Item.timeout?, Item.isQuiet]

theorem switched_timeout (options : Options) {value : Value} {number : Binary64}
    (reads : Reading.read? value.text.toList = some number)
    : switched options [.timeout value number reads] = { options with timeout := some number } := by
  simp [switched, Item.encoding?, Item.timeout?, Item.isQuiet]

theorem setValue_encoding (options : Options) (value : Value)
    : setValue options .encoding value.text
      = .ok { options with encoding := some value.text } := by
  simp only [setValue, if_neg value.ne_separator]

theorem setValue_timeout {options : Options} {value : Value} {number : Binary64}
    (reads : Reading.read? value.text.toList = some number)
    : setValue options .timeout value.text = .ok { options with timeout := some number } := by
  simp only [setValue, if_neg value.ne_separator, reads]

/-- A switch takes its own value, attached or behind it, and no other argument. -/
theorem collect_value {switch : Switch} (valued : switch.takesValue = true) {value : Value}
    {options next : Options} (set : setValue options switch value.text = .ok next)
    (filled : Bool) (spelling : String) (rest : List (String × Kind))
    : collect filled options (value.classified spelling switch ++ rest)
      = collect filled next rest := by
  cases value with
  | attached text apart =>
      have set : setValue options switch text = .ok next := set
      rw [Value.classified, List.singleton_append, collect_switch, takeSwitch_attached valued, set]
      rfl
  | behind bare =>
      have set : setValue options switch bare.text = .ok next := set
      rw [Value.classified, List.cons_append, List.singleton_append, collect_switch, nextPlain?,
        takeSwitch_behind valued, set]
      rfl

/-- A switch changes its own option and leaves the arguments behind it alone. -/
theorem collect_item {item : Item} (dashed : item.isPlain = false) (filled : Bool)
    (options : Options) (rest : List (String × Kind))
    : collect filled options (item.classified ++ rest)
      = collect filled (switched options [item]) rest := by
  cases item with
  | plain bare => cases dashed
  | quiet long =>
      rw [switched_quiet]
      cases long <;> exact collect_switch _ _ _ _ _ _ _
  | encoding value =>
      rw [switched_encoding]
      exact collect_value rfl (setValue_encoding options value) filled _ rest
  | timeout value number reads =>
      rw [switched_timeout]
      exact collect_value rfl (setValue_timeout reads) filled _ rest

/-- Switches in a row are collected, by induction on them. -/
theorem collect_switches {items : List Item} (dashed : ∀ item ∈ items, item.isPlain = false)
    (filled : Bool) (options : Options) (rest : List (String × Kind))
    : collect filled options (items.flatMap Item.classified ++ rest)
      = collect filled (switched options items) rest := by
  induction items generalizing options with
  | nil => simp
  | cons item more ih =>
      have first := dashed item List.mem_cons_self
      rw [List.flatMap_cons, List.append_assoc, collect_item first,
        ih fun other member => dashed other (List.mem_cons_of_mem _ member), ← switched_cons]

-----------------------------------------------------------------------------------------
-- Whole command lines
-----------------------------------------------------------------------------------------

/-- A command line is understood if it can be classified and nothing is left over. -/
theorem parse_of_collect {settings : Settings} {arguments : List String}
    {classified : List (String × Kind)} {options : Options} {left : List String}
    (found : classifyAll arguments = .ok classified)
    (collected : collect false (defaults settings) classified = .ok (options, left))
    : parse settings arguments
      = if left = [] then .ok options else .error (.usage (.unrecognized left)) := by
  rw [parse, found]
  simp only [collected]
  cases left <;> rfl

end CssMinifier.Options
