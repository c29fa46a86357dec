import DiagramDiff.CommandLine.Arguments
import Mathlib.Data.List.Forall2
import Mathlib.Data.List.Induction
import Mathlib.Data.List.Nodup
import Mathlib.Data.List.Perm.Basic

/-!
# Which argument lists are accepted

An argument list is read in one pass that keeps what it has seen so far. What it accepts is said
here without the pass (`ofList?_exact`): the list is a concatenation of items (`Item`), and the
items together are well formed (`WellFormed`). An item is two arguments where an option takes the
next argument as its value. Whatever stands there is the value, so `--config --json` is one item
and sets no flag.

The pass over arguments is a pass over items (`extend?_flatMap`). An item fails if its flag or
option was there before, and else adds what it stands for (`Answers.isSome_take?_iff`,
`Answers.of_take?`), so a run over all items fails if one of them occurs twice. What is read answers
the items and depends on nothing but them and the order of the inputs. The order of the other items
does not matter.
-/

namespace DiagramDiff.CommandLine

/-! ## Names of levels and of inputs -/

/-- A text is the name of a level, each letter in lower or in upper case. -/
def NamesLevel (s : String) : Prop :=
  ∃ level ∈ levels, List.Forall₂ (fun l c => c = l ∨ c = l.toUpper) level.toList s.toList

/-- A text stands where an input may: it is the one for standard input, or does not begin with a
dash. -/
def Positional (s : String) : Prop := s = standardInput ∨ ¬ ['-'] <+: s.toList

/-- An upper-case code moves to a lower-case one if that moves back to it. -/
theorem add_case_eq_iff {x y : UInt32} (large : 65 ≤ x ∧ x ≤ 90) (small : 97 ≤ y ∧ y ≤ 122) :
    x + (97 - 65) = y ↔ x = y ∨ x = y + (65 - 97) := by
  grind

/-- The characters with a given lower-case letter as lower case are its two cases. -/
theorem toLower_eq_iff {l c : Char} (lower : l.isLower = true) :
    c.toLower = l ↔ c = l ∨ c = l.toUpper := by
  obtain ⟨fromA, toZ⟩ := Bool.and_eq_true_iff.mp lower
  have small : 97 ≤ l.val ∧ l.val ≤ 122 := ⟨of_decide_eq_true fromA, of_decide_eq_true toZ⟩
  have upper : l.toUpper = _ := dif_pos small
  rw [upper, Char.ext_iff, Char.ext_iff, Char.ext_iff]
  by_cases large : 65 ≤ c.val ∧ c.val ≤ 90
  · have lowered : c.toLower = _ := dif_pos large
    rw [lowered]
    exact add_case_eq_iff large small
  · have same : c.toLower = c := dif_neg large
    have other : c.val ≠ l.val + (65 - 97) := by grind
    rw [same]
    exact (or_iff_left other).symm

/-- Levels are recognised by their names. -/
theorem isLevel_iff (s : String) : isLevel s = true ↔ NamesLevel s := by
  have lower : levels.all (fun level => level.toList.all Char.isLower) = true := by decide
  unfold isLevel NamesLevel
  rw [List.any_eq_true]
  refine exists_congr fun level => and_congr_right fun listed => ?_
  have each := List.all_eq_true.mp (List.all_eq_true.mp lower level listed)
  rw [beq_iff_eq, ← List.forall₂_eq_eq_eq, List.forall₂_map_right_iff]
  constructor
  · intro h
    refine ((List.forall₂_and_left _ _).mpr ⟨each, h⟩).imp ?_
    rintro l c ⟨small, eq⟩
    exact (toLower_eq_iff small).mp eq.symm
  · intro h
    refine ((List.forall₂_and_left _ _).mpr ⟨each, h⟩).imp ?_
    rintro l c ⟨small, cased⟩
    exact ((toLower_eq_iff small).mpr cased).symm

/-- Inputs are recognised by their first character. -/
theorem isInput_iff (s : String) : isInput s = true ↔ Positional s := by
  unfold isInput Positional
  rw [Bool.or_eq_true, beq_iff_eq, bne_iff_ne]
  refine or_congr_right (not_congr ?_)
  cases s.toList <;> simp [eq_comm]

/-! ## Items -/

/-- An item of an argument list. -/
inductive Item where
  /-- A flag. -/
  | flag (f : Flag)
  /-- The option that names a settings file, with any text as its value. -/
  | settings (path : String)
  /-- The option that sets the level of log records, with a level as its value. -/
  | level (name : String) (named : NamesLevel name)
  /-- An input. -/
  | input (name : String) (positional : Positional name)

namespace Item

/-- The arguments that write an item. -/
def words : Item → List String
  | .flag f => [f.word]
  | .settings path => [settingsWord, path]
  | .level name _ => [levelWord, name]
  | .input name _ => [name]

/-- What an item may settle, and no other item with it: a flag or one of the two options. -/
inductive Key where
  /-- A flag. -/
  | flag (f : Flag)
  /-- The option that names a settings file. -/
  | settings
  /-- The option that sets the level of log records. -/
  | level

/-- The flag or option of an item, if it is not an input. -/
def key? : Item → Option Key
  | .flag f => some (.flag f)
  | .settings _ => some .settings
  | .level _ _ => some .level
  | .input _ _ => none

/-- The input of an item. -/
def input? : Item → Option String
  | .input name _ => some name
  | _ => none

end Item

/-- The flags and options of a list of items. -/
def keysOf (items : List Item) : List Item.Key := items.filterMap Item.key?

/-- The inputs of a list of items. -/
def inputsOf (items : List Item) : List String := items.filterMap Item.input?

/-- Items that make up an acceptable argument list. -/
structure WellFormed (items : List Item) : Prop where
  /-- Each flag and each option occurs at most once. -/
  once : (keysOf items).Nodup
  /-- Either the schema is asked for and there are no inputs, or it is not and there are at least
  two inputs, of which at most one is standard input. -/
  asks : Item.flag .schema ∈ items ∧ inputsOf items = [] ∨
    Item.flag .schema ∉ items ∧ 2 ≤ (inputsOf items).length ∧
      (inputsOf items).count standardInput ≤ 1

/-- Arguments answer a list of items: each field has the value of the item that it is for. -/
structure Answers (a : Arguments) (items : List Item) : Prop where
  /-- The flags are those among the items. -/
  flags : ∀ f, a.has f = true ↔ Item.flag f ∈ items
  /-- The settings file is the one among the items. -/
  settings : ∀ path, a.settings = some path ↔ Item.settings path ∈ items
  /-- The level is the one among the items. -/
  level : ∀ name, a.level = some name ↔ ∃ named, Item.level name named ∈ items
  /-- The inputs are those among the items, in order. -/
  inputs : a.inputs = inputsOf items

/-! ## Reading an item -/

/-- A flag is recognised by its word. -/
theorem Flag.ofWord?_eq_some_iff {s : String} {f : Flag} : ofWord? s = some f ↔ s = f.word := by
  constructor
  · intro h
    have found := List.find?_some (p := fun flag : Flag => flag.word == s) h
    exact (beq_iff_eq.mp found).symm
  · rintro rfl
    cases f <;> decide

/-- What begins with two dashes is no input. -/
theorem Positional.ne {name word : String} (positional : Positional name)
    (dashes : ['-', '-'] <+: word.toList) : name ≠ word := by
  rintro rfl
  rcases positional with rfl | undashed
  · revert dashes
    decide
  · have dash : ['-'] <+: ['-', '-'] := ⟨['-'], rfl⟩
    exact undashed (dash.trans dashes)

theorem Flag.dashes_word (f : Flag) : ['-', '-'] <+: f.word.toList := by
  cases f <;> decide

namespace Arguments

/-- The arguments extended by an item, unless its flag is set or its option has a value. -/
def take? (a : Arguments) : Item → Option Arguments
  | .flag f => if a.has f then none else some (a.set f)
  | .settings path => if a.settings.isSome then none else some { a with settings := some path }
  | .level name _ => if a.level.isSome then none else some { a with level := some name }
  | .input name _ => some { a with inputs := a.inputs ++ [name] }

/-- The words of an item are read as the item. -/
theorem extend?_words_append (a : Arguments) (item : Item) (rest : List String) :
    a.extend? (item.words ++ rest) = (a.take? item).bind (·.extend? rest) := by
  cases item with
  | flag f =>
    have read : Flag.ofWord? f.word = some f := Flag.ofWord?_eq_some_iff.mpr rfl
    rw [Item.words, List.singleton_append, extend?.eq_def]
    simp only [read, take?]
    split <;> rfl
  | settings path =>
    have read : Flag.ofWord? settingsWord = none := by decide
    rw [Item.words, List.cons_append, List.singleton_append, extend?.eq_def]
    simp only [read, take?, if_true]
    split <;> rfl
  | level name named =>
    have read : Flag.ofWord? levelWord = none := by decide
    have other : levelWord ≠ settingsWord := by decide
    have value := (isLevel_iff name).mpr named
    rw [Item.words, List.cons_append, List.singleton_append, extend?.eq_def]
    simp only [read, take?, other, value, if_true, if_false, Bool.not_true, Bool.or_false]
    split <;> rfl
  | input name positional =>
    have read : Flag.ofWord? name = none := by
      rw [Option.eq_none_iff_forall_ne_some]
      intro f h
      exact positional.ne f.dashes_word (Flag.ofWord?_eq_some_iff.mp h)
    have noSettings : name ≠ settingsWord := positional.ne (by decide)
    have noLevel : name ≠ levelWord := positional.ne (by decide)
    have value := (isInput_iff name).mpr positional
    rw [Item.words, List.singleton_append, extend?.eq_def]
    simp only [read, take?, noSettings, noLevel, value, if_true, if_false, Option.bind_some]

/-- The words of items are read item by item. -/
theorem extend?_flatMap (a : Arguments) (items : List Item) :
    a.extend? (items.flatMap Item.words) = items.foldlM take? a := by
  induction items generalizing a with
  | nil => rfl
  | cons item items ih =>
    rw [List.flatMap_cons, extend?_words_append, List.foldlM_cons]
    exact Option.bind_congr fun b _ => ih b

/-- What is read is made up of items. -/
theorem exists_items_of_extend? {a b : Arguments} {words : List String}
    (h : a.extend? words = some b) : ∃ items : List Item, words = items.flatMap Item.words := by
  fun_induction extend? a words with
  | case1 a => exact ⟨[], rfl⟩
  | case3 a word rest flag read fresh ih =>
    obtain ⟨items, rfl⟩ := ih h
    obtain rfl := Flag.ofWord?_eq_some_iff.mp read
    exact ⟨.flag flag :: items, rfl⟩
  | case6 a path rest fresh read ih =>
    obtain ⟨items, rfl⟩ := ih h
    exact ⟨.settings path :: items, rfl⟩
  | case9 a name rest fresh read other ih =>
    obtain ⟨items, rfl⟩ := ih h
    have named : isLevel name = true := by
      simp only [Bool.or_eq_true, Bool.not_eq_true', not_or, Bool.not_eq_false] at fresh
      exact fresh.2
    exact ⟨.level name ((isLevel_iff name).mp named) :: items, rfl⟩
  | case10 a name rest read noSettings noLevel isInput' ih =>
    obtain ⟨items, rfl⟩ := ih h
    exact ⟨.input name ((isInput_iff name).mp isInput') :: items, rfl⟩
  | case2 | case4 | case5 | case7 | case8 | case11 => cases h

/-! ## What an item changes -/

theorem has_set (a : Arguments) (f g : Flag) :
    (a.set f).has g = true ↔ a.has g = true ∨ g = f := by
  cases f <;> cases g <;> simp [set, has]

@[simp] theorem settings_set (a : Arguments) (f : Flag) : (a.set f).settings = a.settings := by
  cases f <;> rfl

@[simp] theorem level_set (a : Arguments) (f : Flag) : (a.set f).level = a.level := by
  cases f <;> rfl

@[simp] theorem inputs_set (a : Arguments) (f : Flag) : (a.set f).inputs = a.inputs := by
  cases f <;> rfl

@[simp] theorem has_settings (a : Arguments) (path : Option String) (f : Flag) :
    { a with settings := path }.has f = a.has f := by
  cases f <;> rfl

@[simp] theorem has_level (a : Arguments) (name : Option String) (f : Flag) :
    { a with level := name }.has f = a.has f := by
  cases f <;> rfl

@[simp] theorem has_inputs (a : Arguments) (names : List String) (f : Flag) :
    { a with inputs := names }.has f = a.has f := by
  cases f <;> rfl

/-- Arguments that agree on flags, options and inputs are the same. -/
theorem eq_of_has {a b : Arguments} (flags : ∀ f, a.has f = b.has f)
    (settings : a.settings = b.settings) (level : a.level = b.level) (inputs : a.inputs = b.inputs) :
    a = b := by
  have json := flags .json
  have noHighlight := flags .noHighlight
  have noColor := flags .noColor
  have check := flags .check
  have schema := flags .schema
  cases a
  cases b
  simp_all only [has]

end Arguments

section items

variable {items items' : List Item} {item : Item} {a b : Arguments} {f : Flag}

/-! ## The keys among the items -/

/-- A flag is a key if the flag is an item. -/
theorem flag_mem_keysOf_iff : .flag f ∈ keysOf items ↔ Item.flag f ∈ items := by
  unfold keysOf
  rw [List.mem_filterMap]
  constructor
  · rintro ⟨item, there, keyed⟩
    cases item with
    | flag g =>
      cases keyed
      exact there
    | settings | level | input => cases keyed
  · intro there
    exact ⟨_, there, rfl⟩

/-- The settings file is a key if some item names one. -/
theorem settings_mem_keysOf_iff : .settings ∈ keysOf items ↔ ∃ path, Item.settings path ∈ items := by
  unfold keysOf
  rw [List.mem_filterMap]
  constructor
  · rintro ⟨item, there, keyed⟩
    cases item with
    | settings path => exact ⟨path, there⟩
    | flag | level | input => cases keyed
  · rintro ⟨path, there⟩
    exact ⟨_, there, rfl⟩

/-- The level is a key if some item names one. -/
theorem level_mem_keysOf_iff :
    .level ∈ keysOf items ↔ ∃ name named, Item.level name named ∈ items := by
  unfold keysOf
  rw [List.mem_filterMap]
  constructor
  · rintro ⟨item, there, keyed⟩
    cases item with
    | level name named => exact ⟨name, named, there⟩
    | flag | settings | input => cases keyed
  · rintro ⟨name, named, there⟩
    exact ⟨_, there, rfl⟩

/-- What is picked out of a list with one more item. -/
theorem filterMap_concat {β : Type} (pick : Item → Option β) (items : List Item) (item : Item) :
    (items ++ [item]).filterMap pick = items.filterMap pick ++ (pick item).toList := by
  rw [List.filterMap_append]
  cases h : pick item <;> simp [h]

theorem keysOf_concat (items : List Item) (item : Item) :
    keysOf (items ++ [item]) = keysOf items ++ item.key?.toList :=
  filterMap_concat Item.key? items item

theorem inputsOf_concat (items : List Item) (item : Item) :
    inputsOf (items ++ [item]) = inputsOf items ++ item.input?.toList :=
  filterMap_concat Item.input? items item

/-! ## Arguments that answer items -/

namespace Answers

/-- Arguments that were not extended answer no items. -/
theorem nil : Answers {} [] where
  flags f := by cases f <;> simp [Arguments.has]
  settings path := by simp
  level name := by simp
  inputs := rfl

/-- An item has room in the arguments if its flag or option was not there before. -/
theorem isSome_take?_iff (answers : Answers a items) :
    (a.take? item).isSome = true ↔ ∀ key, item.key? = some key → key ∉ keysOf items := by
  cases item with
  | flag f =>
    have there := (answers.flags f).trans flag_mem_keysOf_iff.symm
    simp [Arguments.take?, Item.key?, ← there]
  | settings path =>
    have there : a.settings.isSome = true ↔ .settings ∈ keysOf items := by
      simp only [Option.isSome_iff_exists, answers.settings, settings_mem_keysOf_iff]
    simp [Arguments.take?, Item.key?, ← there]
  | level name named =>
    have there : a.level.isSome = true ↔ .level ∈ keysOf items := by
      simp only [Option.isSome_iff_exists, answers.level, level_mem_keysOf_iff]
    simp [Arguments.take?, Item.key?, ← there]
  | input name positional => simp [Arguments.take?, Item.key?]

/-- Arguments extended by an item answer it along with the items before it. -/
theorem of_take? (answers : Answers a items) (taken : a.take? item = some b) :
    Answers b (items ++ [item]) := by
  obtain ⟨flags, settings, level, inputs⟩ := answers
  cases item with
  | flag f =>
    simp only [Arguments.take?, Option.ite_none_left_eq_some, Option.some_inj] at taken
    obtain ⟨-, rfl⟩ := taken
    constructor
    case flags => simp [Arguments.has_set, flags]
    case settings => simp [settings]
    case level => simp [level]
    case inputs => simp [inputsOf_concat, Item.input?, inputs]
  | settings path =>
    simp only [Arguments.take?, Option.ite_none_left_eq_some, Option.some_inj] at taken
    obtain ⟨unset, rfl⟩ := taken
    have first (other : String) : Item.settings other ∉ items := by
      rw [← settings]
      intro there
      simp [there] at unset
    constructor
    case flags => simp [flags]
    case settings => simp [first, eq_comm]
    case level => simp [level]
    case inputs => simp [inputsOf_concat, Item.input?, inputs]
  | level name named =>
    simp only [Arguments.take?, Option.ite_none_left_eq_some, Option.some_inj] at taken
    obtain ⟨unset, rfl⟩ := taken
    have first (other : String) (named : NamesLevel other) : Item.level other named ∉ items := by
      intro there
      simp [(level other).mpr ⟨named, there⟩] at unset
    constructor
    case flags => simp [flags]
    case settings => simp [settings]
    case level =>
      intro other
      constructor
      · rintro ⟨⟩
        exact ⟨named, List.mem_append_right _ List.mem_cons_self⟩
      · rintro ⟨named', there⟩
        rcases List.mem_append.mp there with before | here
        · exact absurd before (first other named')
        · cases List.mem_singleton.mp here
          rfl
    case inputs => simp [inputsOf_concat, Item.input?, inputs]
  | input name positional =>
    obtain rfl := Option.some_inj.mp taken
    constructor
    case flags => simp [flags]
    case settings => simp [settings]
    case level => simp [level]
    case inputs => simp [inputsOf_concat, Item.input?, inputs]

/-- Arguments that answer the same items with the inputs in the same order are the same. -/
theorem unique (answers : Answers a items) (answers' : Answers b items')
    (same : ∀ item, item ∈ items ↔ item ∈ items') (ordered : inputsOf items = inputsOf items') :
    a = b := by
  apply Arguments.eq_of_has
  · intro f
    rw [Bool.eq_iff_iff, answers.flags, answers'.flags, same]
  · ext path
    rw [answers.settings, answers'.settings, same]
  · ext name
    simp only [answers.level, answers'.level, same]
  · rw [answers.inputs, answers'.inputs, ordered]

/-- Whether arguments are accepted shows in the items that they answer. -/
theorem accepted_iff (answers : Answers a items) :
    a.accepted = true ↔ Item.flag .schema ∈ items ∧ inputsOf items = [] ∨
      Item.flag .schema ∉ items ∧ 2 ≤ (inputsOf items).length ∧
        (inputsOf items).count standardInput ≤ 1 := by
  have schema : a.schema = true ↔ Item.flag .schema ∈ items := answers.flags .schema
  unfold Arguments.accepted
  rw [← schema, answers.inputs]
  cases a.schema <;> simp

end Answers

/-! ## Whole lists -/

theorem foldlM_concat (items : List Item) (item : Item) :
    (items ++ [item]).foldlM Arguments.take? {} =
      (items.foldlM Arguments.take? {}).bind (·.take? item) := by
  simp [List.foldlM_append]

/-- A run over items leaves arguments that answer all of them. -/
theorem answers_of_foldlM (h : items.foldlM Arguments.take? {} = some a) : Answers a items := by
  induction items using List.reverseRecOn generalizing a with
  | nil =>
    obtain rfl := Option.some_inj.mp h
    exact .nil
  | append_singleton items item ih =>
    rw [foldlM_concat, Option.bind_eq_some_iff] at h
    obtain ⟨before, read, taken⟩ := h
    exact (ih read).of_take? taken

/-- A run over items succeeds if no flag and no option occurs twice. -/
theorem isSome_foldlM_iff :
    (items.foldlM Arguments.take? {}).isSome = true ↔ (keysOf items).Nodup := by
  induction items using List.reverseRecOn with
  | nil => simp [keysOf]
  | append_singleton items item ih =>
    rw [foldlM_concat, keysOf_concat]
    cases read : items.foldlM Arguments.take? {} with
    | none =>
      rw [read] at ih
      simp [List.nodup_append, ← ih]
    | some a =>
      have once : (keysOf items).Nodup := by
        rw [← ih, read]
        rfl
      rw [Option.bind_some, (answers_of_foldlM read).isSome_take?_iff]
      cases item.key? with
      | none => simp [once]
      | some key =>
        rw [Option.toList_some, ← List.concat_eq_append, List.nodup_concat]
        simp [once]

/-- What an argument list that is written by items asks for. -/
theorem ofList?_flatMap_eq_some_iff : Arguments.ofList? (items.flatMap Item.words) = some a ↔
    items.foldlM Arguments.take? {} = some a ∧ a.accepted = true := by
  rw [Arguments.ofList?, Arguments.extend?_flatMap, Option.filter_eq_some_iff]

/-- Well-formed items stay so in any arrangement that keeps the order of the inputs. -/
theorem WellFormed.of_perm (formed : WellFormed items) (rearranged : items.Perm items')
    (ordered : inputsOf items = inputsOf items') : WellFormed items' where
  once := (rearranged.filterMap Item.key?).nodup_iff.mp formed.once
  asks := by
    rw [← ordered, ← rearranged.mem_iff]
    exact formed.asks

/-- An argument list that is written by items is accepted if they are well formed. -/
theorem isSome_ofList?_flatMap_iff :
    (Arguments.ofList? (items.flatMap Item.words)).isSome = true ↔ WellFormed items := by
  simp only [Option.isSome_iff_exists, ofList?_flatMap_eq_some_iff]
  constructor
  · rintro ⟨a, read, accepted⟩
    refine ⟨isSome_foldlM_iff.mp ?_, (answers_of_foldlM read).accepted_iff.mp accepted⟩
    rw [read]
    rfl
  · rintro ⟨once, asks⟩
    obtain ⟨a, read⟩ := Option.isSome_iff_exists.mp (isSome_foldlM_iff.mpr once)
    exact ⟨a, read, (answers_of_foldlM read).accepted_iff.mpr asks⟩

/-- What a well-formed argument list asks for answers its items. -/
theorem answers_of_ofList? (h : Arguments.ofList? (items.flatMap Item.words) = some a) :
    Answers a items :=
  answers_of_foldlM (ofList?_flatMap_eq_some_iff.mp h).1

/-- Rearranged items with the inputs in the same order ask for the same. -/
theorem ofList?_eq_some_of_perm (rearranged : items.Perm items')
    (ordered : inputsOf items = inputsOf items')
    (h : Arguments.ofList? (items.flatMap Item.words) = some a) :
    Arguments.ofList? (items'.flatMap Item.words) = some a := by
  have formed : WellFormed items := isSome_ofList?_flatMap_iff.mp (h ▸ rfl)
  have formed' := formed.of_perm rearranged ordered
  obtain ⟨b, h'⟩ := Option.isSome_iff_exists.mp (isSome_ofList?_flatMap_iff.mpr formed')
  rw [h', (answers_of_ofList? h).unique (answers_of_ofList? h') (fun _ => rearranged.mem_iff) ordered]

end items

/-- Command-line arguments are accepted exactly if they are well formed: if they are a
concatenation, in any order, of items among which each flag and each option occurs at most once,
and that either ask for the schema and name no inputs, or do not and name at least two, of which at
most one is standard input. What is read has the value of each item in its field, the first input
as the reference and the others, in order, as the candidates. So a rearrangement of the items that
keeps the order of the inputs does not change it. -/
theorem Arguments.ofList?_exact :
    (∀ words : List String, (ofList? words).isSome = true ↔
      ∃ items : List Item, words = items.flatMap Item.words ∧ WellFormed items) ∧
    (∀ (items : List Item) (a : Arguments), ofList? (items.flatMap Item.words) = some a →
      Answers a items ∧ a.reference? = (inputsOf items).head? ∧
        a.candidates = (inputsOf items).tail) ∧
    ∀ items items' : List Item, items.Perm items' → inputsOf items = inputsOf items' →
      ofList? (items.flatMap Item.words) = ofList? (items'.flatMap Item.words) := by
  refine ⟨fun words => ⟨?_, ?_⟩, ?_, ?_⟩
  · intro accepted
    obtain ⟨a, h⟩ := Option.isSome_iff_exists.mp accepted
    obtain ⟨items, rfl⟩ := exists_items_of_extend? (Option.filter_eq_some_iff.mp h).1
    exact ⟨items, rfl, isSome_ofList?_flatMap_iff.mp accepted⟩
  · rintro ⟨items, rfl, formed⟩
    exact isSome_ofList?_flatMap_iff.mpr formed
  · intro items a h
    have answers := answers_of_ofList? h
    exact ⟨answers, congrArg List.head? answers.inputs, congrArg List.tail answers.inputs⟩
  · intro items items' rearranged ordered
    ext a
    exact ⟨ofList?_eq_some_of_perm rearranged ordered,
      ofList?_eq_some_of_perm rearranged.symm ordered.symm⟩

/-- An option takes the argument after it, whatever that looks like. -/
example : Arguments.ofList? ["--config", "--json", "a", "--log-level", "Debug", "-"] =
    some { settings := "--json", level := "Debug", inputs := ["a", "-"] } := by decide

end DiagramDiff.CommandLine
