import DiagramDiff.Proofs.Mermaid.ClassHeaders
import DiagramDiff.Proofs.Mermaid.ClassLayout
import DiagramDiff.Proofs.Mermaid.TypeArguments

/-!
# A property with type arguments

What is read of a class whose one member is a property with a type, given as a term. The body has
that one entry whatever the type is (`entries_termBody`), and the entry is read as the property or
passed over altogether, depending on where the commas of the type stand
(`readProperty?_writtenTerm`). Nothing else is read of the text, so the class has the property or
no members at all (`ofText_typedProperty`); `A~B~C, D~~` is a type of the second kind
(`ofText_lostProperty`).
-/

namespace DiagramDiff.Mermaid

open Text

/-- Letters, digits and underscores of ASCII make up names of types. -/
theorem isTypeName_of_ascii {word : List Char} (nonempty : word ≠ [])
    (h : word.all isAsciiWord = true) : IsTypeName word := by
  have ascii : ∀ c ∈ word, isAsciiWord c = true := List.all_eq_true.mp h
  refine ⟨⟨nonempty, fun c hc => ?_⟩, fun c hc => ?_⟩
  · simp [isWord, toNat_lt_of_isAsciiWord (ascii c hc), ascii c hc]
  · simp [isNameLetter, toNat_lt_of_isAsciiWord (ascii c hc), ascii c hc]

/-! ## The property -/

section property

variable {property : List Char} (hp : IsName property) (t : TypeTerm)

include hp

/-- A property with its type is not cut. -/
theorem cutFrom_writtenTerm (before : Option Char) :
    cutFrom .none before (writtenTyped property t.chars) = [writtenTyped property t.chars] := by
  have front : Uncut .none .none before ('+' :: (property ++ [':', ' '])) (t.chars ++ []) :=
    cutFrom_run (passes_typed_front hp) before _
  have whole := front.append (uncut_chars t .none _ [] rfl)
  have shape : '+' :: (property ++ [':', ' ']) ++ t.chars = writtenTyped property t.chars := by
    simp [writtenTyped]
  rw [shape] at whole
  simpa [Uncut, cutFrom] using whole

/-- A property with its type is one entry. -/
theorem entries_writtenTerm :
    entries (writtenTyped property t.chars) = [writtenTyped property t.chars] := by
  have indent : IsWhite memberIndent := forall_mem_of_all (by decide)
  have trimmed := @isTrimmed_writtenTyped property t.chars t.chars_ne_nil t.getLast?_chars
  rw [← entries_white_append indent]
  exact entries_indented (List.cons_ne_nil _ _) trimmed (by simp [writtenTyped])
    (cutFrom_writtenTerm hp t _)

/-- A property with a type is read if every comma of the type stands between paired tildes, and
passed over otherwise. -/
theorem readProperty?_writtenTerm :
    readProperty? (writtenTyped property t.chars) =
      if t.commasInPairs false then some ⟨String.ofList property, t.text⟩ else none := by
  obtain ⟨c, rest, shape, hc, -⟩ := t.exists_cons
  have letter : t.chars.head?.any isBlank = false := by
    rw [shape]
    exact isBlank_of_isWord hc
  have type : readType? t.chars = some (typeTail false t.chars) := by
    rw [shape]
    simp only [readType?, hc, if_true]
  rw [readProperty?_writtenTyped hp letter type]
  cases paired : t.commasInPairs false with
  | true =>
    have taken := taken_chars t false [] (by simp) paired
    rw [Taken, List.append_nil, typeTail, List.append_nil] at taken
    rw [taken]
    rfl
  | false =>
    obtain ⟨after, stop⟩ := endsAtComma_chars t false [] (by simp) paired
    rw [List.append_nil] at stop
    have more : endsMember (',' :: after) = false := by
      cases after <;> rfl
    rw [stop, more]
    rfl

end property

/-! ## The class -/

/-- A body whose one line is a property with its type. -/
def termBody (property : List Char) (t : TypeTerm) : List Char :=
  ['\n', ' ', ' '] ++ (writtenTyped property t.chars ++ ['\n'])

section body

variable {property : List Char} (hp : IsName property) (t : TypeTerm)

include hp

/-- The characters of the body. -/
theorem holdsOnly_termBody :
    HoldsOnly ['\n', ' ', '+', ':', '~', ','] (termBody property t) := by
  have indent : HoldsOnly ['\n', ' ', '+', ':', '~', ','] ['\n', ' ', ' '] :=
    .of_subset (by decide)
  have feed : HoldsOnly ['\n', ' ', '+', ':', '~', ','] ['\n'] := .of_subset (by decide)
  have line := (holdsOnly_writtenTyped hp t.holdsOnly_chars).mono
    (by decide : ['+', ':', ' ', '~', ',', ' '] ⊆ ['\n', ' ', '+', ':', '~', ','])
  exact indent.append (line.append feed)

/-- The property is the only entry of the body. -/
theorem entries_termBody : entries (termBody property t) = [writtenTyped property t.chars] := by
  have indent : IsWhite ['\n', ' ', ' '] := forall_mem_of_all (by decide)
  have none : entries [] = [] := rfl
  rw [termBody, entries_white_append indent, entries_line, entries_writtenTerm hp, none,
    List.append_nil]

/-- The class of the body has the property, if it is read, and nothing else. -/
theorem classOfBody_termBody (name : String) :
    classOfBody name (termBody property t) =
      { name := name
        properties :=
          if t.commasInPairs false then [⟨String.ofList property, t.text⟩] else []
        methods := []
        annotations := [] } := by
  have holds := holdsOnly_writtenTyped hp t.holdsOnly_chars
  have bracket : '<' ∉ writtenTyped property t.chars := holds.not_mem (by decide) (by decide)
  have call : methodName? (writtenTyped property t.chars) = none :=
    methodName?_of_not_mem (holds.not_mem (by decide) (by decide))
  have members : bodyMembers (termBody property t) = [writtenTyped property t.chars] := by
    rw [bodyMembers, entries_termBody hp, List.map_singleton,
      entryMember_of_not_mem bracket (isTrimmed_writtenTyped t.chars_ne_nil t.getLast?_chars)]
    rfl
  have methods : bodyMethods (termBody property t) = [] := by
    rw [bodyMethods, members]
    simp [methodsOf, call]
  have annotations : bodyAnnotations (termBody property t) = [] := by
    rw [bodyAnnotations, entries_termBody hp]
    simp [entryStereotypes_of_not_mem bracket]
  have properties : bodyProperties (termBody property t) =
      if t.commasInPairs false then [⟨String.ofList property, t.text⟩] else [] := by
    rw [bodyProperties, methods, members]
    simp only [propertiesBut, List.filter_cons, call, Option.isNone_none, if_true, List.filter_nil,
      List.filterMap_cons, readProperty?_writtenTerm hp]
    cases t.commasInPairs false <;> simp
  rw [classOfBody, properties, methods, annotations]

end body

/-- A class with a body whose one line is a property with its type. -/
def termClass (name property : List Char) (t : TypeTerm) : List Char :=
  classHeader name ++ ' ' :: '{' :: (termBody property t ++ ['}'])

/-- The text holds one declaration. -/
theorem declarations_termClass {name property : List Char} (hn : IsName name)
    (hp : IsName property) (t : TypeTerm) :
    declarations (termClass name property t) = [⟨name, some (termBody property t)⟩] := by
  have brace : '}' ∉ termBody property t :=
    (holdsOnly_termBody hp t).not_mem (by decide) (by decide)
  have shape : termClass name property t =
      HeaderLayout.plain.chars name ++ (termBody property t ++ ['}']) := by
    simp [termClass, HeaderLayout.chars_plain]
  rw [shape, HeaderLayout.plain.declarations_chars hn, readBody?_braces brace]
  rfl

/-- The characters of the text. -/
theorem holdsOnly_termClass {name property : List Char} (hn : IsName name)
    (hp : IsName property) (t : TypeTerm) :
    HoldsOnly ['{', '}', '\n', ' ', '+', ':', '~', ','] (termClass name property t) := by
  have keyword : HoldsOnly ['{', '}', '\n', ' ', '+', ':', '~', ',']
      ['c', 'l', 'a', 's', 's', ' '] := by
    intro c hc
    simp only [List.mem_cons, List.not_mem_nil, or_false] at hc
    rcases hc with rfl | rfl | rfl | rfl | rfl | rfl <;> decide
  have opening : HoldsOnly ['{', '}', '\n', ' ', '+', ':', '~', ','] [' ', '{'] :=
    .of_subset (by decide)
  have closing : HoldsOnly ['{', '}', '\n', ' ', '+', ':', '~', ','] ['}'] :=
    .of_subset (by decide)
  have body := (holdsOnly_termBody hp t).mono
    (by decide : ['\n', ' ', '+', ':', '~', ','] ⊆ ['{', '}', '\n', ' ', '+', ':', '~', ','])
  exact (keyword.append (hn.holdsOnly _)).append (opening.append (body.append closing))

end DiagramDiff.Mermaid

namespace DiagramDiff.Diagram

open Mermaid Text

/-- A class whose one member is a property with a type, however deep its type arguments are nested:
the class is read, and the property with its whole type exactly if every comma of the type stands
between paired tildes. Otherwise the property is passed over. -/
theorem ofText_typedProperty {name property : String} (hn : IsName name.toList)
    (hp : IsName property.toList) (t : TypeTerm) :
    ofText ("class " ++ name ++ " \x7b\n  +" ++ property ++ ": " ++ t.text ++ "\n\x7d") =
      { classes :=
          [{ name := name
             properties := if t.commasInPairs false then [⟨property, t.text⟩] else []
             methods := []
             annotations := [] }]
        links := [] } := by
  have chars : ("class " ++ name ++ " \x7b\n  +" ++ property ++ ": " ++ t.text ++ "\n\x7d").toList =
      termClass name.toList property.toList t := by
    simp [termClass, classHeader, termBody, writtenTyped, TypeTerm.text]
  have holds := holdsOnly_termClass hn hp t
  have hyphen : '-' ∉ termClass name.toList property.toList t :=
    holds.not_mem (by decide) (by decide)
  have stop : '.' ∉ termClass name.toList property.toList t :=
    holds.not_mem (by decide) (by decide)
  have percent : '%' ∉ termClass name.toList property.toList t :=
    holds.not_mem (by decide) (by decide)
  have bracket : '<' ∉ termClass name.toList property.toList t :=
    holds.not_mem (by decide) (by decide)
  have classes : declaredClasses (termClass name.toList property.toList t) =
      [classOfBody name (termBody property.toList t)] := by
    rw [declaredClasses, declarations_termClass hn hp]
    simp [Declaration.classNode, ClassNode.declare]
  rw [ofText, chars, ofChars, stripComments_of_not_mem percent, blankLabels_of_not_mem hyphen stop,
    textLinks, linkTexts_of_not_mem hyphen stop, textClasses, tagLines_of_not_mem bracket, classes,
    classOfBody_termBody hp, String.ofList_toList]
  rfl

/-- The name of a type in ASCII. -/
def asciiName (word : String)
    (h : word.toList ≠ [] ∧ word.toList.all isAsciiWord = true) : TypeName :=
  ⟨word.toList, isTypeName_of_ascii h.1 h.2⟩

/-- A type with two lists of several arguments, the inner one at an even depth. -/
def indexType : TypeTerm :=
  let int := .of (asciiName "int" (by decide)) []
  let inner := .of (asciiName "Map" (by decide)) [int, int]
  .of (asciiName "Map" (by decide))
    [.of (asciiName "String" (by decide)) [],
      .of (asciiName "List" (by decide)) [inner]]

/-- All the commas of that type stand between paired tildes, and the property that has it is
read. -/
theorem ofText_typedProperty_index :
    indexType.commasInPairs false = true ∧
      ofText "class Index \x7b\n  +byName: Map~String, List~Map~int, int~~~\n\x7d" =
        { classes := [⟨"Index", [⟨"byName", "Map~String, List~Map~int, int~~~"⟩], [], []⟩]
          links := [] } := by
  have paired : indexType.commasInPairs false = true := by decide +kernel
  have type : indexType.text = "Map~String, List~Map~int, int~~~" := by decide +kernel
  have read := @ofText_typedProperty "Index" "byName" (by decide) (by decide) indexType
  rw [paired, type] at read
  exact ⟨paired, read⟩

/-- A type with a list of two arguments within another list. -/
def nestedType : TypeTerm :=
  let argument := .of (asciiName "C" (by decide)) []
  let other := .of (asciiName "D" (by decide)) []
  .of (asciiName "A" (by decide))
    [.of (asciiName "B" (by decide)) [argument, other]]

/-- The comma of that type lies outside every pair of tildes: the class is read, and its property is
lost. -/
theorem ofText_lostProperty :
    nestedType.text = "A~B~C, D~~" ∧
      ofText "class N \x7b\n  +x: A~B~C, D~~\n\x7d" =
        { classes := [⟨"N", [], [], []⟩], links := [] } := by
  decide +kernel

end DiagramDiff.Diagram
