import DiagramDiff.Proofs.Mermaid.ReadClasses
import DiagramDiff.Proofs.Mermaid.TagLines
import DiagramDiff.Proofs.Mermaid.WrittenLinks

/-!
# The layout of class headers

Between the name of a class and the brace of its body a list of type arguments may stand, and any
white space, line breaks included. None of it matters for what is read (`ofText_header`), neither
for the class nor for what follows it.

The body is not looked at. Whatever text follows the brace, a body is read from it or it is not, and
that is decided behind the brace (`HeaderLayout.declarations_chars`); where the brace is not closed,
the class has no members and the search for classes goes on with the text of its body, in every
layout of the header. The lines of the header itself are no comments, links or annotations, so they
leave the other readers to the text behind them (`ofChars_header`).
-/

namespace DiagramDiff.Mermaid

open Text

/-! ## Layouts -/

/-- What a header leaves open between the name of a class and the opening brace. -/
structure HeaderLayout where
  /-- The text between tildes, if there is one. -/
  arguments : Option (List Char)
  /-- It holds words, commas and spaces. -/
  areWords : ∀ text ∈ arguments, HoldsOnly [',', ' '] text
  /-- What stands in front of the brace. -/
  white : List Char
  /-- It is white space. -/
  isWhite : IsWhite white

namespace HeaderLayout

/-- One space and no type arguments. -/
def plain : HeaderLayout where
  arguments := none
  areWords := by simp
  white := [' ']
  isWhite := forall_mem_of_all (by decide)

/-- Neither white space nor type arguments. -/
def compact : HeaderLayout where
  arguments := none
  areWords := by simp
  white := []
  isWhite := .nil

variable (layout : HeaderLayout)

/-- The characters of the type arguments, the tildes included. -/
def typeArguments : List Char := layout.arguments.elim [] fun text => '~' :: (text ++ ['~'])

/-- The characters of a header, the opening brace included. -/
def chars (name : List Char) : List Char :=
  classHeader name ++ (layout.typeArguments ++ (layout.white ++ ['{']))

/-- A header as a text. -/
def text (name : String) : String := String.ofList (layout.chars name.toList)

/-- The header that is written for a class. -/
theorem chars_plain (name : List Char) : plain.chars name = classHeader name ++ [' ', '{'] := by
  simp [chars, typeArguments, plain]

/-- The shortest header of a class. -/
theorem chars_compact (name : List Char) : compact.chars name = classHeader name ++ ['{'] := by
  simp [chars, typeArguments, compact]

/-- Type arguments hold words, tildes, commas and spaces. -/
theorem holdsOnly_typeArguments : HoldsOnly ['~', ',', ' '] layout.typeArguments := by
  obtain ⟨arguments, areWords, white, isWhite⟩ := layout
  cases arguments with
  | none => exact .of_subset (List.nil_subset _)
  | some text =>
    have tilde : HoldsOnly ['~', ',', ' '] ['~'] := .of_subset (by decide)
    have inner : HoldsOnly ['~', ',', ' '] text := (areWords text rfl).mono (by decide)
    exact tilde.append (inner.append tilde)

/-- A header holds words, white space and the marks that belong to it. -/
theorem mem_chars {name : List Char} (hn : IsName name) {c : Char} (h : c ∈ layout.chars name) :
    isWord c = true ∨ isWhiteSpace c = true ∨ c ∈ ['~', ',', '{'] := by
  have keyword : ∀ c ∈ ['c', 'l', 'a', 's', 's', ' '], isWord c = true ∨ isWhiteSpace c = true :=
    forall_mem_of_all (by decide)
  simp only [chars, classHeader, List.mem_append] at h
  rcases h with (h | h) | h | h | h
  · exact (keyword c h).imp_right .inl
  · exact .inl (hn.2 c h)
  · rcases layout.holdsOnly_typeArguments c h with word | mark
    · exact .inl word
    · simp only [List.mem_cons, List.not_mem_nil, or_false] at mark
      rcases mark with rfl | rfl | rfl <;> decide
  · exact .inr (.inl (layout.isWhite c h))
  · exact .inr (.inr (List.mem_cons_of_mem _ (List.mem_cons_of_mem _ h)))

/-- No other character stands in a header. -/
theorem not_mem_chars {name : List Char} (hn : IsName name) {c : Char} (word : isWord c = false)
    (space : isWhiteSpace c = false) (mark : c ∉ ['~', ',', '{']) : c ∉ layout.chars name := by
  intro member
  rcases layout.mem_chars hn member with h | h | h
  · exact absurd (word.symm.trans h) Bool.false_ne_true
  · exact absurd (space.symm.trans h) Bool.false_ne_true
  · exact mark h

/-- A header does not add to a marker behind it. -/
theorem markerless_append {name rest : List Char} (hn : IsName name) (hr : Markerless rest) :
    Markerless (layout.chars name ++ rest) := by
  have shape : layout.chars name =
      (classHeader name ++ (layout.typeArguments ++ layout.white)) ++ ['{'] := by
    simp [chars]
  have absent : ∀ {c : Char}, c ∉ layout.chars name →
      c ∉ classHeader name ++ (layout.typeArguments ++ layout.white) :=
    fun outside inside => outside (shape ▸ List.mem_append_left _ inside)
  have front : Markerless (classHeader name ++ (layout.typeArguments ++ layout.white)) := by
    refine .of_not_mem (absent ?_) (absent ?_)
    · exact layout.not_mem_chars hn (by decide) (by decide) (by decide)
    · exact layout.not_mem_chars hn (by decide) (by decide) (by decide)
  rw [shape, List.append_assoc]
  exact front.append_cons hr (by decide) (by decide)

/-! ## The class of a header -/

/-- Type arguments are skipped. -/
theorem skipTypeArguments_append {rest : List Char} (h : rest.head?.any (· == '~') = false) :
    skipTypeArguments (layout.typeArguments ++ rest) = rest := by
  obtain ⟨arguments, areWords, white, isWhite⟩ := layout
  cases arguments with
  | none => exact skipTypeArguments_of_head h
  | some text =>
    have words : HoldsOnly [',', ' '] text := areWords text rfl
    have inside : ∀ c ∈ text, (c != '~' && c != '\n') = true := by
      intro c hc
      have tilde : c ≠ '~' := fun e => words.not_mem (by decide) (by decide) (e ▸ hc)
      have feed : c ≠ '\n' := fun e => words.not_mem (by decide) (by decide) (e ▸ hc)
      simp [tilde, feed]
    have shape : typeArguments ⟨some text, areWords, white, isWhite⟩ ++ rest =
        '~' :: (text ++ '~' :: rest) := by
      simp [typeArguments]
    rw [shape]
    exact skipTypeArguments_closed (dropWhile_append_of_head inside rfl)

/-- What stands behind the name of a class is no part of the name, and behind the type arguments no
further ones follow. -/
theorem any_head?_behind (rest : List Char) :
    (layout.typeArguments ++ (layout.white ++ '{' :: rest)).head?.any isWord = false ∧
      (layout.white ++ '{' :: rest).head?.any (· == '~') = false := by
  have tilde : (layout.white ++ '{' :: rest).head?.any (· == '~') = false :=
    any_head?_append (fun c hc => beq_of_isWhiteSpace (by decide) (layout.isWhite c hc)) rfl
  have word : (layout.white ++ '{' :: rest).head?.any isWord = false :=
    any_head?_append layout.isWhite.isWord (by decide : isWord '{' = false)
  refine ⟨?_, tilde⟩
  unfold typeArguments
  cases layout.arguments with
  | none => exact word
  | some text => exact (by decide : isWord '~' = false)

/-- A header declares its class. Whether the class has a body is decided behind the brace, and there
the search goes on. -/
theorem declarations_chars {name : List Char} (hn : IsName name) (rest : List Char) :
    declarations (layout.chars name ++ rest) =
      (readBody? ('{' :: rest)).elim (⟨name, none⟩ :: declarations rest) fun body =>
        ⟨name, some body.1⟩ :: declarations body.2 := by
  obtain ⟨word, tilde⟩ := layout.any_head?_behind rest
  have shape : layout.chars name ++ rest =
      classHeader name ++ (layout.typeArguments ++ (layout.white ++ '{' :: rest)) := by
    simp [chars]
  have read := readDeclaration?_header hn word
  rw [layout.skipTypeArguments_append tilde, readBody?_white_append layout.isWhite, ← shape] at read
  have found := finds_found wordLed_readDeclaration? endsWord_readDeclaration? read
  rw [declarations, found]
  cases readBody? ('{' :: rest) with
  | none =>
    have brace : isWord '{' = false := by decide
    have behind : declarations (layout.white ++ '{' :: rest) = declarations rest := by
      rw [declarations_gap layout.isWhite.isWord, declarations_cons brace]
    exact congrArg _ behind
  | some body => rfl

/-- The class of a header is among the classes that a text declares. -/
theorem name_mem_declaredClasses {name : List Char} (hn : IsName name) (rest : List Char) :
    String.ofList name ∈ (declaredClasses (layout.chars name ++ rest)).map (·.name) := by
  refine ClassNode.mem_names_foldl_declare (.inr ?_)
  rw [layout.declarations_chars hn]
  cases readBody? ('{' :: rest) with
  | none => exact List.mem_cons_self
  | some body => exact List.mem_cons_self

/-- A header and a body that ends with the text declare one class. -/
theorem declaredClasses_chars {name body : List Char} (hn : IsName name) (hb : '}' ∉ body) :
    declaredClasses (layout.chars name ++ (body ++ ['}'])) =
      [classOfBody (String.ofList name) body] := by
  have single : declarations (layout.chars name ++ (body ++ ['}'])) = [⟨name, some body⟩] := by
    rw [layout.declarations_chars hn, readBody?_braces hb]
    rfl
  rw [declaredClasses, single]
  simp [Declaration.classNode, ClassNode.declare]

end HeaderLayout

end DiagramDiff.Mermaid

namespace DiagramDiff.Diagram

open Mermaid Text

/-- The lines of a header matter for what is declared and for nothing else that is read. -/
theorem ofChars_header {name : List Char} (hn : IsName name) (layout : HeaderLayout)
    (rest : List Char) :
    ofChars (layout.chars name ++ '\n' :: rest) =
      { classes := annotateClasses
          (declaredClasses (layout.chars name ++ '\n' :: blankLabels (stripComments rest)))
          (tagLines (blankLabels (stripComments rest)))
        links := textLinks (stripComments rest) } := by
  have percent : '%' ∉ layout.chars name :=
    layout.not_mem_chars hn (by decide) (by decide) (by decide)
  have angle : '<' ∉ layout.chars name :=
    layout.not_mem_chars hn (by decide) (by decide) (by decide)
  have marker : Markerless (layout.chars name) := by
    have whole := layout.markerless_append hn .nil
    rwa [List.append_nil] at whole
  have links : textLinks (layout.chars name) = [] := by
    rw [textLinks, marker.linkTexts_eq_nil]
    rfl
  rw [ofChars, stripComments_line, stripComments_of_not_mem percent, blankLabels_line,
    marker.blankLabels_eq_self, textLinks_line, links, textClasses, tagLines_line,
    tagLines_of_not_mem angle]
  rfl

/-- The same is read behind a header in any two layouts. -/
theorem ofChars_headerLayout {name : List Char} (hn : IsName name) (layout other : HeaderLayout)
    (rest : List Char) :
    ofChars (layout.chars name ++ '\n' :: rest) = ofChars (other.chars name ++ '\n' :: rest) := by
  have classes : ∀ text, declaredClasses (layout.chars name ++ text) =
      declaredClasses (other.chars name ++ text) := by
    intro text
    rw [declaredClasses, declaredClasses, layout.declarations_chars hn, other.declarations_chars hn]
  rw [ofChars_header hn layout, ofChars_header hn other, classes]

/-- Type arguments, white space and line breaks in the header of a class do not matter: the same is
read as with one space in front of the brace, and the class is part of it. The body may be any text
that begins with a line feed. -/
theorem ofText_header {name body : String} (hn : IsName name.toList)
    (hb : body.toList.head? = some '\n') (layout : HeaderLayout) (after : String) :
    ofText (layout.text name ++ body ++ "\x7d" ++ after) =
        ofText ("class " ++ name ++ " \x7b" ++ body ++ "\x7d" ++ after) ∧
      name ∈ (ofText (layout.text name ++ body ++ "\x7d" ++ after)).classes.map (·.name) := by
  obtain ⟨lines, hl⟩ := List.head?_eq_some_iff.mp hb
  have whole : (layout.text name ++ body ++ "\x7d" ++ after).toList =
      layout.chars name.toList ++ '\n' :: (lines ++ ("\x7d" ++ after).toList) := by
    simp [HeaderLayout.text, hl]
  have plain : ("class " ++ name ++ " \x7b" ++ body ++ "\x7d" ++ after).toList =
      HeaderLayout.plain.chars name.toList ++ '\n' :: (lines ++ ("\x7d" ++ after).toList) := by
    simp [HeaderLayout.chars_plain, classHeader, hl]
  rw [ofText, ofText, whole, plain]
  refine ⟨ofChars_headerLayout hn layout .plain _, ?_⟩
  rw [ofChars_header hn layout, map_annotateClasses fun _ _ => rfl]
  have declared := layout.name_mem_declaredClasses hn
    ('\n' :: blankLabels (stripComments (lines ++ ("\x7d" ++ after).toList)))
  rwa [String.ofList_toList] at declared

/-- Type arguments with a comma in them, and the brace on a line of its own. -/
def shelfLayout : HeaderLayout where
  arguments := some "K, V".toList
  areWords := by
    intro text same
    cases same
    exact forall_mem_of_all (by decide)
  white := " \n\t\n".toList
  isWhite := forall_mem_of_all (by decide)

/-- The type arguments and the place of the brace do not matter for the members of a class, for the
comment and the link among them, and for the class behind it. -/
theorem ofText_header_shelf :
    ofText "class Shelf~K, V~ \n\t\n\x7b\n  +K key\n  %% a note\n  A --> B\n\x7d\nclass Wall" =
        ofText "class Shelf \x7b\n  +K key\n  %% a note\n  A --> B\n\x7d\nclass Wall" ∧
      "Shelf" ∈ (ofText ("class Shelf~K, V~ \n\t\n\x7b\n  +K key\n  %% a note\n  A --> B\n\x7d" ++
        "\nclass Wall")).classes.map (·.name) :=
  @ofText_header "Shelf" "\n  +K key\n  %% a note\n  A --> B\n" (by decide) (by decide)
    shelfLayout "\nclass Wall"

end DiagramDiff.Diagram
