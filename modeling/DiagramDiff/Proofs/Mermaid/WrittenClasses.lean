import DiagramDiff.Mermaid.Printer
import DiagramDiff.Proofs.Diagram.Declaring
import DiagramDiff.Proofs.Mermaid.Declarations
import DiagramDiff.Proofs.Mermaid.WrittenMembers

/-!
# Classes as they are written

The lines between the braces of a written class are its entries, one a line (`toList_bodyLines`),
and reading them gives the class back (`classOfBody_writtenBody`). The methods of a body are read
first and their names excluded from its properties; that is why a class whose properties and
methods share a name is not `IsWritable`.

`declarations_classLines` places such a class in a text: its lines are one declaration, and
the search for declarations goes on after them. A class without a body is delicate here, because a
body may stand on a later line: what follows must not begin with a brace.
-/

namespace DiagramDiff

/-- A class that is read back from what is written for it. -/
structure ClassNode.IsWritable (c : ClassNode) : Prop where
  /-- Its name is a word. -/
  name : Text.IsName c.name.toList
  /-- The names of its properties are words. -/
  propertyNames : ∀ p ∈ c.properties, Text.IsName p.name.toList
  /-- The types of its properties can stand in a body. -/
  propertyTypes : ∀ p ∈ c.properties, Mermaid.IsWritableType p.type.toList
  /-- The names of its methods are words. -/
  methods : ∀ m ∈ c.methods, Text.IsName m.toList
  /-- Its annotations are words. -/
  annotations : ∀ a ∈ c.annotations, Text.IsName a.toList
  /-- No property has the name of a method. -/
  apart : c.MembersApart

end DiagramDiff

namespace DiagramDiff.Mermaid

open Text

/-! ## The entries of a written body -/

/-- A property as it is written. -/
def writtenProperty (p : Property) : List Char :=
  if p.type = Property.untypedName then writtenUntyped p.name.toList
  else writtenTyped p.name.toList p.type.toList

/-- The stereotypes of a class as they are written. -/
def stereotypeEntries (c : ClassNode) : List (List Char) :=
  c.annotations.map fun a => writtenStereotype a.toList

/-- The members of a class as they are written. -/
def memberEntries (c : ClassNode) : List (List Char) :=
  c.properties.map writtenProperty ++ c.methods.map fun m => writtenMethod m.toList

/-- The lines between the braces of a class. -/
def bodyChars (c : ClassNode) : List (List Char) :=
  (stereotypeEntries c ++ memberEntries c).map (memberIndent ++ ·)

/-- The printer writes a stereotype as an entry. -/
theorem toList_stereotypeLine (a : String) :
    ("        <<" ++ a ++ ">>").toList = memberIndent ++ writtenStereotype a.toList := by
  rw [String.toList_append, String.toList_append]
  exact List.append_assoc (memberIndent ++ ['<', '<']) a.toList ['>', '>']

/-- The printer writes a property as an entry. -/
theorem toList_propertyLine (p : Property) :
    p.bodyLine.toList = memberIndent ++ writtenProperty p := by
  unfold Property.bodyLine writtenProperty
  split
  · rw [String.toList_append]
    rfl
  · rw [String.toList_append, Property.shown, String.toList_append, String.toList_append,
      List.append_assoc]
    rfl

/-- The printer writes a method as an entry. -/
theorem toList_methodLine (m : String) :
    ("        +" ++ m ++ "()").toList = memberIndent ++ writtenMethod m.toList := by
  rw [String.toList_append, String.toList_append]
  exact List.append_assoc (memberIndent ++ ['+']) m.toList ['(', ')']

/-- The printer writes the entries of a class, one a line. -/
theorem toList_bodyLines (c : ClassNode) : c.bodyLines.map String.toList = bodyChars c := by
  simp only [ClassNode.bodyLines, bodyChars, stereotypeEntries, memberEntries, List.map_append,
    List.map_map, Function.comp_def, toList_stereotypeLine, toList_propertyLine, toList_methodLine]

/-- The blanks in front of a class. -/
def classIndent : List Char := List.replicate 4 ' '

/-- The text between the braces of a written class. -/
def writtenBody (c : ClassNode) : List Char := '\n' :: (textOfLines (bodyChars c) ++ classIndent)

section body

variable {c : ClassNode} (h : c.IsWritable)

include h

/-- A written property holds words and some punctuation, and no angle bracket or parenthesis. -/
theorem holdsOnly_writtenProperty {p : Property} (hp : p ∈ c.properties) :
    HoldsOnly ['+', ':', '[', ']', '~', ',', ' '] (writtenProperty p) := by
  unfold writtenProperty
  split
  · exact (holdsOnly_writtenUntyped (h.propertyNames p hp)).mono (by decide)
  · exact (holdsOnly_writtenTyped (h.propertyNames p hp) (h.propertyTypes p hp).holdsOnly).mono
      (by decide)

/-- A written property is one entry. -/
theorem entries_writtenProperty {p : Property} (hp : p ∈ c.properties) :
    entries (memberIndent ++ writtenProperty p) = [writtenProperty p] := by
  unfold writtenProperty
  split
  · exact entries_writtenUntyped (h.propertyNames p hp)
  · exact entries_writtenTyped (h.propertyNames p hp) (h.propertyTypes p hp)

/-- A written property is read back. -/
theorem readProperty?_writtenProperty {p : Property} (hp : p ∈ c.properties) :
    readProperty? (writtenProperty p) = some p := by
  obtain ⟨name, type⟩ := p
  unfold writtenProperty
  split
  · next untyped =>
    rw [readProperty?_untyped (h.propertyNames _ hp), Property.untyped, String.ofList_toList]
    exact congrArg (fun type => some (Property.mk name type)) untyped.symm
  · rw [readProperty?_typed (h.propertyNames _ hp) (h.propertyTypes _ hp), String.ofList_toList,
      String.ofList_toList]

/-- A written property begins with a plus sign and ends without white space. -/
theorem isTrimmed_writtenProperty {p : Property} (hp : p ∈ c.properties) :
    IsTrimmed (writtenProperty p) := by
  unfold writtenProperty
  split
  · exact isTrimmed_writtenUntyped (h.propertyNames p hp)
  · exact isTrimmed_writtenTyped (h.propertyTypes p hp).ne_nil (h.propertyTypes p hp).getLast?

/-- Every line of a written body is one entry. -/
theorem entries_bodyLine {entry : List Char} (he : entry ∈ stereotypeEntries c ++ memberEntries c) :
    entries (memberIndent ++ entry) = [entry] := by
  rw [memberEntries, List.mem_append, List.mem_append] at he
  rcases he with he | he | he
  · obtain ⟨a, ha, rfl⟩ := List.mem_map.mp he
    exact entries_writtenStereotype (h.annotations a ha)
  · obtain ⟨p, hp, rfl⟩ := List.mem_map.mp he
    exact entries_writtenProperty h hp
  · obtain ⟨m, hm, rfl⟩ := List.mem_map.mp he
    exact entries_writtenMethod (h.methods m hm)

/-- The entries of a written body are the written stereotypes and members. -/
theorem entries_writtenBody : entries (writtenBody c) = stereotypeEntries c ++ memberEntries c := by
  have first : entries ([] ++ '\n' :: (textOfLines (bodyChars c) ++ classIndent)) = _ :=
    entries_line [] _
  have last : entries classIndent = [] := by decide
  have empty : entries [] = [] := by decide
  have lines : (bodyChars c).flatMap entries = stereotypeEntries c ++ memberEntries c := by
    rw [bodyChars, List.flatMap_map]
    exact flatMap_eq_self fun entry he => entries_bodyLine h he
  rw [writtenBody, ← List.nil_append ('\n' :: _), first, empty, List.nil_append,
    read_textOfLines_append entries_line, last, lines, List.append_nil]

/-- The punctuation of the lines between braces. -/
def bodyPunctuation : List Char := ['<', '>', '+', '(', ')', ':', '[', ']', '~', ',', ' ']

/-- A line between the braces holds words and some punctuation. -/
theorem holdsOnly_bodyLine {line : List Char} (hl : line ∈ bodyChars c) :
    HoldsOnly bodyPunctuation line := by
  obtain ⟨entry, he, rfl⟩ := List.mem_map.mp hl
  have indent : HoldsOnly bodyPunctuation memberIndent := .of_subset (by decide)
  refine indent.append ?_
  rw [memberEntries, List.mem_append, List.mem_append] at he
  rcases he with he | he | he
  · obtain ⟨a, ha, rfl⟩ := List.mem_map.mp he
    exact (holdsOnly_writtenStereotype (h.annotations a ha)).mono (by decide)
  · obtain ⟨p, hp, rfl⟩ := List.mem_map.mp he
    exact (holdsOnly_writtenProperty h hp).mono (by decide)
  · obtain ⟨m, hm, rfl⟩ := List.mem_map.mp he
    exact (holdsOnly_writtenMethod (h.methods m hm)).mono (by decide)

/-- A written body holds no closing brace. -/
theorem brace_not_mem_writtenBody : '}' ∉ writtenBody c := by
  have lines : '}' ∉ textOfLines (bodyChars c) :=
    not_mem_textOfLines (fun line hl => (holdsOnly_bodyLine h hl).not_mem (by decide) (by decide))
      (by decide)
  have indent : '}' ∉ classIndent := by decide
  simp [writtenBody, lines, indent]

/-! ## What the entries say -/

/-- A written member is a member as it stands. -/
theorem entryMember_memberEntry {entry : List Char} (he : entry ∈ memberEntries c) :
    entryMember entry = entry ∧ entryStereotypes entry = [] ∧ entry.isEmpty = false := by
  have angle : isWord '<' = false := by decide
  rcases List.mem_append.mp he with he | he
  · obtain ⟨p, hp, rfl⟩ := List.mem_map.mp he
    have absent : '<' ∉ writtenProperty p :=
      (holdsOnly_writtenProperty h hp).not_mem angle (by decide)
    refine ⟨entryMember_of_not_mem absent (isTrimmed_writtenProperty h hp),
      entryStereotypes_of_not_mem absent, ?_⟩
    unfold writtenProperty
    split <;> rfl
  · obtain ⟨m, hm, rfl⟩ := List.mem_map.mp he
    have absent : '<' ∉ writtenMethod m.toList :=
      (holdsOnly_writtenMethod (h.methods m hm)).not_mem angle (by decide)
    exact ⟨entryMember_of_not_mem absent (isTrimmed_writtenMethod _),
      entryStereotypes_of_not_mem absent, rfl⟩

/-- The members of a written body are the written members: nothing is left of a stereotype. -/
theorem bodyMembers_writtenBody : bodyMembers (writtenBody c) = memberEntries c := by
  have stereotypes : ((stereotypeEntries c).map entryMember).filter (!·.isEmpty) = [] := by
    refine List.filter_eq_nil_iff.mpr fun member hm => ?_
    obtain ⟨entry, he, rfl⟩ := List.mem_map.mp hm
    obtain ⟨a, ha, rfl⟩ := List.mem_map.mp he
    simp [entryMember_written (h.annotations a ha)]
  have members : (memberEntries c).map entryMember = memberEntries c :=
    map_eq_self fun entry he => (entryMember_memberEntry h he).1
  have filled : (memberEntries c).filter (!·.isEmpty) = memberEntries c :=
    List.filter_eq_self.mpr fun entry he => by simp [(entryMember_memberEntry h he).2.2]
  rw [bodyMembers, entries_writtenBody h, List.map_append, List.filter_append, stereotypes, members,
    filled, List.nil_append]

/-- The annotations of a written body are those of its class. -/
theorem bodyAnnotations_writtenBody : bodyAnnotations (writtenBody c) = c.annotations := by
  have stereotypes : (stereotypeEntries c).flatMap
      (fun entry => (entryStereotypes entry).map String.ofList) = c.annotations := by
    rw [stereotypeEntries, List.flatMap_map]
    refine flatMap_eq_self fun a ha => ?_
    rw [entryStereotypes_written (h.annotations a ha), List.map_singleton, String.ofList_toList]
  have members : (memberEntries c).flatMap
      (fun entry => (entryStereotypes entry).map String.ofList) = [] := by
    refine List.flatMap_eq_nil_iff.mpr fun entry he => ?_
    rw [(entryMember_memberEntry h he).2.1, List.map_nil]
  rw [bodyAnnotations, entries_writtenBody h, List.flatMap_append, stereotypes, members,
    List.append_nil]

/-- A written property is no method. -/
theorem methodName?_writtenProperty {p : Property} (hp : p ∈ c.properties) :
    methodName? (writtenProperty p) = none :=
  methodName?_of_not_mem ((holdsOnly_writtenProperty h hp).not_mem (by decide) (by decide))

/-- The methods of a written body are those of its class. -/
theorem bodyMethods_writtenBody : bodyMethods (writtenBody c) = c.methods := by
  have properties : methodsOf (c.properties.map writtenProperty) = [] := by
    refine List.filterMap_eq_nil_iff.mpr fun entry he => ?_
    obtain ⟨p, hp, rfl⟩ := List.mem_map.mp he
    rw [methodName?_writtenProperty h hp, Option.map_none]
  have methods : methodsOf (c.methods.map fun m => writtenMethod m.toList) = c.methods := by
    rw [methodsOf, List.filterMap_map]
    refine filterMap_eq_self fun m hm => ?_
    simp only [Function.comp_apply, methodName?_written (h.methods m hm), Option.map_some,
      String.ofList_toList]
  rw [bodyMethods, bodyMembers_writtenBody h, memberEntries, methodsOf, List.filterMap_append,
    ← methodsOf, ← methodsOf, properties, methods, List.nil_append]

/-- The properties of a written body are those of its class. -/
theorem bodyProperties_writtenBody : bodyProperties (writtenBody c) = c.properties := by
  have properties : (c.properties.map writtenProperty).filter (fun m => (methodName? m).isNone) =
      c.properties.map writtenProperty := by
    refine List.filter_eq_self.mpr fun entry he => ?_
    obtain ⟨p, hp, rfl⟩ := List.mem_map.mp he
    rw [methodName?_writtenProperty h hp, Option.isNone_none]
  have methods : (c.methods.map fun m => writtenMethod m.toList).filter
      (fun m => (methodName? m).isNone) = [] := by
    refine List.filter_eq_nil_iff.mpr fun entry he => ?_
    obtain ⟨m, hm, rfl⟩ := List.mem_map.mp he
    simp [methodName?_written (h.methods m hm)]
  have read : (c.properties.map writtenProperty).filterMap readProperty? = c.properties := by
    rw [List.filterMap_map]
    exact filterMap_eq_self fun p hp => readProperty?_writtenProperty h hp
  have apart : c.properties.filter (fun p => !c.methods.contains p.name) = c.properties :=
    List.filter_eq_self.mpr fun p hp => by simpa using h.apart p hp
  rw [bodyProperties, bodyMethods_writtenBody h, propertiesBut, bodyMembers_writtenBody h,
    memberEntries, List.filter_append, properties, methods, List.append_nil, read, apart]

/-- Reading a written body gives its class back. -/
theorem classOfBody_writtenBody : classOfBody c.name (writtenBody c) = c := by
  rw [classOfBody, bodyProperties_writtenBody h, bodyMethods_writtenBody h,
    bodyAnnotations_writtenBody h]

end body

/-! ## Declarations in a text -/

/-- A class name with the keyword in front of it. -/
def classHeader (name : List Char) : List Char := ['c', 'l', 'a', 's', 's', ' '] ++ name

/-- The keyword and a name declare a class; what comes after them and after type arguments decides
about a body. -/
theorem readDeclaration?_header {name after : List Char} (hn : IsName name)
    (ha : after.head?.any isWord = false) :
    readDeclaration? (classHeader name ++ after) =
      some ((readBody? (skipTypeArguments after)).elim (⟨name, none⟩, skipTypeArguments after)
        fun body => (⟨name, some body.1⟩, body.2)) := by
  have keyword : "class".toList.isPrefixOf? (classHeader name ++ after) =
      some (' ' :: (name ++ after)) := List.isPrefixOf?_eq_some_iff_append_eq.mpr rfl
  have blanks : dropBlanks (' ' :: (name ++ after)) = name ++ after :=
    dropBlanks_space (hn.any_head?_append (fun _ => isBlank_of_isWord) after)
  have head : (' ' :: (name ++ after)).head?.any isBlank = true := rfl
  simp only [readDeclaration?, keyword, head, if_true, blanks, readWord?_append hn ha]
  cases readBody? (skipTypeArguments after) with
  | none => rfl
  | some result => rfl

/-- Without type arguments what comes after the name decides about a body. -/
theorem readDeclaration?_classHeader {name after : List Char} (hn : IsName name)
    (ha : after.head?.any isWord = false) (tilde : after.head?.any (· == '~') = false) :
    readDeclaration? (classHeader name ++ after) =
      some ((readBody? after).elim (⟨name, none⟩, after) fun body =>
        (⟨name, some body.1⟩, body.2)) := by
  rw [readDeclaration?_header hn ha, skipTypeArguments_of_head tilde]

/-! ### The lines of a class -/

/-- The lines of a class. -/
def classLines (c : ClassNode) : List (List Char) :=
  if c.bodyLines.isEmpty then [classIndent ++ classHeader c.name.toList]
  else
    (classIndent ++ (classHeader c.name.toList ++ [' ', '{'])) ::
      (bodyChars c ++ [classIndent ++ ['}']])

/-- The printer writes these lines for a class. -/
theorem toList_classTextLines (c : ClassNode) : c.textLines.map String.toList = classLines c := by
  unfold ClassNode.textLines classLines
  split
  · rw [List.map_singleton, String.toList_append]
    rfl
  · rw [List.map_cons, List.map_append, toList_bodyLines, String.toList_append,
      String.toList_append]
    exact congrArg₂ List.cons (List.append_assoc (classIndent ++ _) c.name.toList [' ', '{']) rfl

/-- What a written class declares. -/
def writtenDeclaration (c : ClassNode) : Declaration where
  name := c.name.toList
  body := if c.bodyLines.isEmpty then none else some (writtenBody c)

/-- The class of a written declaration is the class that was written. -/
theorem classNode_writtenDeclaration {c : ClassNode} (h : c.IsWritable) :
    (writtenDeclaration c).classNode = c := by
  unfold Declaration.classNode writtenDeclaration
  rw [String.ofList_toList]
  split
  · next empty =>
    -- No line between the braces means that all three lists are empty.
    obtain ⟨name, properties, methods, annotations⟩ := c
    simp only [ClassNode.bodyLines, List.isEmpty_iff, List.append_eq_nil_iff,
      List.map_eq_nil_iff] at empty
    obtain ⟨rfl, rfl, rfl⟩ := empty
    rfl
  · exact classOfBody_writtenBody h

/-- The text of a class with a body, up to its closing brace. -/
theorem textOfLines_classLines {c : ClassNode} (h : c.bodyLines.isEmpty = false)
    (rest : List Char) :
    textOfLines (classLines c) ++ rest =
      classIndent ++ ((classHeader c.name.toList ++
        ' ' :: '{' :: (writtenBody c ++ ['}'])) ++ '\n' :: rest) := by
  simp only [classLines, h, Bool.false_eq_true, if_false, textOfLines_cons, textOfLines_append,
    textOfLines_nil, writtenBody, List.append_assoc, List.cons_append, List.nil_append]

/-- The lines of a class are one declaration, and the search goes on after them. After a class
without a body the text must not go on with one. -/
theorem declarations_classLines {c : ClassNode} (h : c.IsWritable) {rest : List Char}
    (hrest : readBody? ('\n' :: rest) = none) :
    declarations (textOfLines (classLines c) ++ rest) =
      writtenDeclaration c :: declarations rest := by
  have indent : ∀ d ∈ classIndent, isWord d = false :=
    forall_mem_of_all (by decide)
  have filled : ∀ after, classHeader c.name.toList ++ after ≠ [] := fun _ => List.cons_ne_nil _ _
  cases empty : c.bodyLines.isEmpty with
  | true =>
    have lines : textOfLines (classLines c) ++ rest =
        classIndent ++ (classHeader c.name.toList ++ '\n' :: rest) := by
      simp [classLines, empty, textOfLines]
    have read : readDeclaration? (classHeader c.name.toList ++ '\n' :: rest) =
        some (writtenDeclaration c, '\n' :: rest) := by
      rw [readDeclaration?_classHeader h.name (by simp) (by simp), hrest, Option.elim_none]
      simp only [writtenDeclaration, empty, if_true]
    have used := filled []
    rw [List.append_nil] at used
    rw [lines, declarations, finds_gap wordLed_readDeclaration? indent,
      finds_used wordLed_readDeclaration? used (by simp) read]
    exact congrArg _ (declarations_cons isWord_newline rest)
  | false =>
    have read : readDeclaration? ((classHeader c.name.toList ++
          ' ' :: '{' :: (writtenBody c ++ ['}'])) ++ '\n' :: rest) =
        some (writtenDeclaration c, '\n' :: rest) := by
      have shape : (classHeader c.name.toList ++ ' ' :: '{' :: (writtenBody c ++ ['}'])) ++
            '\n' :: rest =
          classHeader c.name.toList ++ ' ' :: '{' :: (writtenBody c ++ '}' :: '\n' :: rest) := by
        simp
      rw [shape, readDeclaration?_classHeader h.name (by simp) (by simp), readBody?_space,
        readBody?_braces (brace_not_mem_writtenBody h), Option.elim_some]
      simp only [writtenDeclaration, empty, Bool.false_eq_true, if_false]
    rw [textOfLines_classLines empty, declarations,
      finds_gap wordLed_readDeclaration? indent,
      finds_used wordLed_readDeclaration? (filled _) (by simp) read]
    exact congrArg _ (declarations_cons isWord_newline rest)

end DiagramDiff.Mermaid
