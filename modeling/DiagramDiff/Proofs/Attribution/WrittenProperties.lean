import DiagramDiff.Proofs.Attribution.OpenedBodies
import DiagramDiff.Proofs.Attribution.Scopes
import DiagramDiff.Proofs.Comparison.FindingOrigins
import DiagramDiff.Proofs.Mermaid.RoundTrip

/-!
# Changed properties of a written diagram

A diagram is written with one member a line, below the line that opens the body of its class. In
such a text a changed property is found on its own line (`written_property_located`): between the
header and the property there are only stereotypes and other properties, which neither close the
body nor look like a header. What stands above the header does not matter, because the header
replaces whatever scope there was.

The lines of the text are those that were written only if no name, type or annotation brings a line
feed of its own, in the class or in those before it; and the scope lasts only if none of them
brings a closing brace. Nothing else is asked of the texts (`ClassNode.IsPlain`). Links come last
and may be anything.
-/

namespace DiagramDiff

open Text Mermaid

/-! ## Plain classes -/

/-- A class of words, and of texts that end neither the line nor the body they are written in. -/
structure ClassNode.IsPlain (c : ClassNode) : Prop where
  /-- Its name is a word. -/
  name : IsName c.name.toList
  /-- The names of its properties are words. -/
  propertyNames : ∀ p ∈ c.properties, IsName p.name.toList
  /-- The types of its properties are on one line and close no body. -/
  propertyTypes : ∀ p ∈ c.properties, '\n' ∉ p.type.toList ∧ '}' ∉ p.type.toList
  /-- The names of its methods are words. -/
  methods : ∀ m ∈ c.methods, IsName m.toList
  /-- Its annotations are on one line and close no body. -/
  annotations : ∀ a ∈ c.annotations, '\n' ∉ a.toList ∧ '}' ∉ a.toList

/-- A character that is in neither the name nor the type of a property, nor among those written
around them, is not in the written property. -/
theorem not_mem_writtenProperty {p : Property} {c : Char} (name : c ∉ p.name.toList)
    (type : c ∉ p.type.toList) (other : c ∉ ['+', ':', ' ']) : c ∉ writtenProperty p := by
  simp only [List.mem_cons, List.not_mem_nil, or_false, not_or] at other
  unfold writtenProperty writtenUntyped writtenTyped
  split
  · simp [name, other]
  · simp [name, type, other]

/-- A written property begins with a plus sign. -/
theorem exists_writtenProperty_eq (p : Property) : ∃ rest, writtenProperty p = '+' :: rest := by
  unfold writtenProperty
  split
  · exact ⟨_, rfl⟩
  · exact ⟨_, rfl⟩

namespace ClassNode.IsPlain

section plain

variable {c : ClassNode} (h : c.IsPlain)

include h

/-- A stereotype or a property is written on one line and closes no body. -/
theorem entry_inside {entry : List Char}
    (he : entry ∈ stereotypeEntries c ++ c.properties.map writtenProperty) :
    '\n' ∉ entry ∧ '}' ∉ entry := by
  rcases List.mem_append.mp he with he | he
  · obtain ⟨a, ha, rfl⟩ := List.mem_map.mp he
    obtain ⟨line, body⟩ := h.annotations a ha
    exact ⟨by simp [writtenStereotype, line], by simp [writtenStereotype, body]⟩
  · obtain ⟨p, hp, rfl⟩ := List.mem_map.mp he
    obtain ⟨line, body⟩ := h.propertyTypes p hp
    have name := h.propertyNames p hp
    exact ⟨not_mem_writtenProperty (name.not_mem isWord_newline) line (by decide),
      not_mem_writtenProperty (name.not_mem (by decide)) body (by decide)⟩

/-- The lines of a plain class are lines. -/
theorem newline_not_mem_classLines : ∀ line ∈ classLines c, '\n' ∉ line := by
  have header : '\n' ∉ classHeader c.name.toList := by
    have name : '\n' ∉ c.name.toList := h.name.not_mem isWord_newline
    simp [classHeader, name]
  have indent : '\n' ∉ classIndent ∧ '\n' ∉ memberIndent := by decide
  have body : ∀ line ∈ bodyChars c, '\n' ∉ line := by
    intro line hl
    obtain ⟨entry, he, rfl⟩ := List.mem_map.mp hl
    have inside : '\n' ∉ entry := by
      rw [memberEntries, ← List.append_assoc] at he
      rcases List.mem_append.mp he with he | he
      · exact (h.entry_inside he).1
      · obtain ⟨m, hm, rfl⟩ := List.mem_map.mp he
        have name : '\n' ∉ m.toList := (h.methods m hm).not_mem isWord_newline
        simp [writtenMethod, name]
    simp [indent.2, inside]
  intro line hl
  unfold classLines at hl
  split at hl
  · obtain rfl := List.mem_singleton.mp hl
    simp [indent.1, header]
  · rcases List.mem_cons.mp hl with rfl | hl
    · simp [indent.1, header]
    · rcases List.mem_append.mp hl with hl | hl
      · exact body line hl
      · obtain rfl := List.mem_singleton.mp hl
        simp [indent.1]

end plain

end ClassNode.IsPlain

/-! ## How written lines are seen -/

/-- What is seen of a line is part of it. -/
theorem dropReturn_subset (line : List Char) : dropReturn line ⊆ line := by
  unfold dropReturn
  split
  · exact List.dropLast_subset line
  · exact List.Subset.refl line

/-- The header of a class, as it is seen, opens its body. -/
theorem openedClass?_writtenHeader {name : List Char} (hn : IsName name) :
    openedClass? (dropReturn (classIndent ++ (classHeader name ++ [' ', '{']))) = some name := by
  have header : IsHeader name ("class".toList ++ ([' '] ++ (name ++ [' ']))) :=
    .intro hn (forall_mem_of_all (by decide)) (List.cons_ne_nil _ _)
      (.inl (forall_mem_of_all (by decide)))
  have shape : classIndent ++ (classHeader name ++ [' ', '{']) =
      classIndent ++ (("class".toList ++ ([' '] ++ (name ++ [' ']))) ++ ['{']) := by
    simp [classHeader]
  have closes : '}' ∉ classIndent ++ (classHeader name ++ [' ', '{']) := by
    have word : '}' ∉ name := hn.not_mem (by decide)
    have indent : '}' ∉ classIndent := by decide
    simp [classHeader, word, indent]
  have indent : IsWhite classIndent := forall_mem_of_all (by decide)
  refine openedClass?_of_isHeader header indent ?_ fun inside => closes (dropReturn_subset _ inside)
  rw [shape, ← List.append_assoc]
  exact prefix_dropReturn (by decide) (List.prefix_refl _)

/-- A stereotype or a property, as it is seen, neither closes the body of a plain class nor opens
another one. -/
theorem ClassNode.IsPlain.stays {c : ClassNode} (h : c.IsPlain) {entry : List Char}
    (he : entry ∈ stereotypeEntries c ++ c.properties.map writtenProperty) :
    '}' ∉ dropReturn (memberIndent ++ entry) ∧
      openedClass? (dropReturn (memberIndent ++ entry)) = none := by
  have closes : '}' ∉ memberIndent ++ entry := by
    have indent : '}' ∉ memberIndent := by decide
    simp [indent, (h.entry_inside he).2]
  have indent : IsWhite memberIndent := forall_mem_of_all (by decide)
  have start : ∀ first rest, entry = first :: rest → isWhiteSpace first = false → first ≠ 'c' →
      openedClass? (dropReturn (memberIndent ++ entry)) = none := by
    rintro first rest rfl dark other
    have visible : first ≠ '\r' := by
      rintro rfl
      exact absurd dark (by decide)
    have begins : memberIndent ++ [first] <+: memberIndent ++ first :: rest :=
      (List.prefix_append_right_inj _).mpr ⟨rest, rfl⟩
    exact openedClass?_of_start indent dark other (prefix_dropReturn visible begins)
  refine ⟨fun inside => closes (dropReturn_subset _ inside), ?_⟩
  rcases List.mem_append.mp he with he | he
  · obtain ⟨a, -, rfl⟩ := List.mem_map.mp he
    exact start '<' _ rfl (by decide) (by decide)
  · obtain ⟨p, -, rfl⟩ := List.mem_map.mp he
    obtain ⟨rest, led⟩ := exists_writtenProperty_eq p
    exact start '+' rest led (by decide) (by decide)

/-! ## Where a property is written -/

/-- A place of a diagram: a class, and in it the first property of a name. -/
structure Diagram.PropertyPlace (d : Diagram) where
  /-- The classes before the class. -/
  earlier : List ClassNode
  /-- The class. -/
  node : ClassNode
  /-- The classes after it. -/
  later : List ClassNode
  /-- The properties of the class before the property. -/
  front : List Property
  /-- The property. -/
  property : Property
  /-- The properties after it. -/
  back : List Property
  /-- The classes are those of the diagram. -/
  classes_eq : d.classes = earlier ++ node :: later
  /-- The properties are those of the class. -/
  properties_eq : node.properties = front ++ property :: back
  /-- The property is the first of its name. -/
  first : ∀ p ∈ front, p.name ≠ property.name

/-- The first property of a name in the first class of a name has a place. -/
theorem Diagram.exists_propertyPlace {d : Diagram} {className propertyName : String} {c : ClassNode}
    {p : Property} (node : d.class? className = some c)
    (property : c.property? propertyName = some p) :
    ∃ place : d.PropertyPlace, place.node.name = className ∧ place.property.name = propertyName := by
  obtain ⟨named, earlier, later, classes_eq, -⟩ := List.find?_eq_some_iff_append.mp node
  obtain ⟨called, front, back, properties_eq, others⟩ := List.find?_eq_some_iff_append.mp property
  have name : p.name = propertyName := beq_iff_eq.mp called
  refine ⟨⟨earlier, c, later, front, p, back, classes_eq, properties_eq, ?_⟩,
    beq_iff_eq.mp named, name⟩
  intro q hq
  rw [name]
  simpa using others q hq

namespace Diagram.PropertyPlace

section place

variable {d : Diagram} (place : d.PropertyPlace)

/-- The number of the line of the property, counted from zero: before it come the title, the lines
of the earlier classes, the header of the class, its annotations and its earlier properties. -/
def number : Nat :=
  1 + (place.earlier.flatMap ClassNode.textLines).length + 1 + place.node.annotations.length +
    place.front.length

/-- The lines above the header of the class. -/
def above : List (List Char) := titleLine :: place.earlier.flatMap classLines

/-- The line that opens the body of the class. -/
def header : List Char := classIndent ++ (classHeader place.node.name.toList ++ [' ', '{'])

/-- The lines between the header and the property. -/
def between : List (List Char) :=
  (stereotypeEntries place.node ++ place.front.map writtenProperty).map (memberIndent ++ ·)

/-- The lines before that of the property are as many as its number. -/
theorem length_before : (place.above ++ place.header :: place.between).length = place.number := by
  have earlier : (place.earlier.flatMap classLines).length =
      (place.earlier.flatMap ClassNode.textLines).length := by
    rw [← map_toList_flatMap_textLines, List.length_map]
  unfold number above between stereotypeEntries
  simp only [List.length_append, List.length_cons, List.length_map, earlier]
  omega

/-- The lines of the class begin with the header, those between it and the property, and the line of
the property. -/
theorem exists_classLines_eq :
    ∃ below, classLines place.node =
      place.header :: (place.between ++ place.property.bodyLine.toList :: below) := by
  have solid : place.node.bodyLines.isEmpty = false := by
    simp [ClassNode.bodyLines, place.properties_eq]
  unfold classLines header between
  rw [solid, toList_propertyLine]
  simp only [bodyChars, memberEntries, place.properties_eq, List.map_append, List.map_cons,
    List.append_assoc, List.cons_append]
  exact ⟨_, rfl⟩

/-- So do the lines of the diagram, after those above the header. -/
theorem exists_diagramLines_eq :
    ∃ below, diagramLines d = (place.above ++ place.header :: place.between) ++
      place.property.bodyLine.toList :: below := by
  obtain ⟨below, node⟩ := place.exists_classLines_eq
  unfold diagramLines linesWith above
  rw [place.classes_eq, List.flatMap_append, List.flatMap_cons, node]
  simp only [List.append_assoc, List.cons_append]
  exact ⟨_, rfl⟩

/-- The line of the number of a place is the one that writes the property. -/
theorem getElem?_textLines : d.textLines[place.number]? = some place.property.bodyLine := by
  obtain ⟨below, parts⟩ := place.exists_diagramLines_eq
  have chars : (d.textLines.map String.toList)[place.number]? =
      some place.property.bodyLine.toList := by
    rw [map_toList_textLines, parts, ← place.length_before]
    simp
  rw [List.getElem?_map] at chars
  obtain ⟨line, here, same⟩ := Option.map_eq_some_iff.mp chars
  rw [here, String.toList_injective same]

/-! ### Places of plain diagrams -/

variable (plain : ∀ c ∈ d.classes, c.IsPlain)

include plain

/-- The class of a place is plain. -/
theorem node_isPlain : place.node.IsPlain := by
  apply plain
  rw [place.classes_eq]
  exact List.mem_append_right _ List.mem_cons_self

/-- The lines up to that of the property are lines. -/
theorem newline_not_mem_before : ∀ line ∈ (place.above ++ place.header :: place.between) ++
    [place.property.bodyLine.toList], '\n' ∉ line := by
  have above : ∀ line ∈ place.above, '\n' ∉ line := by
    intro line hl
    rcases List.mem_cons.mp hl with rfl | hl
    · decide
    · obtain ⟨c, hc, hl⟩ := List.mem_flatMap.mp hl
      have listed : c ∈ d.classes := by
        rw [place.classes_eq]
        exact List.mem_append_left _ hc
      exact (plain c listed).newline_not_mem_classLines line hl
  obtain ⟨below, parts⟩ := place.exists_classLines_eq
  intro line hl
  rw [List.append_assoc, List.cons_append] at hl
  rcases List.mem_append.mp hl with hl | hl
  · exact above line hl
  · apply (place.node_isPlain plain).newline_not_mem_classLines
    have more : place.header :: (place.between ++ [place.property.bodyLine.toList]) <+:
        classLines place.node := ⟨below, by rw [parts]; simp⟩
    exact more.subset hl

/-- The lines that are seen of the diagram are the written ones up to that of the property. -/
theorem exists_visibleLines_eq :
    ∃ rest, visibleLines d.render.toList =
      (place.above.map dropReturn ++ dropReturn place.header :: place.between.map dropReturn) ++
        dropReturn place.property.bodyLine.toList :: rest := by
  obtain ⟨below, parts⟩ := place.exists_diagramLines_eq
  have split : diagramLines d = ((place.above ++ place.header :: place.between) ++
      [place.property.bodyLine.toList]) ++ below := by
    rw [parts, List.append_cons]
  rw [toList_render, split, textOfLines_append,
    visibleLines_textOfLines_append (place.newline_not_mem_before plain)]
  refine ⟨visibleLines (textOfLines below), ?_⟩
  simp only [List.map_append, List.map_cons, List.map_nil, List.append_assoc, List.cons_append,
    List.nil_append]

/-- The line of the number of a place is seen as the line of the property. -/
theorem getElem?_visibleLines : (visibleLines d.render.toList)[place.number]? =
    some (dropReturn place.property.bodyLine.toList) := by
  obtain ⟨rest, seen⟩ := place.exists_visibleLines_eq plain
  rw [seen, ← place.length_before]
  simp

/-- The line of a place is in the scope of its class. -/
theorem lineScope_eq : lineScope (scopeBefore (visibleLines d.render.toList) place.number)
    (dropReturn place.property.bodyLine.toList) = some place.node.name.toList := by
  have node := place.node_isPlain plain
  have stays : ∀ entry ∈ stereotypeEntries place.node ++
      (place.front ++ [place.property]).map writtenProperty,
      '}' ∉ dropReturn (memberIndent ++ entry) ∧
        openedClass? (dropReturn (memberIndent ++ entry)) = none := by
    intro entry he
    apply node.stays
    rw [place.properties_eq, List.append_cons, List.map_append, ← List.append_assoc]
    exact List.mem_append_left _ he
  have own : openedClass? (dropReturn place.property.bodyLine.toList) = none := by
    rw [toList_propertyLine]
    exact (stays _ (by simp)).2
  have between : ∀ l ∈ place.between.map dropReturn, '}' ∉ l ∧ openedClass? l = none := by
    intro l hl
    obtain ⟨line, hline, rfl⟩ := List.mem_map.mp hl
    obtain ⟨entry, he, rfl⟩ := List.mem_map.mp hline
    apply stays
    rw [List.map_append, ← List.append_assoc]
    exact List.mem_append_left _ he
  obtain ⟨rest, seen⟩ := place.exists_visibleLines_eq plain
  have scope := scopeBefore_of_parts (place.above.map dropReturn)
    (dropReturn place.property.bodyLine.toList :: rest) (openedClass?_writtenHeader node.name) between
  have count : (place.above.map dropReturn ++
      dropReturn place.header :: place.between.map dropReturn).length = place.number := by
    rw [← place.length_before]
    simp
  rw [lineScope_of_not_opens own, seen, ← count]
  exact scope

/-- The line of a place names its property. -/
theorem propertyName_infix :
    place.property.name.toList <:+: dropReturn place.property.bodyLine.toList := by
  have listed : place.property ∈ place.node.properties := by
    rw [place.properties_eq]
    exact List.mem_append_right _ List.mem_cons_self
  apply infix_dropReturn ((place.node_isPlain plain).propertyNames _ listed)
  rw [toList_propertyLine]
  unfold writtenProperty writtenUntyped writtenTyped
  split
  · exact ⟨memberIndent ++ ['+'], [], by simp⟩
  · exact ⟨memberIndent ++ ['+'], ':' :: ' ' :: place.property.type.toList, by simp⟩

/-- The line of a place matches a change of its property. -/
theorem matchesLine (oldType newType : String) :
    (Finding.propertyChanged place.node.name place.property.name oldType newType).matchesLine
      (dropReturn place.property.bodyLine.toList)
      (lineScope (scopeBefore (visibleLines d.render.toList) place.number)
        (dropReturn place.property.bodyLine.toList)) = true := by
  rw [place.lineScope_eq plain]
  simp only [Finding.matchesLine, mentions, Bool.and_eq_true, Bool.or_eq_true, beq_iff_eq,
    occursIn_iff]
  exact ⟨place.propertyName_infix plain, .inr trivial⟩

end place

end Diagram.PropertyPlace

/-- Of a diagram that is written, the line of a changed property matches the change in its scope,
and it is attributed to the change or to an earlier difference. -/
theorem written_property_located {options : ComparisonOptions} {reference d : Diagram}
    {className propertyName oldType newType : String} {i : Nat} {difference : Difference}
    (plain : ∀ c ∈ d.classes, c.IsPlain)
    (listed : (Diagram.compare options reference d).differences[i]? = some difference)
    (changed : difference.finding =
      .propertyChanged className propertyName oldType newType) :
    (∃ place : d.PropertyPlace, place.node.name = className ∧
        place.property.name = propertyName) ∧
      ∀ place : d.PropertyPlace, place.node.name = className →
        place.property.name = propertyName →
          d.textLines[place.number]? = some place.property.bodyLine ∧
            ∃ line scope, (scopesFrom none (visibleLines d.render.toList))[place.number]? =
                some (line, scope) ∧
              line = dropReturn place.property.bodyLine.toList ∧
              difference.finding.matchesLine line scope = true ∧
              ∃ marked, ((Diagram.compare options reference d).markLines d.render)[place.number]? =
                some marked ∧ ∃ j ≤ i, marked.difference = some j := by
  constructor
  · have found : difference.finding ∈ Diagram.findings reference d := by
      have member := List.mem_of_getElem? listed
      rw [Diagram.differences_compare] at member
      obtain ⟨f, hf, rfl⟩ := List.mem_map.mp member
      exact hf
    rw [changed] at found
    obtain ⟨other, shared, own⟩ := Diagram.exists_property?_of_mem_findings found
    exact Diagram.exists_propertyPlace shared own
  · rintro place rfl rfl
    have here := place.getElem?_visibleLines plain
    have matched := place.matchesLine plain oldType newType
    rw [← changed] at matched
    refine ⟨place.getElem?_textLines, _, _, ?_, rfl, matched,
      Report.exists_attributed here listed matched⟩
    rw [getElem?_scopesFrom, here]
    rfl

/-- A diagram with a property below an annotation and another property, after a class with a body of
its own. -/
def shelter : Diagram where
  classes :=
    [{ name := "Cage", properties := [⟨"size", "int"⟩] },
      { name := "Dog"
        properties := [⟨"name", "String"⟩, ⟨"age", "any"⟩, ⟨"age", "int"⟩]
        methods := ["bark"]
        annotations := ["pet"] }]

/-- Its texts end no line and no body. -/
theorem shelter_isPlain : ∀ c ∈ shelter.classes, c.IsPlain := by
  have parts : ∀ c ∈ shelter.classes, IsName c.name.toList ∧
      (∀ p ∈ c.properties, IsName p.name.toList) ∧
      (∀ p ∈ c.properties, '\n' ∉ p.type.toList ∧ '}' ∉ p.type.toList) ∧
      (∀ m ∈ c.methods, IsName m.toList) ∧
      ∀ a ∈ c.annotations, '\n' ∉ a.toList ∧ '}' ∉ a.toList := by decide +kernel
  intro c hc
  obtain ⟨name, propertyNames, propertyTypes, methods, annotations⟩ := parts c hc
  exact ⟨name, propertyNames, propertyTypes, methods, annotations⟩

/-- The place of the age. -/
def agePlace : shelter.PropertyPlace where
  earlier := [{ name := "Cage", properties := [⟨"size", "int"⟩] }]
  node := { name := "Dog"
            properties := [⟨"name", "String"⟩, ⟨"age", "any"⟩, ⟨"age", "int"⟩]
            methods := ["bark"]
            annotations := ["pet"] }
  later := []
  front := [⟨"name", "String"⟩]
  property := ⟨"age", "any"⟩
  back := [⟨"age", "int"⟩]
  classes_eq := rfl
  properties_eq := rfl
  first := by decide

/-- The change of the age is attributed to its own line, the eighth. -/
theorem written_property_located_shelter :
    let reference : Diagram := { classes := [{ name := "Dog", properties := [⟨"age", "int"⟩] }] }
    let report := Diagram.compare .usual reference shelter
    (∀ c ∈ shelter.classes, c.IsPlain) ∧
      report.differences[1]? =
        some (Finding.propertyChanged "Dog" "age" "int" "any").difference ∧
      agePlace.number = 7 ∧ shelter.textLines[7]? = some "        +age" ∧
      ∃ marked, (report.markLines shelter.render)[7]? = some marked ∧
        ∃ j ≤ 1, marked.difference = some j := by
  intro reference report
  have listed : report.differences[1]? =
      some (Finding.propertyChanged "Dog" "age" "int" "any").difference := by decide +kernel
  obtain ⟨-, located⟩ := written_property_located shelter_isPlain listed rfl
  obtain ⟨written, line, scope, -, -, -, marked, here, attributed⟩ := located agePlace rfl rfl
  exact ⟨shelter_isPlain, listed, rfl, written, marked, here, attributed⟩

end DiagramDiff
