import DiagramDiff.Mermaid.Reader
import DiagramDiff.Proofs.Mermaid.Comments
import DiagramDiff.Proofs.Mermaid.TagLines
import DiagramDiff.Proofs.Mermaid.WrittenLinks
import DiagramDiff.Proofs.Text.Lines

/-!
# Reading what was written

A diagram that is written and read again is the same diagram, in the same order throughout
(`ofText_render`). The reader passes over the text several times: for comments, for links, for
labels, for declarations and for annotations. Each pass but the one for declarations goes line by
line, so it is settled by what it does to a single line: the lines of classes hold no link and
annotate nothing (`IsQuiet`), the line of a link holds that link and, once its label is blanked,
declares nothing. The pass for declarations is followed class by class, because a body spans lines.
-/

namespace DiagramDiff

/-- A diagram that is read back from what is written for it. -/
structure Diagram.IsWritable (d : Diagram) : Prop where
  /-- Its classes have pairwise distinct names. -/
  distinct : (d.classes.map (·.name)).Nodup
  /-- Each of its classes is read back. -/
  classes : ∀ c ∈ d.classes, c.IsWritable
  /-- Each of its links is read back. -/
  links : ∀ l ∈ d.links, l.IsWritable

end DiagramDiff

namespace DiagramDiff.Mermaid

open Text

/-! ## How lines begin -/

/-- A line that does not begin with an angle bracket annotates no class. -/
theorem readTagLine?_of_head {space rest : List Char} {c : Char}
    (hs : ∀ d ∈ space, isBlank d = true) (hc : isBlank c = false) (angle : c ≠ '<') :
    readTagLine? (space ++ c :: rest) = none := by
  have start : dropBlanks (space ++ c :: rest) = c :: rest :=
    dropWhile_append_of_head hs (by simpa using hc)
  unfold readTagLine?
  rw [start]
  split
  · next same => exact absurd (List.cons.inj same).1 angle
  · rfl

/-! ## Quiet lines -/

/-- A line that is neither a comment nor an annotation and holds no link. -/
structure IsQuiet (line : List Char) : Prop where
  /-- It is one line. -/
  newline : '\n' ∉ line
  /-- It is no comment. -/
  comment : isComment line = false
  /-- It annotates no class. -/
  tag : readTagLine? line = none
  /-- It holds no link. -/
  links : linkTexts line = []
  /-- It has no labels to blank. -/
  labels : blankLabels line = line

/-- The punctuation of the lines of a class. -/
def classPunctuation : List Char := '{' :: '}' :: bodyPunctuation

/-- A line with the characters of a class that annotates no class is quiet. -/
theorem isQuiet_of_holdsOnly {line : List Char} (h : HoldsOnly classPunctuation line)
    (tag : readTagLine? line = none) : IsQuiet line := by
  have newline : '\n' ∉ line := h.not_mem (by decide) (by decide)
  have percent : '%' ∉ line := h.not_mem (by decide) (by decide)
  have hyphen : '-' ∉ line := h.not_mem (by decide) (by decide)
  have stop : '.' ∉ line := h.not_mem (by decide) (by decide)
  exact ⟨newline, isComment_of_not_mem percent, tag, linkTexts_of_not_mem hyphen stop,
    blankLabels_of_not_mem hyphen stop⟩

/-- The first line of a written diagram. -/
def titleLine : List Char := "classDiagram".toList

/-- The first line is one word. -/
theorem isName_titleLine : IsName titleLine := by decide

/-- The first line is quiet. -/
theorem isQuiet_titleLine : IsQuiet titleLine :=
  isQuiet_of_holdsOnly (isName_titleLine.holdsOnly _) (by decide)

/-- A line between the braces annotates no class: after a stereotype it ends. -/
theorem readTagLine?_bodyLine {c : ClassNode} (h : c.IsWritable) {line : List Char}
    (hl : line ∈ bodyChars c) : readTagLine? line = none := by
  have indent : ∀ d ∈ memberIndent, isBlank d = true :=
    forall_mem_of_all (by decide)
  have plus : ∀ rest, readTagLine? (memberIndent ++ '+' :: rest) = none := fun rest =>
    readTagLine?_of_head indent (by decide) (by decide)
  obtain ⟨entry, he, rfl⟩ := List.mem_map.mp hl
  rw [memberEntries, List.mem_append, List.mem_append] at he
  rcases he with he | he | he
  · obtain ⟨a, ha, rfl⟩ := List.mem_map.mp he
    have name := h.annotations a ha
    have start : dropBlanks (memberIndent ++ writtenStereotype a.toList) =
        '<' :: '<' :: (a.toList ++ ['>', '>']) := dropWhile_append_of_head indent
        (by decide : isBlank '<' = false)
    have blanks : dropBlanks (a.toList ++ ['>', '>']) = a.toList ++ ['>', '>'] :=
      dropBlanks_append_name name
    have word : readWord? (a.toList ++ ['>', '>']) = some (a.toList, ['>', '>']) :=
      readWord?_append name (by decide)
    have close : dropBlanks ['>', '>'] = ['>', '>'] := rfl
    simp only [readTagLine?, start, blanks, word, close, List.head?_nil, Option.any_none,
      Bool.false_eq_true, if_false]
  · obtain ⟨p, -, rfl⟩ := List.mem_map.mp he
    unfold writtenProperty
    split
    · exact plus _
    · exact plus _
  · obtain ⟨m, -, rfl⟩ := List.mem_map.mp he
    exact plus _

/-- Every line of a class is quiet. -/
theorem isQuiet_classLine {c : ClassNode} (h : c.IsWritable) {line : List Char}
    (hl : line ∈ classLines c) : IsQuiet line := by
  have indent : ∀ d ∈ classIndent, isBlank d = true :=
    forall_mem_of_all (by decide)
  have header : HoldsOnly classPunctuation (classIndent ++ classHeader c.name.toList) := by
    have front : HoldsOnly classPunctuation classIndent := .of_subset (by decide)
    have keyword : HoldsOnly classPunctuation ['c', 'l', 'a', 's', 's', ' '] := by
      have letters : ∀ d ∈ ['c', 'l', 'a', 's', 's', ' '], isWord d = true ∨ d = ' ' :=
        forall_mem_of_all (by decide)
      intro d hd
      rcases letters d hd with letter | rfl
      · exact .inl letter
      · exact .inr (by decide)
    exact front.append (keyword.append (h.name.holdsOnly _))
  have tag : ∀ d rest, isBlank d = false → d ≠ '<' →
      readTagLine? (classIndent ++ d :: rest) = none := fun d rest => readTagLine?_of_head indent
  unfold classLines at hl
  split at hl
  · obtain rfl := List.mem_singleton.mp hl
    exact isQuiet_of_holdsOnly header (tag 'c' _ (by decide) (by decide))
  · rw [List.mem_cons, List.mem_append, List.mem_singleton] at hl
    rcases hl with rfl | hl | rfl
    · have brace : HoldsOnly classPunctuation [' ', '{'] := .of_subset (by decide)
      have line := header.append brace
      rw [List.append_assoc] at line
      exact isQuiet_of_holdsOnly line (tag 'c' _ (by decide) (by decide))
    · exact isQuiet_of_holdsOnly ((holdsOnly_bodyLine h hl).mono (by decide))
        (readTagLine?_bodyLine h hl)
    · exact isQuiet_of_holdsOnly (.of_subset (by decide)) (tag '}' _ (by decide) (by decide))

/-! ## The lines of links -/

/-- A written link is one line, with its label and without. -/
theorem newline_not_mem_linkLine {l : Link} (h : l.IsWritable) :
    '\n' ∉ linkLine l ∧ '\n' ∉ blankedLine l := by
  have indent : '\n' ∉ classIndent := by decide
  have stem : '\n' ∉ linkStem l := by
    have source : '\n' ∉ l.source.toList := h.source.not_mem isWord_newline
    have target : '\n' ∉ l.target.toList := h.target.not_mem isWord_newline
    simp [linkStem, source, target, newline_not_mem_marker h.marker]
  have label : '\n' ∉ labelTail l.label.toList ∧ '\n' ∉ blankTail l.label.toList := by
    unfold labelTail blankTail
    split <;> simp [h.line]
  simp [linkLine, blankedLine, indent, stem, label]

/-- A written link begins with a word, so it is neither a comment nor an annotation. -/
theorem head_linkLine {l : Link} (h : l.IsWritable) (tail : List Char) :
    isComment (classIndent ++ (linkStem l ++ tail)) = false ∧
      readTagLine? (classIndent ++ (linkStem l ++ tail)) = none := by
  obtain ⟨c, rest, source, hc, -⟩ := h.source.exists_cons
  have shape : linkStem l ++ tail =
      c :: (rest ++ ' ' :: (l.marker.toList ++ ' ' :: l.target.toList) ++ tail) := by
    simp [linkStem, source]
  rw [shape]
  constructor
  · exact isComment_of_head (forall_mem_of_all (by decide)) (isWhiteSpace_of_isWord hc)
      (ne_of_isWord hc (by decide))
  · exact readTagLine?_of_head (forall_mem_of_all (by decide)) (isBlank_of_isWord hc)
      (ne_of_isWord hc (by decide))

/-! ## The text of a diagram -/

/-- The lines of a diagram, given the line of a link. -/
def linesWith (line : Link → List Char) (d : Diagram) : List (List Char) :=
  titleLine :: (d.classes.flatMap classLines ++ d.links.map line)

/-- The lines of a diagram. -/
def diagramLines (d : Diagram) : List (List Char) := linesWith linkLine d

/-- The lines of a diagram whose labels are blank. -/
def blankedLines (d : Diagram) : List (List Char) := linesWith blankedLine d

/-- The printer writes these lines for some classes. -/
theorem map_toList_flatMap_textLines (classes : List ClassNode) :
    (classes.flatMap ClassNode.textLines).map String.toList = classes.flatMap classLines := by
  rw [List.map_flatMap]
  exact List.flatMap_congr fun c _ => toList_classTextLines c

/-- The printer writes these lines for a diagram. -/
theorem map_toList_textLines (d : Diagram) : d.textLines.map String.toList = diagramLines d := by
  have links : (d.links.map Link.textLine).map String.toList = d.links.map linkLine := by
    rw [List.map_map]
    exact List.map_congr_left fun l _ => toList_textLine l
  rw [Diagram.textLines, List.map_cons, List.map_append, map_toList_flatMap_textLines, links]
  rfl

/-- What is written for a diagram is the text of these lines. -/
theorem toList_render (d : Diagram) : d.render.toList = textOfLines (diagramLines d) := by
  have ended : ∀ lines : List String,
      (String.join (lines.map (· ++ "\n"))).toList = textOfLines (lines.map String.toList) := by
    intro lines
    induction lines with
    | nil => rfl
    | cons line lines ih =>
      rw [List.map_cons, String.join_cons, String.toList_append, String.toList_append, ih,
        List.map_cons, textOfLines_cons, List.append_assoc]
      rfl
  rw [Diagram.render, ended, map_toList_textLines]

section diagram

variable {d : Diagram} (h : d.IsWritable)

include h

/-- What a pass makes of quiet lines and of the lines of links is what it makes of all lines. -/
theorem map_linesWith {line other : Link → List Char} {pass : List Char → List Char}
    (quiet : ∀ text, IsQuiet text → pass text = text)
    (links : ∀ l, l.IsWritable → pass (line l) = other l) :
    (linesWith line d).map pass = linesWith other d := by
  have lines : ∀ c ∈ d.classes, (classLines c).map pass = classLines c := by
    intro c hc
    exact map_eq_self fun text ht => quiet text (isQuiet_classLine (h.classes c hc) ht)
  rw [linesWith, List.map_cons, quiet _ isQuiet_titleLine, List.map_append, List.map_flatMap,
    List.flatMap_congr lines, List.map_map]
  exact congrArg _ (congrArg _ (List.map_congr_left fun l hl => links l (h.links l hl)))

/-- What is found in the lines of links is what is found in all lines, if quiet lines hold none of
it. -/
theorem flatMap_linesWith {line : Link → List Char} {β : Type} {read : List Char → List β}
    (quiet : ∀ text, IsQuiet text → read text = []) :
    (linesWith line d).flatMap read = d.links.flatMap fun l => read (line l) := by
  have lines : (d.classes.flatMap classLines).flatMap read = [] := by
    refine List.flatMap_eq_nil_iff.mpr fun text ht => ?_
    obtain ⟨c, hc, member⟩ := List.mem_flatMap.mp ht
    exact quiet text (isQuiet_classLine (h.classes c hc) member)
  rw [linesWith, List.flatMap_cons, quiet _ isQuiet_titleLine, List.flatMap_append, lines,
    List.flatMap_map]
  rfl

/-- A written diagram holds no comments. -/
theorem stripComments_written :
    stripComments (textOfLines (diagramLines d)) = textOfLines (diagramLines d) := by
  rw [rewrite_textOfLines stripComments_line rfl, diagramLines, map_linesWith h]
  · intro text quiet
    exact stripComments_of_not_comment quiet.newline quiet.comment
  · intro l hl
    exact stripComments_of_not_comment (newline_not_mem_linkLine hl).1 (head_linkLine hl _).1

/-- The links of a written diagram are read back. -/
theorem textLinks_written : textLinks (textOfLines (diagramLines d)) = d.links := by
  have quiet : ∀ text, IsQuiet text → textLinks text = [] := by
    intro text ht
    rw [textLinks, ht.links, List.map_nil]
  have read : ∀ l ∈ d.links, textLinks (linkLine l) = [l] := by
    intro l hl
    rw [textLinks, linkTexts_linkLine (h.links l hl), List.map_singleton,
      link_writtenLink (h.links l hl)]
  rw [read_textOfLines textLinks_line rfl, diagramLines, flatMap_linesWith h quiet]
  exact flatMap_eq_self read

/-- Blanking the labels of a written diagram changes the lines of its links only. -/
theorem blankLabels_written :
    blankLabels (textOfLines (diagramLines d)) = textOfLines (blankedLines d) := by
  rw [rewrite_textOfLines blankLabels_line rfl, diagramLines,
    map_linesWith h (fun _ quiet => quiet.labels) fun _ => blankLabels_linkLine, blankedLines]

/-- In a written diagram no line annotates a class. -/
theorem tagLines_written : tagLines (textOfLines (blankedLines d)) = [] := by
  have quiet : ∀ text, IsQuiet text → tagLines text = [] := by
    intro text ht
    exact tagLines_of_none ht.newline ht.tag
  rw [read_textOfLines tagLines_line rfl, blankedLines, flatMap_linesWith h quiet]
  refine List.flatMap_eq_nil_iff.mpr fun l hl => ?_
  exact tagLines_of_none (newline_not_mem_linkLine (h.links l hl)).2
    (head_linkLine (h.links l hl) _).2

end diagram

/-! ## The declarations of a written diagram -/

/-- The lines of links, their labels blanked, declare nothing. -/
theorem declarations_links {links : List Link} (h : ∀ l ∈ links, l.IsWritable) :
    declarations (textOfLines (links.map blankedLine)) = [] := by
  induction links with
  | nil => rfl
  | cons l links ih =>
    rw [List.map_cons, textOfLines_cons, declarations_blankedLine (h l List.mem_cons_self)]
    exact ih fun m hm => h m (List.mem_cons_of_mem l hm)

/-- No body begins on a line of a class or a link. -/
theorem readBody?_lines {classes : List ClassNode} {links : List Link}
    (h : ∀ l ∈ links, l.IsWritable) :
    readBody? ('\n' :: textOfLines (classes.flatMap classLines ++ links.map blankedLine)) =
      none := by
  have indented : ∀ {c : Char} (rest : List Char), isWord c = true →
      readBody? ('\n' :: (classIndent ++ c :: rest)) = none := by
    intro c rest hc
    have space : ∀ d ∈ '\n' :: classIndent, isWhiteSpace d = true :=
      forall_mem_of_all (by decide)
    have start : trimStart ('\n' :: classIndent ++ c :: rest) = c :: rest :=
      dropWhile_append_of_head space (by simpa using isWhiteSpace_of_isWord hc)
    rw [List.cons_append] at start
    exact readBody?_of_head (by simpa [start] using ne_of_isWord hc (by decide))
  cases classes with
  | nil =>
    cases links with
    | nil => decide
    | cons l links =>
      obtain ⟨c, rest, source, hc, -⟩ := (h l List.mem_cons_self).source.exists_cons
      rw [List.flatMap_nil, List.nil_append, List.map_cons, textOfLines_cons, blankedLine, linkStem,
        source, List.append_assoc, List.append_assoc, List.cons_append, List.cons_append]
      exact indented _ hc
  | cons c classes =>
    have first : ∃ rest, textOfLines ((c :: classes).flatMap classLines ++ links.map blankedLine) =
        classIndent ++ 'c' :: rest := by
      rw [List.flatMap_cons, List.append_assoc, textOfLines_append]
      unfold classLines
      split <;> exact ⟨_, rfl⟩
    obtain ⟨rest, shape⟩ := first
    rw [shape]
    exact indented rest (by decide)

/-- The classes of a written diagram are its declarations, in their order. -/
theorem declarations_lines {classes : List ClassNode} (hc : ∀ c ∈ classes, c.IsWritable)
    {links : List Link} (hl : ∀ l ∈ links, l.IsWritable) :
    declarations (textOfLines (classes.flatMap classLines ++ links.map blankedLine)) =
      classes.map writtenDeclaration := by
  induction classes with
  | nil => exact declarations_links hl
  | cons c classes ih =>
    have later := ih fun e he => hc e (List.mem_cons_of_mem c he)
    rw [List.flatMap_cons, List.append_assoc, textOfLines_append,
      declarations_classLines (hc c List.mem_cons_self) (readBody?_lines hl), later, List.map_cons]

/-- The first line declares nothing. -/
theorem declarations_titleLine (rest : List Char) :
    declarations (titleLine ++ '\n' :: rest) = declarations rest := by
  have newline : ('\n' :: rest).head?.any isWord = false := isWord_newline
  rw [declarations_name isName_titleLine newline (.inl (by decide)),
    declarations_cons isWord_newline]

/-- The classes of a written diagram are read back. -/
theorem textClasses_written {d : Diagram} (h : d.IsWritable) :
    textClasses (textOfLines (blankedLines d)) = d.classes := by
  have found : declarations (textOfLines (blankedLines d)) = d.classes.map writtenDeclaration := by
    rw [blankedLines, linesWith, textOfLines_cons, declarations_titleLine,
      declarations_lines h.classes h.links]
  have nodes : (d.classes.map writtenDeclaration).map Declaration.classNode = d.classes := by
    rw [List.map_map]
    exact map_eq_self fun c hc => classNode_writtenDeclaration (h.classes c hc)
  have declared : declaredClasses (textOfLines (blankedLines d)) = d.classes := by
    rw [declaredClasses, found, nodes]
    exact ClassNode.foldl_declare_of_nodup h.distinct
  rw [textClasses, tagLines_written h, declared]
  rfl

end DiagramDiff.Mermaid

namespace DiagramDiff.Diagram

open Mermaid Text

/-- What is written for a diagram is read as that diagram. -/
theorem ofText_render {d : Diagram} (h : d.IsWritable) : ofText d.render = d := by
  have text : stripComments d.render.toList = textOfLines (diagramLines d) := by
    rw [toList_render, stripComments_written h]
  simp only [ofText, ofChars, text, blankLabels_written h, textClasses_written h,
    textLinks_written h]

/-- A diagram with what is delicate about writing: a class without a body in front of one that has
a body, type arguments with commas, a property twice, a link from a class named like the keyword,
and a label that looks like a link and a declaration. -/
def workshop : Diagram where
  classes :=
    [{ name := "Tool" },
      { name := "Größe"
        properties := [⟨"parts", "Map~String, int~"⟩, ⟨"sizes", "int[]"⟩, ⟨"sizes", "any"⟩]
        methods := ["measure"]
        annotations := ["interface"] },
      { name := "class", methods := ["class"] }]
  links :=
    [⟨"class", "Tool", "--o", "A --> B : class C"⟩, ⟨"Tool", "o", "o--", ""⟩,
      ⟨"Größe", "Tool", "..|>", "%% <<a>> T"⟩]

/-- The example is written and read back. -/
theorem workshop_isWritable : workshop.IsWritable where
  distinct := by decide
  classes := by
    have arguments : ∀ a ∈ ["String".toList, "int".toList], IsTypeName a := by decide
    have mapType : IsWritableType "Map~String, int~".toList :=
      .generic (by decide : IsTypeName "Map".toList) (List.cons_ne_nil _ _) arguments
    have arrayType : IsWritableType "int[]".toList :=
      .plain (by decide) (forall_mem_of_all (by decide))
    have anyType : IsWritableType "any".toList :=
      .plain (by decide) (forall_mem_of_all (by decide))
    intro c hc
    simp only [workshop, List.mem_cons, List.not_mem_nil, or_false] at hc
    rcases hc with rfl | rfl | rfl
    · exact ⟨by decide, by simp, by simp, by simp, by simp, by simp [ClassNode.MembersApart]⟩
    · refine ⟨by decide +kernel, by decide, ?_, by decide, by decide,
        by simp [ClassNode.MembersApart]⟩
      intro p hp
      simp only [List.mem_cons, List.not_mem_nil, or_false] at hp
      rcases hp with rfl | rfl | rfl
      · exact mapType
      · exact arrayType
      · exact anyType
    · exact ⟨by decide, by simp, by simp, by decide, by simp, by simp [ClassNode.MembersApart]⟩
  links := by decide +kernel

/-- The example is read back. -/
theorem ofText_render_workshop : workshop.IsWritable ∧ ofText workshop.render = workshop :=
  ⟨workshop_isWritable, ofText_render workshop_isWritable⟩

end DiagramDiff.Diagram
