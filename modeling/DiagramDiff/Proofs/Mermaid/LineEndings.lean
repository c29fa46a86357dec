import DiagramDiff.Proofs.Mermaid.PlainLayout

/-!
# Carriage returns at line ends

A text whose line feeds are led by carriage returns is read like the text without them, with one
exception (`ofText_withReturns`). A carriage return is white space but no blank, and on an annotation
line only blanks may stand after the name. So the annotations of all lines but the last are missed,
while the stereotypes in bodies, whose entries are trimmed, are read.
-/

namespace DiagramDiff.Mermaid

open Text

/-! ## Annotations that matter -/

/-- The number of annotations of some classes. -/
def annotationCount (classes : List ClassNode) : Nat := (classes.flatMap (·.annotations)).length

/-- An annotation that names a class is one more. -/
theorem annotationCount_changeFirst {name tag : String} {classes : List ClassNode}
    (h : classes.any (·.name == name) = true) :
    annotationCount (Diagram.changeFirst name (·.annotate tag) classes) =
      annotationCount classes + 1 := by
  induction classes with
  | nil => cases h
  | cons c classes ih =>
    rw [Diagram.changeFirst]
    split
    · simp [annotationCount, ClassNode.annotate]
      omega
    · next other =>
      have later : classes.any (·.name == name) = true := by simpa [other] using h
      have more := ih later
      simp only [annotationCount, List.flatMap_cons, List.length_append] at more ⊢
      omega

/-- Annotations that name a class count, and the others change nothing. -/
theorem annotationCount_annotateClasses (classes : List ClassNode)
    (tags : List (String × String)) :
    annotationCount (annotateClasses classes tags) =
      annotationCount classes +
        (tags.filter fun tag => classes.any (·.name == tag.2)).length := by
  induction tags generalizing classes with
  | nil => rfl
  | cons tag tags ih =>
    have names : (Diagram.changeFirst tag.2 (·.annotate tag.1) classes).map (·.name) =
        classes.map (·.name) := map_annotateClasses (fun _ _ => rfl) classes [tag]
    have kept : ∀ name, (Diagram.changeFirst tag.2 (·.annotate tag.1) classes).any
        (·.name == name) = classes.any (·.name == name) := Diagram.any_name_congr names
    rw [annotateClasses_cons, ih]
    simp only [kept, List.filter_cons]
    cases named : classes.any (·.name == tag.2) with
    | true =>
      rw [annotationCount_changeFirst named]
      simp
      omega
    | false =>
      rw [Diagram.changeFirst_of_not_mem named]
      simp

/-- Annotations none of which names a class change nothing. -/
theorem annotateClasses_of_not_mem {classes : List ClassNode} {tags : List (String × String)}
    (h : ∀ tag ∈ tags, classes.any (·.name == tag.2) = false) :
    annotateClasses classes tags = classes := by
  induction tags with
  | nil => rfl
  | cons tag tags ih =>
    obtain ⟨first, later⟩ := List.forall_mem_cons.mp h
    rw [annotateClasses_cons, Diagram.changeFirst_of_not_mem first, ih later]

/-- Some annotations may be missed exactly if none of them names a class. -/
theorem annotateClasses_eq_append_iff {classes : List ClassNode}
    {missed kept : List (String × String)} :
    annotateClasses classes kept = annotateClasses classes (missed ++ kept) ↔
      ∀ tag ∈ missed, classes.any (·.name == tag.2) = false := by
  constructor
  · intro same tag member
    have counts := congrArg annotationCount same
    rw [annotationCount_annotateClasses, annotationCount_annotateClasses, List.filter_append,
      List.length_append] at counts
    have none : missed.filter (fun tag => classes.any (·.name == tag.2)) = [] :=
      List.length_eq_zero_iff.mp (by omega)
    simpa using List.filter_eq_nil_iff.mp none tag member
  · intro none
    rw [annotateClasses_append, annotateClasses_of_not_mem none]

/-! ## Texts with carriage returns -/

/-- The text with a carriage return in front of every line feed. -/
def addReturns (text : List Char) : List Char :=
  text.flatMap fun c => if c = '\n' then ['\r', '\n'] else [c]

/-- The lines but the last end with a carriage return. -/
theorem pieces_addReturns (text : List Char) :
    pieces (addReturns text) =
      (pieces text).dropLast.map (· ++ ['\r']) ++ (pieces text).getLast?.toList := by
  have kept : ∀ line : List Char, '\n' ∉ line → addReturns line = line := by
    intro line hl
    refine flatMap_eq_self fun c hc => if_neg ?_
    rintro rfl
    exact hl hc
  induction text using lines_induction with
  | last line hl => simp [kept line hl, pieces_of_not_mem hl]
  | line line rest hl ih =>
    have one : '\n' ∉ line ++ ['\r'] := by simpa using hl
    have shape : addReturns (line ++ '\n' :: rest) = (line ++ ['\r']) ++ '\n' :: addReturns rest := by
      have front := kept line hl
      unfold addReturns at front ⊢
      rw [List.flatMap_append, front, List.flatMap_cons]
      simp
    have some_line : pieces rest ≠ [] := List.splitOn_ne_nil '\n' rest
    rw [shape, pieces_line, pieces_of_not_mem one, ih, pieces_line, pieces_of_not_mem hl,
      List.singleton_append, List.singleton_append, List.dropLast_cons_of_ne_nil some_line,
      List.map_cons, List.getLast?_cons_of_ne_nil some_line]
    rfl

/-- A carriage return is trimmed. -/
theorem trim_append_return (line : List Char) : trim (line ++ ['\r']) = trim line := by
  have none : ∀ c ∈ [], isWhiteSpace c = true := List.forall_mem_nil _
  have white : ∀ c ∈ ['\r'], isWhiteSpace c = true := forall_mem_of_all (by decide)
  exact trimOf_surround none white line

/-- Carriage returns do not matter for the lines once they are trimmed. -/
theorem map_trim_addReturns (text : List Char) :
    (spokenLines (addReturns text)).map trim = (spokenLines text).map trim := by
  rw [map_trim_spokenLines, map_trim_spokenLines, pieces_addReturns]
  have trimmed : ((pieces text).dropLast.map (· ++ ['\r']) ++ (pieces text).getLast?.toList).map
      trim = (pieces text).map trim := by
    conv_rhs => rw [← dropLast_append_getLast?_toList (pieces text)]
    rw [List.map_append, List.map_map, List.map_append]
    simp only [Function.comp_def, trim_append_return]
  rw [trimmed]

/-- On a line that ends with a carriage return there is no annotation. -/
theorem readTagLine?_append_return (line : List Char) : readTagLine? (line ++ ['\r']) = none :=
  readTagLine?_eq_none (c := '\r') (by simp) (by decide) (by decide)

/-- Of a text with carriage returns only the annotation of the last line is read. -/
theorem tagLines_addReturns (text : List Char) :
    tagLines (blankLabels (stripComments (addReturns text))) =
      (pieces text).getLast?.toList.filterMap readTagLine? := by
  have none : ((pieces text).dropLast.map (· ++ ['\r'])).filterMap readTagLine? = [] := by
    rw [List.filterMap_map]
    exact List.filterMap_eq_nil_iff.mpr fun line _ => readTagLine?_append_return line
  rw [tagLines_blankLabels, tagLines_stripComments, tagLines, pieces_addReturns,
    List.filterMap_append, none, List.nil_append]

/-- The annotations of a text are those of the lines but the last and that of the last one. -/
theorem tagLines_eq_append (text : List Char) :
    tagLines (blankLabels (stripComments text)) =
      (pieces text).dropLast.filterMap readTagLine? ++
        (pieces text).getLast?.toList.filterMap readTagLine? := by
  rw [tagLines_blankLabels, tagLines_stripComments, ← List.filterMap_append,
    dropLast_append_getLast?_toList, tagLines]

end DiagramDiff.Mermaid

namespace DiagramDiff.Diagram

open Mermaid Text

/-- The text with a carriage return in front of every line feed. -/
def withReturns (text : String) : String := String.ofList (addReturns text.toList)

/-- It is read as its characters are. -/
theorem ofText_withReturns_eq (text : String) :
    ofText (withReturns text) = ofChars (addReturns text.toList) := by
  rw [ofText, withReturns, String.toList_ofList]

/-- Diagrams of the same links are the same if their classes are. -/
theorem eq_iff_of_links {d e : Diagram} (h : d.links = e.links) :
    d = e ↔ d.classes = e.classes := by
  cases d
  cases e
  obtain rfl := h
  simp

/-- With carriage returns at its line ends a text has the same links and the same classes up to
annotations. The diagram is the same exactly if no line but the last annotates one of its
classes. -/
theorem ofText_withReturns (text : String) :
    (ofText (withReturns text)).links = (ofText text).links ∧
      (ofText (withReturns text)).classes.map ClassNode.unannotated =
        (ofText text).classes.map ClassNode.unannotated ∧
      (ofText (withReturns text) = ofText text ↔
        ∀ line ∈ (pieces text.toList).dropLast, ∀ tag name,
          readTagLine? line = some (tag, name) → (ofText text).hasClass name = false) := by
  have same : (spokenLines (addReturns text.toList)).map trim =
      (spokenLines text.toList).map trim := map_trim_addReturns text.toList
  have links : (ofText (withReturns text)).links = (ofText text).links := by
    rw [ofText_withReturns_eq, links_ofChars, textLinks_congr same]
    rfl
  have classes : (ofText text).classes = annotateClasses
      (declaredClasses (blankLabels (stripComments text.toList)))
      ((pieces text.toList).dropLast.filterMap readTagLine? ++
        (pieces text.toList).getLast?.toList.filterMap readTagLine?) := by
    rw [ofText, classes_ofChars, tagLines_eq_append]
  have returned : (ofText (withReturns text)).classes = annotateClasses
      (declaredClasses (blankLabels (stripComments text.toList)))
      ((pieces text.toList).getLast?.toList.filterMap readTagLine?) := by
    rw [ofText_withReturns_eq, classes_ofChars, declaredClasses_congr same, tagLines_addReturns]
  have named : ∀ name, (ofText text).hasClass name =
      (declaredClasses (blankLabels (stripComments text.toList))).any (·.name == name) := by
    intro name
    rw [hasClass, ofText]
    exact any_name_congr (map_name_ofChars text.toList) name
  refine ⟨links, ?_, ?_⟩
  · rw [ofText_withReturns_eq, ofText, map_unannotated_ofChars, map_unannotated_ofChars,
      declaredClasses_congr same]
  · rw [eq_iff_of_links links, classes, returned, annotateClasses_eq_append_iff]
    simp only [named]
    constructor
    · intro unnamed line hl tag name read
      exact unnamed (tag, name) (List.mem_filterMap.mpr ⟨line, hl, read⟩)
    · intro unnamed tag ht
      obtain ⟨line, hl, read⟩ := List.mem_filterMap.mp ht
      exact unnamed line hl tag.1 tag.2 read

/-- An annotation on a line that is not the last one. -/
def annotatedAbove : String := "class Shape\n<<interface>> Shape\n"

/-- With carriage returns it is missed. -/
theorem ofText_withReturns_annotatedAbove :
    '\r' ∉ annotatedAbove.toList ∧
      ofText (withReturns annotatedAbove) = ⟨[⟨"Shape", [], [], []⟩], []⟩ ∧
      ofText annotatedAbove = ⟨[⟨"Shape", [], [], ["interface"]⟩], []⟩ ∧
      ofText (withReturns annotatedAbove) ≠ ofText annotatedAbove := by
  decide +kernel

end DiagramDiff.Diagram
