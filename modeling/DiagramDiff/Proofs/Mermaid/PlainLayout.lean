import DiagramDiff.Proofs.Mermaid.ClassLayout
import DiagramDiff.Proofs.Mermaid.ReadClasses
import DiagramDiff.Proofs.Mermaid.TagLines
import Mathlib.Logic.Relation

/-!
# Layout does not matter

Indentation, trailing blanks, blank lines and comments say nothing: a text is read like the same text
without them (`ofText_plainLayout`). Nothing is assumed of the text.

The links of a text and the classes it declares depend on the trimmed lines that say something
(`textLinks_congr`, `declaredClasses_congr`); in this form it does not matter what kind of white space
was trimmed. For annotation lines it does, for only blanks may stand around them, and so they are
settled line by line (`tagLines_ofChars`).
-/

namespace DiagramDiff.Mermaid

open Text

/-! ## Lines that say something -/

/-- A line that is neither blank nor a comment. -/
def isSpoken (line : List Char) : Bool := !(trim line).isEmpty && !isComment line

/-- The lines of a text that say something. -/
def spokenLines (text : List Char) : List (List Char) := (pieces text).filter isSpoken

/-- Whether a line says something depends on what is left of it when it is trimmed. -/
theorem isSpoken_congr {line other : List Char} (h : trim line = trim other) :
    isSpoken line = isSpoken other := by
  rw [isSpoken, isSpoken, h, isComment_congr h]

/-- Trimming the lines that say something is leaving out the trimmed lines that say nothing. -/
theorem map_trim_spokenLines (text : List Char) :
    (spokenLines text).map trim = ((pieces text).map trim).filter isSpoken := by
  rw [List.filter_map, spokenLines]
  refine congrArg _ (List.filter_congr fun line _ => ?_)
  exact isSpoken_congr (trimOf_trimOf line).symm

/-- The lines of lines joined are the lines of the lines. -/
theorem spokenLines_joinLines (lines : List (List Char)) :
    spokenLines (joinLines lines) = lines.flatMap spokenLines := by
  induction lines with
  | nil => rfl
  | cons line lines ih =>
    cases lines with
    | nil => simp [joinLines]
    | cons next lines =>
      have whole : joinLines (line :: next :: lines) = line ++ '\n' :: joinLines (next :: lines) := by
        simp [joinLines, List.intercalate_cons_cons]
      rw [whole, spokenLines, pieces_line, List.filter_append, List.flatMap_cons, ← ih]
      rfl

/-- A line gives itself, if it says something. -/
theorem spokenLines_of_not_mem {line : List Char} (h : '\n' ∉ line) :
    spokenLines line = [line].filter isSpoken := by
  rw [spokenLines, pieces_of_not_mem h]

/-! ## Texts of the same lines -/

/-- The text of some lines, each led by a line feed. -/
def ledLines (lines : List (List Char)) : List Char := lines.flatMap ('\n' :: ·)

/-- The pieces of a text make up the text behind a line feed. -/
theorem ledLines_pieces (text : List Char) : ledLines (pieces text) = '\n' :: text := by
  induction text using lines_induction with
  | last line hl => simp [pieces_of_not_mem hl, ledLines]
  | line line rest hl ih =>
    rw [pieces_line, pieces_of_not_mem hl, ledLines, List.flatMap_append]
    rw [ledLines] at ih
    rw [ih]
    simp

/-- The trimmed lines of some lines, without the blank ones. -/
def solidLines (lines : List (List Char)) : List (List Char) :=
  (lines.map trim).filter (!·.isEmpty)

/-- Some lines are relaid if they are trimmed and the blank ones are left out. -/
theorem relaid_ledLines (lines : List (List Char)) {w w' : List Char} (hw : IsWhite w)
    (hw' : IsWhite w') : Relaid (w ++ ledLines lines) (w' ++ ledLines (solidLines lines)) := by
  -- The white space in front grows by every line that is left out.
  induction lines generalizing w w' with
  | nil => exact .ending (hw.append .nil) (hw'.append .nil)
  | cons line lines ih =>
    obtain ⟨left, right, hl, hr, parts⟩ := exists_trimOf isWhiteSpace line
    rw [← trim_eq_trimOf] at parts
    have front : IsWhite ('\n' :: left) := IsWhite.append .newline hl
    have cons : ledLines (line :: lines) = '\n' :: (line ++ ledLines lines) := rfl
    by_cases blank : trim line = []
    · have solid : solidLines (line :: lines) = solidLines lines := by simp [solidLines, blank]
      have white : IsWhite (w ++ '\n' :: line) :=
        hw.append (IsWhite.append .newline (isWhite_of_trim_eq_nil blank))
      have later := ih white hw'
      rw [solid, cons]
      simpa only [List.append_assoc, List.cons_append] using later
    · have solid : solidLines (line :: lines) = trim line :: solidLines lines := by
        simp [solidLines, blank]
      have later : Relaid (right ++ ledLines lines) ([] ++ ledLines (solidLines lines)) :=
        ih hr .nil
      have whole := (later.append_left (trim line)).lineBreak (hw.append front)
        (hw'.append .newline) (by simp) (by simp)
      have shape : w ++ ledLines (line :: lines) =
          (w ++ '\n' :: left) ++ (trim line ++ (right ++ ledLines lines)) := by
        rw [cons]
        conv_lhs => rw [parts]
        simp only [List.append_assoc, List.cons_append]
      have shape' : w' ++ ledLines (trim line :: solidLines lines) =
          (w' ++ ['\n']) ++ (trim line ++ ([] ++ ledLines (solidLines lines))) := by
        simp [ledLines]
      rw [solid, shape, shape']
      exact whole

/-- A text behind a line feed is its trimmed lines, relaid. -/
theorem relaid_solidLines (text : List Char) :
    Relaid ('\n' :: text) (ledLines (solidLines (pieces text))) := by
  have whole := relaid_ledLines (pieces text) .nil .nil
  rwa [List.nil_append, List.nil_append, ledLines_pieces] at whole

/-- Emptying comments leaves the trimmed lines that say something. -/
theorem solidLines_stripComments (text : List Char) :
    solidLines (pieces (stripComments text)) = (spokenLines text).map trim := by
  rw [pieces_stripComments, spokenLines]
  generalize pieces text = lines
  induction lines with
  | nil => rfl
  | cons line lines ih =>
    unfold solidLines at ih ⊢
    rw [List.map_cons, List.map_cons, List.filter_cons, ih, List.filter_cons]
    cases comment : isComment line with
    | true => simp [emptyComment, isSpoken, comment]
    | false => by_cases blank : trim line = [] <;> simp [emptyComment, isSpoken, comment, blank]

/-- The links of a text depend on its trimmed lines that say something. -/
theorem textLinks_congr {text other : List Char}
    (h : (spokenLines text).map trim = (spokenLines other).map trim) :
    textLinks (stripComments text) = textLinks (stripComments other) := by
  have settled : ∀ t, textLinks (stripComments t) =
      textLinks (ledLines ((spokenLines t).map trim)) := by
    intro t
    have led : textLinks ('\n' :: stripComments t) = textLinks (stripComments t) :=
      textLinks_line [] (stripComments t)
    rw [← led, textLinks_relaid (relaid_solidLines (stripComments t)), solidLines_stripComments]
  rw [settled text, settled other, h]

/-- The classes that a text declares depend on its trimmed lines that say something. -/
theorem declaredClasses_congr {text other : List Char}
    (h : (spokenLines text).map trim = (spokenLines other).map trim) :
    declaredClasses (blankLabels (stripComments text)) =
      declaredClasses (blankLabels (stripComments other)) := by
  have settled : ∀ t, declaredClasses (blankLabels (stripComments t)) =
      declaredClasses (blankLabels (ledLines ((spokenLines t).map trim))) := by
    intro t
    have led : declaredClasses (blankLabels ('\n' :: stripComments t)) =
        declaredClasses (blankLabels (stripComments t)) := by
      rw [blankLabels_gap isWord_newline, declaredClasses, declarations_cons isWord_newline]
      rfl
    rw [← led, declaredClasses_relaid (blankLabels_relaid (relaid_solidLines (stripComments t))),
      solidLines_stripComments]
  rw [settled text, settled other, h]

/-- Only a line that says something annotates a class. -/
theorem readTagLine?_eq_none_of_silent {line : List Char} (h : isSpoken line = false) :
    readTagLine? line = none := by
  cases comment : isComment line with
  | true => exact readTagLine?_eq_none (percent_mem_of_isComment comment) (by decide) (by decide)
  | false =>
    have blank : trim line = [] := by simpa [isSpoken, comment] using h
    have white : IsWhite line := isWhite_of_trim_eq_nil blank
    cases read : readTagLine? line with
    | none => rfl
    | some result =>
      obtain ⟨tag, name⟩ := result
      obtain ⟨_, _, _, _, start, -⟩ := readTagLine?_eq_some read
      have behind : dropBlanks line <:+ line := List.dropWhile_suffix isBlank
      have angle : '<' ∈ line := behind.subset (start ▸ List.mem_cons_self)
      exact absurd (white '<' angle) (by decide)

/-- The annotations of a text are those of its lines that say something. -/
theorem tagLines_spokenLines (text : List Char) :
    tagLines (blankLabels (stripComments text)) = (spokenLines text).filterMap readTagLine? := by
  rw [tagLines_blankLabels, tagLines_stripComments, tagLines, spokenLines, List.filterMap_filter]
  refine List.filterMap_congr fun line _ => ?_
  cases spoken : isSpoken line with
  | true => simp
  | false => simp [readTagLine?_eq_none_of_silent spoken]

end DiagramDiff.Mermaid

namespace DiagramDiff.Diagram

open Mermaid Text

/-- Texts whose lines say the same are read alike. -/
theorem ofChars_congr {text other : List Char}
    (h : (spokenLines text).map trimBlanks = (spokenLines other).map trimBlanks) :
    ofChars text = ofChars other := by
  have trimmed : ∀ t, (spokenLines t).map trim = ((spokenLines t).map trimBlanks).map trim := by
    intro t
    rw [List.map_map]
    exact List.map_congr_left fun line _ => (trim_trimBlanks line).symm
  have tags : ∀ t, (spokenLines t).filterMap readTagLine? =
      ((spokenLines t).map trimBlanks).filterMap readTagLine? := by
    intro t
    rw [List.filterMap_map]
    exact List.filterMap_congr fun line _ => readTagLine?_congr (trimOf_trimOf line).symm
  have solid : (spokenLines text).map trim = (spokenLines other).map trim := by
    rw [trimmed text, trimmed other, h]
  simp only [ofChars, textClasses]
  rw [declaredClasses_congr solid, textLinks_congr solid, tagLines_spokenLines text,
    tagLines_spokenLines other, tags text, tags other, h]

/-! ## Plain layout -/

/-- A text without what says nothing: its lines without blanks at their ends, and without the lines
that are blank or comments. -/
def plainLayout (text : String) : String :=
  String.ofList (joinLines (((pieces text.toList).map trimBlanks).filter isSpoken))

/-- The text of some lines. -/
def ofLines (lines : List String) : String :=
  String.ofList (joinLines (lines.map String.toList))

/-- Something that says nothing added to a text. -/
inductive LayoutEdit : String → String → Prop where
  /-- Blanks at the ends of a line. -/
  | blanks (front back : List String) {left line right : String}
      (hl : ∀ c ∈ left.toList, isBlank c = true) (hr : ∀ c ∈ right.toList, isBlank c = true)
      (one : '\n' ∉ line.toList) :
      LayoutEdit (ofLines (front ++ line :: back)) (ofLines (front ++ (left ++ line ++ right) :: back))
  /-- A line that is blank or a comment. -/
  | line (front back : List String) {line : String} (silent : isSpoken line.toList = false)
      (one : '\n' ∉ line.toList) :
      LayoutEdit (ofLines (front ++ back)) (ofLines (front ++ line :: back))

/-- The lines of the text of some lines are the lines of these. -/
theorem spokenLines_ofLines (front back : List String) (line : String) :
    spokenLines (ofLines (front ++ line :: back)).toList =
      spokenLines (ofLines front).toList ++ (spokenLines line.toList ++
        spokenLines (ofLines back).toList) := by
  simp only [ofLines, String.toList_ofList, spokenLines_joinLines, List.map_append, List.map_cons,
    List.flatMap_append, List.flatMap_cons]

/-- Adding what says nothing leaves what the lines of a text say. -/
theorem LayoutEdit.spokenLines_eq {text other : String} (h : LayoutEdit text other) :
    (spokenLines text.toList).map trimBlanks = (spokenLines other.toList).map trimBlanks := by
  cases h with
  | @blanks front back left line right hl hr one =>
    have around : trimBlanks (left ++ line ++ right).toList = trimBlanks line.toList := by
      rw [String.toList_append, String.toList_append, List.append_assoc]
      exact trimOf_surround hl hr line.toList
    have feed : '\n' ∉ (left ++ line ++ right).toList := by
      have blank : ∀ {run : List Char}, (∀ c ∈ run, isBlank c = true) → '\n' ∉ run :=
        fun all member => absurd (all _ member) (by decide)
      simp only [String.toList_append, List.mem_append, not_or]
      exact ⟨⟨blank hl, one⟩, blank hr⟩
    rw [spokenLines_ofLines, spokenLines_ofLines, spokenLines_of_not_mem one,
      spokenLines_of_not_mem feed]
    simp only [List.map_append, List.filter_cons, isSpoken_congr (trim_congr around)]
    split
    · simp only [List.map_cons, around]
    · rfl
  | @line front back line silent one =>
    rw [spokenLines_ofLines, spokenLines_of_not_mem one]
    simp only [List.filter_cons, silent]
    simp [ofLines, spokenLines_joinLines]

/-- The plain layout of a text is read like the text, and so is every text that differs from it only
in blanks at the ends of lines, in blank lines and in comments. -/
theorem ofText_plainLayout (text : String) :
    ofText (plainLayout text) = ofText text ∧
      ∀ other, Relation.EqvGen LayoutEdit text other → ofText other = ofText text := by
  constructor
  · have lines : ((pieces text.toList).map trimBlanks).filter isSpoken =
        (spokenLines text.toList).map trimBlanks := by
      rw [List.filter_map, spokenLines]
      refine congrArg _ (List.filter_congr fun line _ => ?_)
      exact isSpoken_congr (trim_trimBlanks line)
    refine ofChars_congr ?_
    have kept : ∀ line ∈ (spokenLines text.toList).map trimBlanks, spokenLines line = [line] := by
      intro line hl
      obtain ⟨piece, hp, rfl⟩ := List.mem_map.mp hl
      obtain ⟨member, spoken⟩ := List.mem_filter.mp hp
      have one : '\n' ∉ trimBlanks piece := fun feed =>
        newline_not_mem_pieces member ((trimOf_within isBlank piece).subset feed)
      rw [spokenLines_of_not_mem one]
      simp [isSpoken_congr (trim_trimBlanks piece), spoken]
    rw [plainLayout, String.toList_ofList, lines, spokenLines_joinLines, flatMap_eq_self kept,
      List.map_map]
    exact List.map_congr_left fun line _ => trimOf_trimOf line
  · intro other edits
    induction edits with
    | rel text other edit => exact (ofChars_congr edit.spokenLines_eq).symm
    | refl text => rfl
    | symm text other _ ih => exact ih.symm
    | trans text middle other _ _ first second => exact second.trans first

/-- A comment, a blank line and indentation in a body change nothing. -/
theorem ofText_plainLayout_body :
    Relation.EqvGen LayoutEdit
        (ofLines ["class Shape", "\x7b", "+area: int", "\x7d"])
        (ofLines ["class Shape", "", "\x7b", "%% in metres", "\t" ++ "+area: int" ++ " ", "\x7d"]) ∧
      ofText (ofLines ["class Shape", "", "\x7b", "%% in metres", "\t" ++ "+area: int" ++ " ",
          "\x7d"]) =
        ofText (ofLines ["class Shape", "\x7b", "+area: int", "\x7d"]) := by
  have blank := @LayoutEdit.line ["class Shape"] ["\x7b", "+area: int", "\x7d"] ""
    (by decide) (by decide)
  have comment := @LayoutEdit.line ["class Shape", "", "\x7b"] ["+area: int", "\x7d"]
    "%% in metres" (by decide +kernel) (by decide)
  have indent := @LayoutEdit.blanks ["class Shape", "", "\x7b", "%% in metres"] ["\x7d"]
    "\t" "+area: int" " " (forall_mem_of_all (by decide)) (forall_mem_of_all (by decide)) (by decide)
  have edits := Relation.EqvGen.trans _ _ _ (.rel _ _ blank)
    (.trans _ _ _ (.rel _ _ comment) (.rel _ _ indent))
  exact ⟨edits, (ofText_plainLayout _).2 _ edits⟩

end DiagramDiff.Diagram
