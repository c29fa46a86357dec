import DiagramDiff.Diagram.Kind
import DiagramDiff.Text.Search

/-!
# Links of a text

A link is written `Source "1" --> "*" Target : label`. Blanks and the two quoted cardinalities are
optional, and the label reaches to the end of its line. A line may hold several links; only its
last one can be labelled, because a label swallows the rest of the line.

Links are looked for in the whole text. Cardinalities and labels stop at a line break, and nothing
else in the notation reaches across one.

The label of a link is free text. Before declarations are looked for, labels are blanked: every
character of a label becomes a space, and all positions stay as they were.
-/

namespace DiagramDiff.Mermaid

open Text

/-! ## Reading one link -/

/-- A link as it stands in a text. -/
structure LinkText where
  /-- The word before the marker. -/
  source : List Char
  /-- The marker. -/
  marker : String
  /-- The word after the marker. -/
  target : List Char
  /-- The rest of the line after the colon and its blanks, if there is a colon. -/
  label : Option (List Char)
  deriving DecidableEq, Repr

/-- A character that does not end the line. -/
def isInLine (c : Char) : Bool := c != '\n'

/-- A character that may stand in a quoted cardinality. -/
def isQuotable (c : Char) : Bool := c != '"' && c != '\n'

/-- The text after a quoted cardinality and the blanks that follow it; the same text if it does
not start with one. -/
def skipCardinality (text : List Char) : List Char :=
  match text with
  | '"' :: rest =>
    match rest.dropWhile isQuotable with
    | '"' :: after => dropBlanks after
    | _ => text
  | _ => text

/-- What follows a marker: an optional cardinality, the target and an optional label. Answers with
the target, the label and the text after the link. -/
def readTarget? (text : List Char) : Option (List Char × Option (List Char) × List Char) :=
  match readWord? (skipCardinality (dropBlanks text)) with
  | none => none
  | some (target, after) =>
    match dropBlanks after with
    | ':' :: rest =>
      let line := dropBlanks rest
      some (target, some (line.takeWhile isInLine), line.dropWhile isInLine)
    | _ => some (target, none, after)

/-- The link that a given marker makes of a source and the text after it. -/
def readMarked? (source text : List Char) (marker : String) : Option (LinkText × List Char) :=
  match marker.toList.isPrefixOf? text with
  | none => none
  | some rest =>
    (readTarget? rest).map fun (target, label, after) => (⟨source, marker, target, label⟩, after)

/-- The link a text starts with, and the text after it. The markers are tried in their order, and
one that no target follows gives way to the next. -/
def readLink? (text : List Char) : Option (LinkText × List Char) :=
  match readWord? text with
  | none => none
  | some (source, after) =>
    Link.markers.findSome? (readMarked? source (skipCardinality (dropBlanks after)))

/-! ## The links of a text -/

/-- The links of a text as they stand there, from first to last. -/
def linkTexts (text : List Char) : List LinkText := finds (atWordStart readLink?) text

/-- A link with its label trimmed. -/
def LinkText.link (t : LinkText) : Link where
  source := String.ofList t.source
  target := String.ofList t.target
  marker := t.marker
  label := String.ofList (trim (t.label.getD []))

/-- The links of a text. -/
def textLinks (text : List Char) : List Link := (linkTexts text).map LinkText.link

/-! ## Blanking labels -/

/-- The characters of a link with its label replaced by spaces. A label of white space alone
stays. -/
def LinkText.blanked (t : LinkText) (chars : List Char) : List Char :=
  match t.label with
  | none => chars
  | some label =>
    if (trim label).isEmpty then chars
    else chars.take (chars.length - label.length) ++ List.replicate label.length ' '

/-- The link a text starts with, written with a blank label, and the text after it. -/
def readBlanked? (text : List Char) : Option (List Char × List Char) :=
  (readLink? text).map fun (link, after) =>
    (link.blanked (text.take (text.length - after.length)), after)

/-- The text with the labels of its links replaced by spaces. -/
def blankLabels (text : List Char) : List Char := replaceFinds (atWordStart readBlanked?) text

end DiagramDiff.Mermaid
