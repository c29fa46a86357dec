import DiagramDiff.Mermaid.Declaration
import DiagramDiff.Mermaid.Link

/-!
# Reading a diagram

Reading never fails: what is not recognised is passed over, so a half-written text gives the part
of a diagram that it holds. Links are read from the text without comments. Classes are read from
the same text with the labels of its links blanked as well, so that no label declares anything.
-/

namespace DiagramDiff.Diagram

open Mermaid

/-- The diagram that a list of characters holds. -/
def ofChars (text : List Char) : Diagram :=
  let source := stripComments text
  { classes := textClasses (blankLabels source), links := textLinks source }

/-- The diagram that a text holds. -/
def ofText (text : String) : Diagram := ofChars text.toList

end DiagramDiff.Diagram
