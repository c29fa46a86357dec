import DiagramDiff.Text.Basic

/-!
# Comment lines

A line whose first characters beyond white space are two percent signs is a comment. Comments are
emptied rather than removed, so every other line keeps its number.
-/

namespace DiagramDiff.Mermaid

open Text

/-- Whether a line is a comment. -/
def isComment (line : List Char) : Bool := ['%', '%'].isPrefixOf (trimStart line)

/-- A line, emptied if it is a comment. -/
def emptyComment (line : List Char) : List Char := if isComment line then [] else line

/-- The text with its comment lines emptied. -/
def stripComments (text : List Char) : List Char := joinLines ((pieces text).map emptyComment)

end DiagramDiff.Mermaid
