import DiagramDiff.Unicode.Alphabetic
import DiagramDiff.Unicode.Mark
import DiagramDiff.Unicode.Number
import DiagramDiff.Unicode.Recent

/-!
# Classes of characters

The notation of class diagrams distinguishes four classes. A *word* is what names are made of. A
*name letter* is the class by which a tilde is judged to open a list of type arguments:
it leaves out marks that are not letters and lets in superscripts and fractions. It also knows the
letters of a newer version of Unicode. A *blank* is a space or a tab, the only characters that may
stand between the tokens of one line. *White space* is what trimming removes.

ASCII characters are decided without a table, so that closed statements about them evaluate.
-/

namespace DiagramDiff.Text

open Unicode

/-- An ASCII letter, digit or underscore. -/
def isAsciiWord (c : Char) : Bool := c.isAlphanum || c == '_'

/-- The connectors beyond ASCII that hold a word together: connecting punctuation and the two
invisible joiners. -/
def connector : Ranges :=
  [(0x200C, 0x200D), (0x203F, 0x2040), (0x2054, 0x2054), (0xFE33, 0xFE34), (0xFE4D, 0xFE4F),
    (0xFF3F, 0xFF3F)]

/-- The table of connectors ascends. -/
theorem connector_ascends : connector.ascends = true := by decide +kernel

/-- A character of a word: alphabetic, a mark, a decimal digit or a connector. -/
def isWord (c : Char) : Bool :=
  if c.toNat < 128 then isAsciiWord c
  else
    alphabetic.holds c.toNat || mark.holds c.toNat || decimalDigit.holds c.toNat ||
      connector.holds c.toNat

/-- A name letter: alphabetic, a number of any kind or an underscore. -/
def isNameLetter (c : Char) : Bool :=
  if c.toNat < 128 then isAsciiWord c
  else
    alphabetic.holds c.toNat || decimalDigit.holds c.toNat || otherNumber.holds c.toNat ||
      recentLetter.holds c.toNat

/-- A blank: a space or a tab. -/
def isBlank (c : Char) : Bool := c == ' ' || c == '\t'

/-- The code points of white space. -/
def whiteSpace : Ranges :=
  [(0x9, 0xD), (0x20, 0x20), (0x85, 0x85), (0xA0, 0xA0), (0x1680, 0x1680), (0x2000, 0x200A),
    (0x2028, 0x2029), (0x202F, 0x202F), (0x205F, 0x205F), (0x3000, 0x3000)]

/-- The table of white space ascends. -/
theorem whiteSpace_ascends : whiteSpace.ascends = true := by decide +kernel

/-- White space, line breaks included. -/
def isWhiteSpace (c : Char) : Bool := whiteSpace.holds c.toNat

/-- Every blank is white space. -/
theorem isWhiteSpace_of_isBlank {c : Char} (h : isBlank c = true) : isWhiteSpace c = true := by
  simp only [isBlank, Bool.or_eq_true, beq_iff_eq] at h
  rcases h with rfl | rfl <;> decide

end DiagramDiff.Text
