import DiagramDiff.Attribution

/-!
# Text for readers

Two texts are made for a terminal: the report with a verdict, one line a difference and one a
hint, and the listing of a candidate with a mark, a number and the text of each line. Both may be
coloured. Colour is added around a text and taken back directly after it, and only where there is
something to tell apart: the verdict is bold, and marked texts have the colour of their mark.
-/

namespace DiagramDiff

/-! ## Colour -/

/-- The escape character that begins a terminal sequence. -/
def escape : String := "\x1b["

/-- A way in which a text stands out. -/
inductive Emphasis where
  /-- Bold, for the verdict. -/
  | bold
  /-- Yellow, for what is missing. -/
  | yellow
  /-- Red, for what is unexpected. -/
  | red
  deriving DecidableEq, Repr

namespace Emphasis

/-- The sequence that switches an emphasis on. -/
def on : Emphasis → String
  | .bold => escape ++ "1m"
  | .yellow => escape ++ "38;5;11m"
  | .red => escape ++ "38;5;9m"

/-- The sequence that switches an emphasis off. -/
def off : Emphasis → String
  | .bold => escape ++ "0m"
  | .yellow | .red => escape ++ "39m"

/-- A text with an emphasis. -/
def wrap (e : Emphasis) (text : String) : String := e.on ++ text ++ e.off

end Emphasis

/-- The colour of a mark. -/
def Mark.emphasis : Mark → Emphasis
  | .missing => .yellow
  | .unexpected => .red

/-- A text in the colour of its mark, if it has one and colour is wanted. -/
def paint (color : Bool) (mark : Option Mark) (text : String) : String :=
  match mark with
  | some m => if color then m.emphasis.wrap text else text
  | none => text

/-- The verdict, bold if colour is wanted. -/
def paintVerdict (color : Bool) (text : String) : String :=
  if color then Emphasis.bold.wrap text else text

/-- A text of lines, each ended by a line feed. -/
def endedLines (lines : List String) : String := String.join (lines.map (· ++ "\n"))

/-! ## The report -/

namespace Report

/-- The verdict of a report. -/
def verdict (r : Report) : String :=
  if r.identical then "identical" else toString r.differences.length ++ " difference(s)"

/-- The line of a difference. -/
def differenceLine (color : Bool) (d : Difference) : String :=
  "  - " ++ paint color (some (Mark.ofKind d.kind)) d.message

/-- The line of a hint. -/
def hintLine (h : RenameHint) : String := "  hint: " ++ h.message

/-- The lines of a report. One that finds nothing different is its verdict alone. -/
def textLines (color : Bool) (r : Report) : List String :=
  paintVerdict color r.verdict ::
    if r.identical then [] else r.differences.map (differenceLine color) ++ r.hints.map hintLine

/-- The text of a report. -/
def render (color : Bool) (r : Report) : String := endedLines (r.textLines color)

end Report

/-! ## The listing -/

/-- A number set to the right in a column. -/
def padLeft (width n : Nat) : String :=
  let digits := toString n
  String.ofList (List.replicate (width - digits.length) ' ') ++ digits

/-- The width of the column of line numbers: that of the last number. -/
def numberWidth (lines : List MarkedLine) : Nat :=
  match lines.getLast? with
  | some line => (toString line.number).length
  | none => 1

/-- The character beside a line. -/
def MarkedLine.gutter (line : MarkedLine) : Char := (line.mark.map Mark.gutter).getD ' '

/-- The row of a line. -/
def MarkedLine.row (color : Bool) (width : Nat) (line : MarkedLine) : String :=
  String.singleton line.gutter ++ " " ++ padLeft width line.number ++ " | " ++
    paint color line.mark line.text

/-- The listing of marked lines. -/
def renderListing (color : Bool) (lines : List MarkedLine) : String :=
  endedLines (lines.map (·.row color (numberWidth lines)))

end DiagramDiff
