import DiagramDiff.Text.Basic

/-!
# Searching a text

A recogniser looks at the text from one position on, together with the character before that
position, and answers with what it found and the text after it. Searching tries the positions
from left to right; where something is found the search goes on after it, so the finds are the
leftmost ones that do not overlap, and every other character is kept as it is.

The search recurses on the text itself and counts down the characters that belong to the last
find. It is therefore total for every recogniser, and it evaluates on concrete texts.
-/

namespace DiagramDiff.Text

/-- A part of a searched text. -/
inductive Segment (α : Type) where
  /-- A character outside every find. -/
  | plain (c : Char)
  /-- A find, in place of the characters it was read from. -/
  | found (a : α)
  deriving Repr, DecidableEq

/-- A recogniser: given the character before a position, if any, and the text from there on, the
value found at that position and the text after it. -/
abbrev Recogniser (α : Type) := Option Char → List Char → Option (α × List Char)

/-- The segments of a text of which the next `skip` characters belong to a find already
reported. -/
def segmentsFrom {α : Type} (recognise : Recogniser α) :
    Option Char → Nat → List Char → List (Segment α)
  | _, _, [] => []
  | _, skip + 1, c :: rest => segmentsFrom recognise (some c) skip rest
  | before, 0, c :: rest =>
    match recognise before (c :: rest) with
    | some (a, after) =>
      .found a :: segmentsFrom recognise (some c) (rest.length - after.length) rest
    | none => .plain c :: segmentsFrom recognise (some c) 0 rest

/-- Nothing is left to search. -/
@[simp] theorem segmentsFrom_nil {α : Type} (recognise : Recogniser α) (before : Option Char)
    (skip : Nat) : segmentsFrom recognise before skip [] = [] := by
  cases skip <;> rfl

/-- A character that belongs to the last find is passed over. -/
theorem segmentsFrom_skip {α : Type} (recognise : Recogniser α) (before : Option Char)
    (skip : Nat) (c : Char) (rest : List Char) :
    segmentsFrom recognise before (skip + 1) (c :: rest) =
      segmentsFrom recognise (some c) skip rest := rfl

/-- A find is reported, and the search passes over the rest of its characters. -/
theorem segmentsFrom_found {α : Type} {recognise : Recogniser α} {before : Option Char} {c : Char}
    {rest after : List Char} {a : α} (h : recognise before (c :: rest) = some (a, after)) :
    segmentsFrom recognise before 0 (c :: rest) =
      .found a :: segmentsFrom recognise (some c) (rest.length - after.length) rest := by
  simp only [segmentsFrom, h]

/-- A character at which nothing is found is kept. -/
theorem segmentsFrom_plain {α : Type} {recognise : Recogniser α} {before : Option Char} {c : Char}
    {rest : List Char} (h : recognise before (c :: rest) = none) :
    segmentsFrom recognise before 0 (c :: rest) =
      .plain c :: segmentsFrom recognise (some c) 0 rest := by
  simp only [segmentsFrom, h]

/-- The segments of a text. -/
def segments {α : Type} (recognise : Recogniser α) (text : List Char) : List (Segment α) :=
  segmentsFrom recognise none 0 text

/-- The find of a segment. -/
def Segment.found? {α : Type} : Segment α → Option α
  | .plain _ => none
  | .found a => some a

/-- The character of a segment outside every find. -/
def Segment.plain? {α : Type} : Segment α → Option Char
  | .plain c => some c
  | .found _ => none

/-- The finds in a text, from left to right. -/
def finds {α : Type} (recognise : Recogniser α) (text : List Char) : List α :=
  (segments recognise text).filterMap Segment.found?

/-- What is left of a text when its finds are taken out. -/
def withoutFinds {α : Type} (recognise : Recogniser α) (text : List Char) : List Char :=
  (segments recognise text).filterMap Segment.plain?

/-- The characters that a segment stands for, a find standing for the text it is. -/
def Segment.chars : Segment (List Char) → List Char
  | .plain c => [c]
  | .found text => text

/-- The text with each find replaced by what the recogniser answers for it. -/
def replaceFinds (recognise : Recogniser (List Char)) (text : List Char) : List Char :=
  (segments recognise text).flatMap Segment.chars

/-- A recogniser that only looks where a word begins, that is, not between two word characters. -/
def atWordStart {α : Type} (recognise : List Char → Option (α × List Char)) : Recogniser α :=
  fun before text =>
    match before with
    | some c => if isWord c then none else recognise text
    | none => recognise text

/-- Nothing is found in an empty text. -/
@[simp] theorem finds_nil {α : Type} (recognise : Recogniser α) : finds recognise [] = [] := rfl

/-- Nothing is left of an empty text. -/
@[simp] theorem withoutFinds_nil {α : Type} (recognise : Recogniser α) :
    withoutFinds recognise [] = [] := rfl

end DiagramDiff.Text
