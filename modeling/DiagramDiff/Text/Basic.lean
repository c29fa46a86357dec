import DiagramDiff.Text.Character

/-!
# Trimming, lines and occurrences

The operations on text that the readers and the listings share. Texts are lists of characters
here: every reader of the library walks them by recursion, and strings are converted at its
border.
-/

namespace DiagramDiff.Text

/-! ## Trimming -/

/-- The text without white space at its start. -/
def trimStart (text : List Char) : List Char := text.dropWhile isWhiteSpace

/-- The text without white space at its end. -/
def trimEnd (text : List Char) : List Char := (text.reverse.dropWhile isWhiteSpace).reverse

/-- The text without white space at either end. -/
def trim (text : List Char) : List Char := trimEnd (trimStart text)

/-- The text without blanks at its start. -/
def dropBlanks (text : List Char) : List Char := text.dropWhile isBlank

/-- The text without blanks at either end. -/
def trimBlanks (text : List Char) : List Char :=
  ((dropBlanks text).reverse.dropWhile isBlank).reverse

/-- Nothing is left of nothing. -/
@[simp] theorem trim_nil : trim [] = [] := rfl

/-! ## Lines -/

/-- The pieces of a text between line feeds; their number exceeds that of the line feeds by one. -/
def pieces (text : List Char) : List (List Char) := text.splitOn '\n'

/-- The text whose pieces are given. -/
def joinLines (lines : List (List Char)) : List Char := ['\n'].intercalate lines

/-- Cutting at line feeds loses nothing. -/
@[simp] theorem joinLines_pieces (text : List Char) : joinLines (pieces text) = text :=
  List.intercalate_splitOn '\n'

/-- A line without the carriage return that a line break of two characters leaves at its end. -/
def dropReturn (line : List Char) : List Char :=
  if line.getLast? = some '\r' then line.dropLast else line

/-- The lines a reader sees: a line ends at a line feed, a carriage return before it belongs to
the line break, and a text that ends with a line break has no empty line after it. -/
def visibleLines (text : List Char) : List (List Char) :=
  let all := pieces text
  let ended := all.dropLast.map dropReturn
  match all.getLast? with
  | some (c :: cs) => ended ++ [c :: cs]
  | _ => ended

/-! ## Occurrences -/

/-- Whether `needle` stands somewhere in the text; the empty text stands everywhere. -/
def occursIn (needle : List Char) : List Char → Bool
  | [] => needle.isEmpty
  | c :: rest => needle.isPrefixOf (c :: rest) || occursIn needle rest

/-- Occurrence is being a contiguous part. -/
theorem occursIn_iff {needle text : List Char} :
    occursIn needle text = true ↔ needle <:+: text := by
  induction text with
  | nil => simp [occursIn]
  | cons c rest ih => simp [occursIn, ih, List.infix_cons_iff]

/-- The leading run of word characters, which may be empty. -/
def wordRun (text : List Char) : List Char := text.takeWhile isWord

/-- The text after its leading run of word characters. -/
def afterWord (text : List Char) : List Char := text.dropWhile isWord

/-- The leading word and what follows it make up the text. -/
@[simp] theorem wordRun_append_afterWord (text : List Char) :
    wordRun text ++ afterWord text = text :=
  List.takeWhile_append_dropWhile

/-- A leading word holds word characters only. -/
theorem isWord_of_mem_wordRun {text : List Char} {c : Char} (h : c ∈ wordRun text) :
    isWord c = true := by
  induction text with
  | nil => cases h
  | cons d rest ih =>
    by_cases hd : isWord d = true
    · have step : wordRun (d :: rest) = d :: wordRun rest := by simp [wordRun, hd]
      rw [step] at h
      rcases List.mem_cons.mp h with rfl | h
      · exact hd
      · exact ih h
    · have step : wordRun (d :: rest) = [] := by simp [wordRun, hd]
      rw [step] at h
      cases h

/-- The nonempty word a text starts with, and the rest. -/
def readWord? (text : List Char) : Option (List Char × List Char) :=
  match wordRun text with
  | [] => none
  | c :: word => some (c :: word, afterWord text)

/-- What is read as a word is the whole leading run, and it is not empty. -/
theorem readWord?_eq_some_iff {text word rest : List Char} :
    readWord? text = some (word, rest) ↔
      word ≠ [] ∧ wordRun text = word ∧ afterWord text = rest := by
  unfold readWord?
  cases h : wordRun text with
  | nil =>
    constructor
    · intro found
      cases found
    · rintro ⟨nonempty, rfl, _⟩
      exact absurd rfl nonempty
  | cons c run =>
    constructor
    · intro found
      cases found
      exact ⟨List.cons_ne_nil c run, rfl, rfl⟩
    · rintro ⟨_, rfl, rfl⟩
      rfl

end DiagramDiff.Text
