import DiagramDiff.Proofs.Text.Characters

/-!
# Texts made of ended lines

`textOfLines` is the text of some lines, each ended by a line feed. A reader that treats two lines
one after the other is thereby settled on all such texts: what it reads are the pieces it reads of
the lines (`read_textOfLines`), what it rewrites are the lines it rewrites (`rewrite_textOfLines`).
-/

namespace DiagramDiff.Text

/-- The text of some lines, each ended by a line feed. -/
def textOfLines (lines : List (List Char)) : List Char := lines.flatMap fun line => line ++ ['\n']

/-- No lines, no text. -/
@[simp] theorem textOfLines_nil : textOfLines [] = [] := rfl

/-- The first line comes first. -/
theorem textOfLines_cons (line : List Char) (lines : List (List Char)) :
    textOfLines (line :: lines) = line ++ '\n' :: textOfLines lines := by
  simp [textOfLines]

/-- Lines after lines are text after text. -/
theorem textOfLines_append (lines others : List (List Char)) :
    textOfLines (lines ++ others) = textOfLines lines ++ textOfLines others :=
  List.flatMap_append

/-- What stands in no line and is no line feed does not stand in the text. -/
theorem not_mem_textOfLines {lines : List (List Char)} {c : Char} (h : ∀ line ∈ lines, c ∉ line)
    (hc : c ≠ '\n') : c ∉ textOfLines lines := by
  intro member
  obtain ⟨line, hl, inside⟩ := List.mem_flatMap.mp member
  rcases List.mem_append.mp inside with inside | ending
  · exact h line hl inside
  · exact hc (by simpa using ending)

/-- A reader that reads two lines one after the other reads all lines one after the other, and what
stands behind them last. -/
theorem read_textOfLines_append {β : Type} {read : List Char → List β}
    (h : ∀ text rest, read (text ++ '\n' :: rest) = read text ++ read rest)
    (lines : List (List Char)) (rest : List Char) :
    read (textOfLines lines ++ rest) = lines.flatMap read ++ read rest := by
  induction lines with
  | nil => rfl
  | cons line lines ih =>
    rw [textOfLines_cons, List.append_assoc, List.cons_append, h, ih, List.flatMap_cons,
      List.append_assoc]

/-- A reader that reads two lines one after the other reads all lines one after the other. -/
theorem read_textOfLines {β : Type} {read : List Char → List β}
    (h : ∀ text rest, read (text ++ '\n' :: rest) = read text ++ read rest) (empty : read [] = [])
    (lines : List (List Char)) : read (textOfLines lines) = lines.flatMap read := by
  have whole := read_textOfLines_append h lines []
  rwa [empty, List.append_nil, List.append_nil] at whole

/-- A rewriting that treats two lines one after the other treats all lines so, and what stands
behind them last. -/
theorem rewrite_textOfLines_append {rewriting : List Char → List Char}
    (h : ∀ text rest, rewriting (text ++ '\n' :: rest) = rewriting text ++ '\n' :: rewriting rest)
    (lines : List (List Char)) (rest : List Char) :
    rewriting (textOfLines lines ++ rest) =
      textOfLines (lines.map rewriting) ++ rewriting rest := by
  induction lines with
  | nil => rfl
  | cons line lines ih =>
    rw [textOfLines_cons, List.append_assoc, List.cons_append, h, ih, List.map_cons,
      textOfLines_cons, List.append_assoc, List.cons_append]

/-- A rewriting that treats two lines one after the other treats all lines so. -/
theorem rewrite_textOfLines {rewriting : List Char → List Char}
    (h : ∀ text rest, rewriting (text ++ '\n' :: rest) = rewriting text ++ '\n' :: rewriting rest)
    (empty : rewriting [] = []) (lines : List (List Char)) :
    rewriting (textOfLines lines) = textOfLines (lines.map rewriting) := by
  have whole := rewrite_textOfLines_append h lines []
  rwa [empty, List.append_nil, List.append_nil] at whole

/-! ## Lists that are read back

Reading back what was written ends in a list each of whose elements gives itself again. -/

section lists

variable {α : Type} {l : List α}

/-- Elements that are kept make up the same list. -/
theorem map_eq_self {f : α → α} (h : ∀ a ∈ l, f a = a) : l.map f = l :=
  (List.map_congr_left h).trans (List.map_id' l)

/-- Elements each of which gives itself alone make up the same list. -/
theorem flatMap_eq_self {f : α → List α} (h : ∀ a ∈ l, f a = [a]) : l.flatMap f = l :=
  (List.flatMap_congr h).trans (List.flatMap_singleton' l)

/-- Elements each of which is found again make up the same list. -/
theorem filterMap_eq_self {f : α → Option α} (h : ∀ a ∈ l, f a = some a) : l.filterMap f = l :=
  (List.filterMap_congr h).trans List.filterMap_some

/-- The elements before the last one and the last one make up the list. -/
theorem dropLast_append_getLast?_toList (l : List α) : l.dropLast ++ l.getLast?.toList = l := by
  rcases List.eq_nil_or_concat l with rfl | ⟨front, a, rfl⟩
  · rfl
  · simp

end lists

/-! ## Pieces between line feeds -/

/-- The pieces of a line come before those of the lines after it. -/
theorem pieces_line (text rest : List Char) :
    pieces (text ++ '\n' :: rest) = pieces text ++ pieces rest :=
  List.splitOn_append_cons_self text rest

/-- A text without a line feed is one piece. -/
theorem pieces_of_not_mem {line : List Char} (h : '\n' ∉ line) : pieces line = [line] :=
  List.splitOn_eq_singleton h

/-- What holds of every line and is kept when a line is put in front holds of every text. -/
theorem lines_induction {P : List Char → Prop} (last : ∀ line, '\n' ∉ line → P line)
    (line : ∀ line rest, '\n' ∉ line → P rest → P (line ++ '\n' :: rest)) (text : List Char) :
    P text := by
  induction size : text.length using Nat.strong_induction_on generalizing text with
  | _ n ih =>
    subst size
    by_cases feed : '\n' ∈ text
    · obtain ⟨front, back, rfl, first⟩ := List.eq_append_cons_of_mem feed
      exact line front back first (ih _ (by simp; omega) back rfl)
    · exact last text feed

/-- A piece is one line. -/
theorem newline_not_mem_pieces {text piece : List Char} (h : piece ∈ pieces text) :
    '\n' ∉ piece := by
  induction text using lines_induction with
  | last line hl =>
    rw [pieces_of_not_mem hl] at h
    rwa [List.mem_singleton.mp h]
  | line line rest hl ih =>
    rw [pieces_line, pieces_of_not_mem hl] at h
    rcases List.mem_append.mp h with h | h
    · rwa [List.mem_singleton.mp h]
    · exact ih h

/-- Lines that are joined are the pieces of their text. -/
theorem pieces_joinLines {lines : List (List Char)} (h : ∀ line ∈ lines, '\n' ∉ line)
    (some_line : lines ≠ []) : pieces (joinLines lines) = lines :=
  List.splitOn_intercalate '\n' h some_line

/-- Ended lines are the pieces of their text, and nothing comes after the last of them. -/
theorem pieces_textOfLines {lines : List (List Char)} (h : ∀ line ∈ lines, '\n' ∉ line) :
    pieces (textOfLines lines) = lines ++ [[]] := by
  induction lines with
  | nil => exact pieces_of_not_mem List.not_mem_nil
  | cons line lines ih =>
    rw [textOfLines_cons, pieces_line, pieces_of_not_mem (h line List.mem_cons_self),
      ih fun other member => h other (List.mem_cons_of_mem line member)]
    rfl

/-- Lines joined after lines have a line feed between them. -/
theorem joinLines_append {lines others : List (List Char)} (hl : lines ≠ []) (ho : others ≠ []) :
    joinLines (lines ++ others) = joinLines lines ++ '\n' :: joinLines others := by
  induction lines with
  | nil => exact absurd rfl hl
  | cons line lines ih =>
    cases lines with
    | nil => simp [joinLines, List.intercalate_cons_of_ne_nil ho]
    | cons next lines =>
      have later : joinLines (next :: lines ++ others) =
          joinLines (next :: lines) ++ '\n' :: joinLines others := ih (List.cons_ne_nil _ _)
      simp only [joinLines, List.cons_append, List.intercalate_cons_cons] at later ⊢
      rw [later]
      simp only [List.append_assoc]

/-! ## Lines as they are seen -/

/-- A line that ends is seen without its carriage return, before the lines after it. -/
theorem visibleLines_line {line : List Char} (hl : '\n' ∉ line) (rest : List Char) :
    visibleLines (line ++ '\n' :: rest) = dropReturn line :: visibleLines rest := by
  have parts : pieces (line ++ '\n' :: rest) = line :: pieces rest := by
    rw [pieces_line, pieces_of_not_mem hl]
    rfl
  have later : pieces rest ≠ [] := List.splitOn_ne_nil '\n' rest
  unfold visibleLines
  simp only [parts, List.dropLast_cons_of_ne_nil later, List.map_cons,
    List.getLast?_cons_of_ne_nil later]
  split <;> rfl

/-- Lines that end are seen without their carriage returns, before the lines after them. -/
theorem visibleLines_textOfLines_append {lines : List (List Char)} (h : ∀ line ∈ lines, '\n' ∉ line)
    (rest : List Char) :
    visibleLines (textOfLines lines ++ rest) = lines.map dropReturn ++ visibleLines rest := by
  induction lines with
  | nil => rfl
  | cons line lines ih =>
    rw [textOfLines_cons, List.append_assoc, List.cons_append,
      visibleLines_line (h line List.mem_cons_self),
      ih fun other member => h other (List.mem_cons_of_mem line member)]
    rfl

end DiagramDiff.Text
