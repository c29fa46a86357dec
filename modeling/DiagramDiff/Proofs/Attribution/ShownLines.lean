import DiagramDiff.Proofs.Mermaid.Comments
import DiagramDiff.Proofs.Mermaid.LinkLayout

/-!
# One text in two forms

Classes are read from a text whose comments and labels are blanked, and differences are attributed
to the lines of the text itself, without the carriage returns that end them. This module says how
the lines of the two correspond.

A line of the one is the beginning of the same line of the other, followed by white space at most
(`exists_front_shownLine`), since a label takes up the rest of its line. And what is seen of a line
is the line or all of it but a carriage return (`exists_visibleLine`). So whatever ends with
something else than white space and begins a line that is read also begins the line that is seen
(`exists_seen_of_shown`).
-/

namespace DiagramDiff.Mermaid

open Text

/-! ## Lines as they are read -/

/-- A line as classes are read from it: emptied if it is a comment, and with its label blanked. -/
def shownLine (line : List Char) : List Char := blankLabels (emptyComment line)

/-- The text from which classes are read. -/
def shownText (text : List Char) : List Char := blankLabels (stripComments text)

/-- A text with its labels blanked has the lines of the text with theirs blanked. -/
theorem pieces_blankLabels (text : List Char) :
    pieces (blankLabels text) = (pieces text).map blankLabels := by
  induction text using lines_induction with
  | last line hl =>
    have one : '\n' ∉ blankLabels line := by
      intro feed
      rcases mem_of_mem_blankLabels feed with space | feed
      · cases space
      · exact hl feed
    rw [pieces_of_not_mem hl, pieces_of_not_mem one]
    rfl
  | line line rest hl ih =>
    rw [blankLabels_line, pieces_line, pieces_line, ih, List.map_append]
    have one : '\n' ∉ blankLabels line := by
      intro feed
      rcases mem_of_mem_blankLabels feed with space | feed
      · cases space
      · exact hl feed
    rw [pieces_of_not_mem hl, pieces_of_not_mem one]
    rfl

/-- The lines that are read are those of the text, each as it is read. -/
theorem pieces_shownText (text : List Char) :
    pieces (shownText text) = (pieces text).map shownLine := by
  rw [shownText, pieces_blankLabels, pieces_stripComments, List.map_map]
  rfl

/-- A link with a blank label is the text it was read from, or the same up to its label and white
space from there to the end of the line. -/
theorem readBlanked?_line_parts {text blank left : List Char}
    (h : readBlanked? text = some (blank, left)) :
    text = blank ++ left ∨
      ∃ used chars white, text = used ++ (chars ++ left) ∧ blank = used ++ white ∧ IsWhite white ∧
        left.head?.all (· == '\n') = true := by
  obtain ⟨⟨link, behind⟩, found, same⟩ := Option.map_eq_some_iff.mp h
  cases same
  obtain ⟨-, -, -, ends⟩ := sameLink_of_readLink? (.refl text) found found
  simp only at ends
  generalize label_eq : link.label = label at ends
  cases ends with
  | @plain used _ _ passed =>
    rw [passed.first, blanked_plain label_eq]
    exact .inl rfl
  | @labelled used blanks _ label _ _ _ _ first _ hb _ _ _ line =>
    obtain ⟨white, hw, -, blank⟩ := blanked_labelled label_eq hb used left
    refine .inr ⟨used, blanks ++ label, white, ?_, ?_, hw, line⟩
    · rw [first, List.append_assoc]
    · rw [first]
      exact blank

/-- Blanking leaves the beginning of a line and turns the rest of it into white space. -/
theorem exists_front_blankLabels {line : List Char} (one : '\n' ∉ line) :
    ∃ front white, blankLabels line = front ++ white ∧ IsWhite white ∧ front <+: line := by
  induction line using scan_induction endsWord_readBlanked? with
  | nil => exact ⟨[], [], rfl, .nil, List.nil_prefix⟩
  | gap c rest hc ih =>
    obtain ⟨front, white, parts, hw, begins⟩ := ih fun feed => one (List.mem_cons_of_mem c feed)
    rw [blankLabels_gap hc, parts]
    exact ⟨c :: front, white, rfl, hw, List.cons_prefix_cons.mpr ⟨rfl, begins⟩⟩
  | word word rest hw hrest none ih =>
    obtain ⟨front, white, parts, hw', begins⟩ :=
      ih fun feed => one (List.mem_append_right word feed)
    rw [blankLabels_word hw hrest none, parts]
    exact ⟨word ++ front, white, by rw [List.append_assoc], hw',
      (List.prefix_append_right_inj word).mpr begins⟩
  | found text blank left read ih =>
    rw [blankLabels_found read]
    rcases readBlanked?_line_parts read with rfl | ⟨used, chars, white, rfl, rfl, hw, ends⟩
    · obtain ⟨front, white, parts, hw, begins⟩ :=
        ih fun feed => one (List.mem_append_right blank feed)
      rw [parts]
      exact ⟨blank ++ front, white, by rw [List.append_assoc], hw,
        (List.prefix_append_right_inj blank).mpr begins⟩
    · -- A label reaches to the end of its line, so nothing is left of the line behind it.
      cases left with
      | nil =>
        have nothing : blankLabels [] = [] := rfl
        exact ⟨used, white, by rw [nothing, List.append_nil], hw, List.prefix_append _ _⟩
      | cons c left =>
        obtain rfl : c = '\n' := by simpa using ends
        exact absurd (by simp) one

/-- A line that is read is the beginning of the line of the text with white space after it at
most. -/
theorem exists_front_shownLine {line : List Char} (one : '\n' ∉ line) :
    ∃ front white, shownLine line = front ++ white ∧ IsWhite white ∧ front <+: line := by
  unfold shownLine emptyComment
  split
  · exact ⟨[], [], rfl, .nil, List.nil_prefix⟩
  · exact exists_front_blankLabels one

/-- What begins a text followed by white space, and ends with something else, begins the text. -/
theorem prefix_of_prefix_append_white {start text white : List Char} {c : Char} (hw : IsWhite white)
    (dark : isWhiteSpace c = false) (h : start ++ [c] <+: text ++ white) :
    start ++ [c] <+: text := by
  rcases List.prefix_or_prefix_of_prefix h (List.prefix_append text white) with inside | rest
  · exact inside
  · obtain ⟨more, whole⟩ := rest
    rcases List.eq_nil_or_concat more with rfl | ⟨most, d, rfl⟩
    · rw [List.append_nil] at whole
      exact ⟨[], by rw [List.append_nil, whole]⟩
    · rw [List.concat_eq_append] at whole
      have last : d = c := by
        have ends := congrArg List.getLast? whole
        simpa using ends
      have begins : most ++ [d] <+: white := by
        rw [← whole] at h
        exact (List.prefix_append_right_inj text).mp h
      have space := hw d (begins.subset (by simp))
      rw [last, dark] at space
      cases space

/-- What begins a line that is read, and ends with something else than white space, begins the line
of the text. -/
theorem prefix_of_prefix_shownLine {line start : List Char} {c : Char} (one : '\n' ∉ line)
    (dark : isWhiteSpace c = false) (h : start ++ [c] <+: shownLine line) :
    start ++ [c] <+: line := by
  obtain ⟨front, white, parts, hw, begins⟩ := exists_front_shownLine one
  rw [parts] at h
  exact (prefix_of_prefix_append_white hw dark h).trans begins

end DiagramDiff.Mermaid

namespace DiagramDiff

open Text

/-! ## Lines as they are seen -/

/-- What begins a line, and does not end with a carriage return, begins the line without one. -/
theorem prefix_dropReturn {line start : List Char} {c : Char} (visible : c ≠ '\r')
    (h : start ++ [c] <+: line) : start ++ [c] <+: dropReturn line := by
  unfold dropReturn
  split
  · next ends =>
    obtain ⟨more, rfl⟩ := h
    cases more with
    | nil =>
      rw [List.append_nil, List.getLast?_concat] at ends
      exact absurd (Option.some.inj ends) visible
    | cons d more =>
      rw [List.dropLast_append_of_ne_nil (List.cons_ne_nil d more)]
      exact List.prefix_append _ _
  · exact h

/-- A line that is not empty is seen, as it is or without a carriage return. -/
theorem exists_visibleLine {text line : List Char} {i : Nat} (h : (pieces text)[i]? = some line)
    (solid : line ≠ []) :
    ∃ seen, (visibleLines text)[i]? = some seen ∧ (seen = line ∨ seen = dropReturn line) := by
  obtain ⟨front, last, parts⟩ :=
    (List.eq_nil_or_concat (pieces text)).resolve_left (List.splitOn_ne_nil '\n' text)
  rw [List.concat_eq_append] at parts
  have shown : (visibleLines text).take front.length = front.map dropReturn ∧
      (last ≠ [] → visibleLines text = front.map dropReturn ++ [last]) := by
    simp only [visibleLines, parts, List.getLast?_concat, List.dropLast_concat]
    cases last with
    | nil => exact ⟨List.take_of_length_le (by simp), fun empty => absurd rfl empty⟩
    | cons c last => exact ⟨List.take_left' (by simp), fun _ => rfl⟩
  rw [parts] at h
  by_cases inside : i < front.length
  · rw [List.getElem?_append_left inside] at h
    refine ⟨dropReturn line, ?_, .inr rfl⟩
    rw [← List.getElem?_take_of_lt inside, shown.1, List.getElem?_map, h]
    rfl
  · obtain ⟨bound, -⟩ := List.getElem?_eq_some_iff.mp h
    obtain rfl : i = front.length := by
      rw [List.length_append, List.length_singleton] at bound
      omega
    rw [List.getElem?_concat_length] at h
    obtain rfl := Option.some.inj h
    refine ⟨last, ?_, .inl rfl⟩
    rw [shown.2 solid]
    simp

/-- What begins a line that is read, and ends with something else than white space, begins the same
line as it is seen. -/
theorem exists_seen_of_shown {text line start : List Char} {c : Char} {i : Nat}
    (dark : isWhiteSpace c = false) (h : (pieces (Mermaid.shownText text))[i]? = some line)
    (begins : start ++ [c] <+: line) :
    ∃ seen, (visibleLines text)[i]? = some seen ∧ start ++ [c] <+: seen := by
  rw [Mermaid.pieces_shownText, List.getElem?_map] at h
  obtain ⟨own, here, rfl⟩ := Option.map_eq_some_iff.mp h
  have one : '\n' ∉ own := newline_not_mem_pieces (List.mem_of_getElem? here)
  have front : start ++ [c] <+: own := Mermaid.prefix_of_prefix_shownLine one dark begins
  have solid : own ≠ [] := by
    rintro rfl
    simpa using List.prefix_nil.mp front
  have visible : c ≠ '\r' := by
    rintro rfl
    exact absurd dark (by decide)
  obtain ⟨seen, there, rfl | rfl⟩ := exists_visibleLine here solid
  · exact ⟨seen, there, front⟩
  · exact ⟨_, there, prefix_dropReturn visible front⟩

/-- A word stands in a text where the text begins with something that ends with it. -/
theorem concat_infix_iff {most text : List Char} {c : Char} :
    most ++ [c] <:+: text ↔ ∃ front, (front ++ most) ++ [c] <+: text := by
  constructor
  · rintro ⟨front, back, rfl⟩
    exact ⟨front, back, by simp only [List.append_assoc]⟩
  · rintro ⟨front, back, rfl⟩
    exact ⟨front, back, by simp only [List.append_assoc]⟩

/-- A word on a line stands on it without a carriage return. -/
theorem infix_dropReturn {line word : List Char} (hw : IsName word) (inside : word <:+: line) :
    word <:+: dropReturn line := by
  obtain ⟨most, c, rfl, letter⟩ := hw.exists_concat
  obtain ⟨front, begins⟩ := concat_infix_iff.mp inside
  have visible : c ≠ '\r' := by
    rintro rfl
    exact absurd letter (by decide)
  exact concat_infix_iff.mpr ⟨front, prefix_dropReturn visible begins⟩

/-- A word on a line that is read stands on the same line as it is seen. -/
theorem exists_seen_of_word {text line word : List Char} {i : Nat} (hw : IsName word)
    (h : (pieces (Mermaid.shownText text))[i]? = some line) (inside : word <:+: line) :
    ∃ seen, (visibleLines text)[i]? = some seen ∧ word <:+: seen := by
  obtain ⟨most, c, rfl, letter⟩ := hw.exists_concat
  obtain ⟨front, begins⟩ := concat_infix_iff.mp inside
  obtain ⟨seen, here, there⟩ := exists_seen_of_shown (isWhiteSpace_of_isWord letter) h begins
  exact ⟨seen, here, concat_infix_iff.mpr ⟨front, there⟩⟩

end DiagramDiff
