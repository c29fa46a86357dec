import DiagramDiff.Listing
import DiagramDiff.Proofs.Attribution.Scopes
import DiagramDiff.Proofs.Text.Lines
import Mathlib.Data.List.Forall2
import Mathlib.Data.Nat.Digits.Lemmas

/-!
# The rows of a listing

A listing without colour has one row for each marked line (`IsRow`): the mark, a space, the number
set to the right in a column, a bar and the text of the line. The column has the width of the last
number. Padding never shortens a number, so the rows agree on where the bar stands only because the
numbers count the lines and none of them is longer than the last one.

A row says everything about its line but the position of the difference (`IsRow.unique`), whatever
the text holds: the width of the column tells where the text begins. And since rows are lines of
the listing, the listing says how many there are, hence how wide the column is, and so everything
about all of its lines (`markLines_renderListing`).
-/

namespace DiagramDiff

open Text

/-! ## Texts of ended lines -/

/-- The characters of ended lines are those of the lines, each followed by a line feed. -/
theorem toList_endedLines (lines : List String) :
    (endedLines lines).toList = textOfLines (lines.map String.toList) := by
  rw [endedLines, String.toList_join, textOfLines, List.flatMap_map, List.flatMap_map]
  refine List.flatMap_congr fun line _ => ?_
  exact String.toList_append

/-- Ended lines are the pieces of their text, and nothing comes after the last of them. -/
theorem pieces_endedLines {lines : List String} (h : ∀ line ∈ lines, '\n' ∉ line.toList) :
    pieces (endedLines lines).toList = lines.map String.toList ++ [[]] := by
  rw [toList_endedLines]
  refine pieces_textOfLines fun chars member => ?_
  obtain ⟨line, hl, rfl⟩ := List.mem_map.mp member
  exact h line hl

/-! ## Numbers in a column -/

/-- A number other than zero is written with its digits. -/
theorem length_toDigits_eq {n : Nat} (h : 0 < n) :
    (Nat.toDigits 10 n).length = (Nat.digits 10 n).length := by
  have some_digit : 0 < (Nat.digits 10 n).length := (Nat.lt_digits_length_iff (by decide) n).mpr h
  apply Nat.le_antisymm
  · rw [Nat.length_toDigits_le_iff (by decide) some_digit]
    exact Nat.lt_base_pow_length_digits (by decide)
  · rw [Nat.digits_length_le_iff (by decide)]
    exact (Nat.length_toDigits_le_iff (by decide) Nat.length_toDigits_pos).mp le_rfl

/-- No number is longer than one that is not smaller. -/
theorem length_toDigits_mono {m n : Nat} (h : m ≤ n) :
    (Nat.toDigits 10 m).length ≤ (Nat.toDigits 10 n).length := by
  rw [Nat.length_toDigits_le_iff (by decide) Nat.length_toDigits_pos]
  exact h.trans_lt ((Nat.length_toDigits_le_iff (by decide) Nat.length_toDigits_pos).mp le_rfl)

/-- A number in a column is the number behind some spaces. -/
theorem toList_padLeft (width n : Nat) :
    (padLeft width n).toList =
      List.replicate (width - (Nat.toDigits 10 n).length) ' ' ++ Nat.toDigits 10 n := by
  rw [padLeft, String.toList_append, String.toList_ofList, ← String.length_toList, toList_toString]

/-- A number is read back from its column. -/
theorem dropWhile_spaces (blanks n : Nat) :
    (List.replicate blanks ' ' ++ Nat.toDigits 10 n).dropWhile (· == ' ') = Nat.toDigits 10 n := by
  rw [List.dropWhile_append_of_pos fun c hc => beq_iff_eq.mpr (List.eq_of_mem_replicate hc)]
  cases digits : Nat.toDigits 10 n with
  | nil => rfl
  | cons c rest =>
    have other : c ≠ ' ' := by
      rintro rfl
      exact not_mem_toDigits (by decide) n (digits ▸ List.mem_cons_self)
    rw [List.dropWhile_cons_of_neg (by simpa using other)]

/-! ## Rows -/

/-- What a listing shows of a line: its number, its text and its mark. -/
def MarkedLine.shown (line : MarkedLine) : Nat × String × Option Mark :=
  (line.number, line.text, line.mark)

/-- `row` shows a line: its mark, a space, its number set to the right in a column of a width, a bar
and its text. -/
def IsRow (width : Nat) (line : MarkedLine) (row : List Char) : Prop :=
  ∃ blanks, blanks + (Nat.toDigits 10 line.number).length = width ∧
    row = line.gutter :: ' ' :: (List.replicate blanks ' ' ++ Nat.toDigits 10 line.number ++
      (" | ".toList ++ line.text.toList))

/-- One of three characters stands beside a line. -/
theorem MarkedLine.gutter_mem (line : MarkedLine) : line.gutter ∈ ['?', '!', ' '] := by
  unfold gutter
  rcases line.mark with _ | _ | _ <;> decide

/-- The characters beside lines of different marks are different. -/
theorem MarkedLine.mark_eq_of_gutter_eq {line other : MarkedLine} (h : line.gutter = other.gutter) :
    line.mark = other.mark := by
  have told : ∀ mark : Option Mark, mark =
      if (mark.map Mark.gutter).getD ' ' = '?' then some .missing
      else if (mark.map Mark.gutter).getD ' ' = '!' then some .unexpected else none := by
    rintro (_ | _ | _) <;> rfl
  unfold gutter at h
  rw [told line.mark, told other.mark, h]

/-- The column of numbers is as wide as it says. -/
theorem length_column {width blanks n : Nat}
    (h : blanks + (Nat.toDigits 10 n).length = width) :
    (List.replicate blanks ' ' ++ Nat.toDigits 10 n).length = width := by
  rw [List.length_append, List.length_replicate, h]

/-- The bar stands behind the column, and the text behind the bar. -/
theorem IsRow.drop_eq {width : Nat} {line : MarkedLine} {row : List Char} (h : IsRow width line row) :
    row.drop (width + 2) = " | ".toList ++ line.text.toList := by
  obtain ⟨blanks, fits, rfl⟩ := h
  rw [List.drop_succ_cons, List.drop_succ_cons, List.drop_left' (length_column fits)]

/-- A row tells the number, the text and the mark of its line. -/
theorem IsRow.unique {width : Nat} {line other : MarkedLine} {row : List Char}
    (h : IsRow width line row) (h' : IsRow width other row) : line.shown = other.shown := by
  have texts := h.drop_eq.symm.trans h'.drop_eq
  obtain ⟨blanks, fits, rfl⟩ := h
  obtain ⟨blanks', fits', same⟩ := h'
  obtain ⟨gutters, rest⟩ := List.cons.inj same
  obtain ⟨columns, -⟩ := List.append_inj (List.cons.inj rest).2
    ((length_column fits).trans (length_column fits').symm)
  have digits : Nat.toDigits 10 line.number = Nat.toDigits 10 other.number := by
    rw [← dropWhile_spaces blanks, columns, dropWhile_spaces]
  have numbers : line.number = other.number := by
    rw [← Nat.ofDigitChars_ten_toDigits (n := line.number), digits, Nat.ofDigitChars_ten_toDigits]
  rw [MarkedLine.shown, MarkedLine.shown, numbers,
    String.toList_injective (List.append_cancel_left texts), MarkedLine.mark_eq_of_gutter_eq gutters]

/-- Without colour a text stays as it is. -/
@[simp] theorem paint_false (mark : Option Mark) (text : String) : paint false mark text = text := by
  cases mark <;> rfl

/-- The row of a line whose number fits into the column is a row. -/
theorem isRow_row {width : Nat} {line : MarkedLine}
    (fits : (Nat.toDigits 10 line.number).length ≤ width) :
    IsRow width line (line.row false width).toList := by
  refine ⟨width - (Nat.toDigits 10 line.number).length, Nat.sub_add_cancel fits, ?_⟩
  rw [MarkedLine.row, paint_false]
  simp only [String.toList_append, String.toList_singleton, toList_padLeft, List.append_assoc]
  rfl

/-- The row of a line is one line. -/
theorem IsRow.newline_not_mem {width : Nat} {line : MarkedLine} {row : List Char}
    (h : IsRow width line row) (one : '\n' ∉ line.text.toList) : '\n' ∉ row := by
  obtain ⟨blanks, -, rfl⟩ := h
  have gutter : '\n' ≠ line.gutter := fun same => absurd (same ▸ line.gutter_mem) (by decide)
  have digits : '\n' ∉ Nat.toDigits 10 line.number := not_mem_toDigits (by decide) _
  simp [gutter, digits, one]

/-! ## The listing of a candidate -/

/-- A line that is seen is one line. -/
theorem newline_not_mem_visibleLines {text line : List Char} (h : line ∈ visibleLines text) :
    '\n' ∉ line := by
  have whole : ∀ {piece : List Char}, piece ∈ pieces text → '\n' ∉ dropReturn piece := by
    intro piece member feed
    refine newline_not_mem_pieces member ?_
    unfold dropReturn at feed
    split at feed
    · exact List.mem_of_mem_dropLast feed
    · exact feed
  have ended : ∀ {piece : List Char}, piece ∈ (pieces text).dropLast.map dropReturn →
      '\n' ∉ piece := by
    intro piece member
    obtain ⟨own, inside, rfl⟩ := List.mem_map.mp member
    exact whole (List.mem_of_mem_dropLast inside)
  unfold visibleLines at h
  dsimp only at h
  split at h
  · next c cs last =>
    rcases List.mem_append.mp h with inside | same
    · exact ended inside
    · rw [List.mem_singleton.mp same]
      exact newline_not_mem_pieces (List.mem_of_getLast? last)
  · exact ended h

namespace Report

section listing

variable (r : Report) (candidate : String)

/-- Marked lines are numbered from one. -/
theorem map_number_markLines :
    (r.markLines candidate).map (·.number) =
      List.range' 1 (visibleLines candidate.toList).length := by
  have kept := congrArg List.length (map_fst_scopesFrom none (visibleLines candidate.toList))
  rw [List.length_map] at kept
  rw [markLines, List.map_map, ← kept]
  exact List.zipIdx_map_snd 1 _

/-- Marked lines have the texts of the lines. -/
theorem map_text_markLines :
    (r.markLines candidate).map (·.text.toList) = visibleLines candidate.toList := by
  have texts : (r.markLines candidate).map (·.text.toList) =
      (((scopesFrom none (visibleLines candidate.toList)).zipIdx 1).map Prod.fst).map Prod.fst := by
    rw [markLines, List.map_map, List.map_map]
    exact List.map_congr_left fun _ _ => String.toList_ofList
  rw [texts, List.zipIdx_map_fst, map_fst_scopesFrom]

/-- The last marked line is numbered with the number of lines. -/
theorem number_of_getLast?_markLines {last : MarkedLine}
    (h : (r.markLines candidate).getLast? = some last) :
    last.number = (visibleLines candidate.toList).length := by
  have numbers := congrArg List.getLast? (map_number_markLines r candidate)
  rw [List.getLast?_map, h, Option.map_some, List.getLast?_range'] at numbers
  split at numbers
  · cases numbers
  · rw [Option.some.inj numbers, Nat.add_sub_cancel_left]

/-- The column of numbers is as wide as the number of lines is long. -/
theorem numberWidth_markLines {line : MarkedLine} (h : line ∈ r.markLines candidate) :
    numberWidth (r.markLines candidate) =
      (Nat.toDigits 10 (visibleLines candidate.toList).length).length := by
  unfold numberWidth
  cases last : (r.markLines candidate).getLast? with
  | none =>
    rw [List.getLast?_eq_none_iff.mp last] at h
    cases h
  | some final =>
    show (toString final.number).length = _
    rw [← String.length_toList, toList_toString, number_of_getLast?_markLines r candidate last]

/-- The number of a marked line fits into the column of numbers. -/
theorem length_number_le {line : MarkedLine} (h : line ∈ r.markLines candidate) :
    (Nat.toDigits 10 line.number).length ≤ numberWidth (r.markLines candidate) := by
  have number : line.number ∈ List.range' 1 (visibleLines candidate.toList).length :=
    map_number_markLines r candidate ▸ List.mem_map_of_mem h
  rw [List.mem_range'_1, Nat.add_comm, Nat.lt_succ_iff] at number
  rw [numberWidth_markLines r candidate h]
  exact length_toDigits_mono number.2

/-- The column of numbers has the width of the last number. -/
theorem numberWidth_eq_of_getLast? {last : MarkedLine}
    (h : (r.markLines candidate).getLast? = some last) :
    numberWidth (r.markLines candidate) = (Nat.digits 10 last.number).length := by
  have member := List.mem_of_getLast? h
  have number := number_of_getLast?_markLines r candidate h
  have positive : 0 < last.number := by
    rw [number, ← map_text_markLines r candidate, List.length_map]
    exact List.length_pos_of_mem member
  rw [numberWidth_markLines r candidate member, ← number, length_toDigits_eq positive]

/-- The rows of the marked lines of a candidate. -/
def listingRows : List (List Char) :=
  (r.markLines candidate).map fun line =>
    (line.row false (numberWidth (r.markLines candidate))).toList

/-- The rows are those of the marked lines, in their order. -/
theorem forall₂_isRow :
    List.Forall₂ (IsRow (numberWidth (r.markLines candidate))) (r.markLines candidate)
      (r.listingRows candidate) := by
  rw [listingRows, List.forall₂_map_right_iff, List.forall₂_same]
  intro line member
  exact isRow_row (length_number_le r candidate member)

/-- The rows are the lines of the listing. -/
theorem pieces_renderListing :
    pieces (renderListing false (r.markLines candidate)).toList =
      r.listingRows candidate ++ [[]] := by
  rw [renderListing, pieces_endedLines, List.map_map]
  · rfl
  · intro row member
    obtain ⟨line, hl, rfl⟩ := List.mem_map.mp member
    have text : line.text.toList ∈ visibleLines candidate.toList :=
      map_text_markLines r candidate ▸ List.mem_map_of_mem hl
    exact (isRow_row (length_number_le r candidate hl)).newline_not_mem
      (newline_not_mem_visibleLines text)

end listing

end Report

/-- The rows of a listing of a candidate: one for each line, in order, with their bars in one
column. -/
structure IsListing (candidate : List (List Char)) (marked : List MarkedLine) (width : Nat)
    (rows : List (List Char)) : Prop where
  /-- The lines are numbered from one. -/
  numbers : marked.map (·.number) = List.range' 1 candidate.length
  /-- Their texts are those of the candidate. -/
  texts : marked.map (·.text.toList) = candidate
  /-- The width is the number of digits of the last number. -/
  width_eq : ∀ last ∈ marked.getLast?, width = (Nat.digits 10 last.number).length
  /-- Each row shows the line in its place. -/
  shows : List.Forall₂ (IsRow width) marked rows
  /-- All bars stand in one column. -/
  aligned : ∀ row ∈ rows, " | ".toList <+: row.drop (width + 2)

/-- The rows of a candidate are a listing of it. -/
theorem Report.isListing (r : Report) (candidate : String) :
    IsListing (visibleLines candidate.toList) (r.markLines candidate)
      (numberWidth (r.markLines candidate)) (r.listingRows candidate) where
  numbers := r.map_number_markLines candidate
  texts := r.map_text_markLines candidate
  width_eq := fun _ last => r.numberWidth_eq_of_getLast? candidate last
  shows := r.forall₂_isRow candidate
  aligned := by
    intro row member
    obtain ⟨line, hl, rfl⟩ := List.mem_map.mp member
    rw [(isRow_row (r.length_number_le candidate hl)).drop_eq]
    exact List.prefix_append _ _

/-- Rows of one width tell what they show of their lines. -/
theorem map_shown_eq {width : Nat} {marked marked' : List MarkedLine} {rows : List (List Char)}
    (h : List.Forall₂ (IsRow width) marked rows) (h' : List.Forall₂ (IsRow width) marked' rows) :
    marked.map MarkedLine.shown = marked'.map MarkedLine.shown := by
  -- A row does not tell the position of the difference, so what it tells is one value only up to
  -- `shown`, and uniqueness is asked of that.
  let Shows (shown : Nat × String × Option Mark) (row : List Char) : Prop :=
    ∃ line : MarkedLine, line.shown = shown ∧ IsRow width line row
  have one : Relator.LeftUnique Shows := by
    rintro _ row _ ⟨line, rfl, row_line⟩ ⟨other, rfl, row_other⟩
    exact row_line.unique row_other
  have shows : ∀ {l : List MarkedLine}, List.Forall₂ (IsRow width) l rows →
      List.Forall₂ Shows (l.map MarkedLine.shown) rows := by
    intro l rows_l
    rw [List.forall₂_map_left_iff]
    exact rows_l.imp fun line row isRow => ⟨line, rfl, isRow⟩
  exact List.left_unique_forall₂' one (shows h) (shows h')

namespace IsListing

variable {candidate candidate' rows : List (List Char)} {marked marked' : List MarkedLine}
  {width width' : Nat}

/-- There are as many lines as rows. -/
theorem length_eq (h : IsListing candidate marked width rows) : candidate.length = rows.length := by
  rw [← h.shows.length_eq, ← h.texts, List.length_map]

/-- Listings with the same rows show the same of their lines: the rows say how many lines there are
and so how wide the column is. -/
theorem shown_eq (h : IsListing candidate marked width rows)
    (h' : IsListing candidate' marked' width' rows) :
    marked.map MarkedLine.shown = marked'.map MarkedLine.shown := by
  have numbers : marked.map (·.number) = marked'.map (·.number) := by
    rw [h.numbers, h'.numbers, h.length_eq, h'.length_eq]
  have lasts : marked.getLast?.map (·.number) = marked'.getLast?.map (·.number) := by
    rw [← List.getLast?_map, ← List.getLast?_map, numbers]
  cases last : marked.getLast? with
  | none =>
    rw [last] at lasts
    rw [List.getLast?_eq_none_iff.mp last,
      List.getLast?_eq_none_iff.mp (Option.map_eq_none_iff.mp lasts.symm)]
  | some final =>
    rw [last] at lasts
    obtain ⟨final', last', same⟩ := Option.map_eq_some_iff.mp lasts.symm
    have number : final'.number = final.number := same
    have widths : width = width' := by
      rw [h.width_eq final last, h'.width_eq final' last', number]
    exact map_shown_eq h.shows (widths ▸ h'.shows)

end IsListing

/-- The listing of a candidate without colour is one row for each line, in order, and what it shows
of the lines can be read off it: two candidates with the same listing have lines of the same
numbers, texts and marks. -/
theorem markLines_renderListing :
    (∀ (r : Report) (candidate : String), ∃ width rows,
      pieces (renderListing false (r.markLines candidate)).toList = rows ++ [[]] ∧
        IsListing (visibleLines candidate.toList) (r.markLines candidate) width rows) ∧
      ∀ (r r' : Report) (candidate candidate' : String),
        renderListing false (r.markLines candidate) =
            renderListing false (r'.markLines candidate') →
          (r.markLines candidate).map MarkedLine.shown =
            (r'.markLines candidate').map MarkedLine.shown := by
  constructor
  · intro r candidate
    exact ⟨_, _, r.pieces_renderListing candidate, r.isListing candidate⟩
  · intro r r' candidate candidate' same
    have rows : r.listingRows candidate = r'.listingRows candidate' := by
      have ended := r.pieces_renderListing candidate
      rw [same, r'.pieces_renderListing candidate'] at ended
      exact (List.append_cancel_right ended).symm
    have listing := r.isListing candidate
    rw [rows] at listing
    exact listing.shown_eq (r'.isListing candidate')

/-- Two reports mark the one line in the same way, though not for the same difference. -/
theorem markLines_renderListing_dog :
    let r : Report := .ofDifferences [(Finding.classesAdded ["Dog"]).difference]
    let r' : Report := .ofDifferences
      [(Finding.classesAdded ["Cat"]).difference, (Finding.classesAdded ["Dog"]).difference]
    renderListing false (r.markLines "class Dog") =
        renderListing false (r'.markLines "class Dog") ∧
      r.markLines "class Dog" ≠ r'.markLines "class Dog" ∧
        (r.markLines "class Dog").map MarkedLine.shown =
          (r'.markLines "class Dog").map MarkedLine.shown := by
  intro r r'
  have same : renderListing false (r.markLines "class Dog") =
      renderListing false (r'.markLines "class Dog") := by decide +kernel
  exact ⟨same, by decide +kernel, markLines_renderListing.2 r r' _ _ same⟩

end DiagramDiff
