import DiagramDiff.Mermaid.Comment
import DiagramDiff.Proofs.Text.Layout
import DiagramDiff.Proofs.Text.Lines

/-!
# Comment lines

Emptying the comments goes line by line (`stripComments_line`, `pieces_stripComments`), and doing it
again changes nothing (`stripComments_stripComments`). Whether a line is a comment depends only on
what is left of it when it is trimmed (`isComment_trim`).
-/

namespace DiagramDiff.Mermaid

open Text

/-! ## Comments are emptied line by line -/

/-- Nothing stands on an emptied line that did not stand there before. -/
theorem emptyComment_subset (line : List Char) : emptyComment line ⊆ line := by
  unfold emptyComment
  split
  · exact List.nil_subset line
  · exact List.Subset.refl line

/-- The lines of a text without comments are its lines, emptied where they are comments. -/
theorem pieces_stripComments (text : List Char) :
    pieces (stripComments text) = (pieces text).map emptyComment := by
  refine pieces_joinLines (fun line hl => ?_)
    fun none => List.splitOn_ne_nil '\n' text (List.map_eq_nil_iff.mp none)
  obtain ⟨piece, hp, rfl⟩ := List.mem_map.mp hl
  exact fun feed => newline_not_mem_pieces hp (emptyComment_subset piece feed)

/-- Comments are emptied line by line. -/
theorem stripComments_line (text rest : List Char) :
    stripComments (text ++ '\n' :: rest) = stripComments text ++ '\n' :: stripComments rest := by
  have filled : ∀ t, (pieces t).map emptyComment ≠ [] := by
    intro t empty
    exact List.splitOn_ne_nil '\n' t (List.map_eq_nil_iff.mp empty)
  rw [stripComments, pieces_line, List.map_append, joinLines_append (filled text) (filled rest)]
  rfl

/-- A line that is no comment is kept. -/
theorem stripComments_of_not_comment {line : List Char} (hl : '\n' ∉ line)
    (hc : isComment line = false) : stripComments line = line := by
  rw [stripComments, pieces_of_not_mem hl]
  simp [emptyComment, hc, joinLines]

/-! ## Emptying one line -/

/-- Emptying the comments of one line empties it or leaves it. -/
theorem stripComments_eq_emptyComment {line : List Char} (hl : '\n' ∉ line) :
    stripComments line = emptyComment line := by
  rw [stripComments, pieces_of_not_mem hl, List.map_singleton, joinLines,
    List.intercalate_singleton]

/-- A line whose text is left when comments are emptied is no comment. -/
theorem emptyComment_eq {line text : List Char} (h : emptyComment line = text) (ht : text ≠ []) :
    isComment line = false ∧ line = text := by
  unfold emptyComment at h
  split at h
  · exact absurd h.symm ht
  · next spoken => exact ⟨by simpa using spoken, h⟩

/-- Emptying comments once is enough. -/
theorem stripComments_stripComments (text : List Char) :
    stripComments (stripComments text) = stripComments text := by
  have twice : ∀ line, emptyComment (emptyComment line) = emptyComment line := by
    intro line
    by_cases comment : isComment line = true
    · simp only [emptyComment, comment, if_true]
      rfl
    · simp only [emptyComment, if_neg comment]
  rw [stripComments, pieces_stripComments, List.map_map, stripComments]
  exact congrArg joinLines (List.map_congr_left fun line _ => twice line)

/-! ## Which lines are comments -/

/-- A line that does not begin with a percent sign is no comment. -/
theorem isComment_of_head {space rest : List Char} {c : Char}
    (hs : ∀ d ∈ space, isWhiteSpace d = true) (hc : isWhiteSpace c = false) (percent : c ≠ '%') :
    isComment (space ++ c :: rest) = false := by
  have start : trimStart (space ++ c :: rest) = c :: rest :=
    dropWhile_append_of_head hs (by simpa using hc)
  have other : ('%' == c) = false := beq_eq_false_iff_ne.mpr (Ne.symm percent)
  rw [isComment, start]
  simp [List.isPrefixOf, other]

/-- There is a percent sign in every comment. -/
theorem percent_mem_of_isComment {line : List Char} (h : isComment line = true) : '%' ∈ line := by
  obtain ⟨rest, parts⟩ := List.isPrefixOf_iff_prefix.mp h
  have behind : trimStart line <:+ line := List.dropWhile_suffix isWhiteSpace
  exact behind.subset (parts ▸ List.mem_cons_self)

/-- A line without percent signs is no comment. -/
theorem isComment_of_not_mem {line : List Char} (h : '%' ∉ line) : isComment line = false := by
  by_contra comment
  exact h (percent_mem_of_isComment (by simpa using comment))

/-- A text without percent signs has no comments. -/
theorem stripComments_of_not_mem {text : List Char} (h : '%' ∉ text) :
    stripComments text = text := by
  induction text using lines_induction with
  | last line hl => exact stripComments_of_not_comment hl (isComment_of_not_mem h)
  | line line rest hl ih =>
    have front : '%' ∉ line := fun m => h (List.mem_append_left _ m)
    have back : '%' ∉ rest := fun m => h (List.mem_append_right _ (List.mem_cons_of_mem _ m))
    rw [stripComments_line, stripComments_of_not_comment hl (isComment_of_not_mem front), ih back]

/-- White space at the ends of a line does not matter for whether it is a comment. -/
theorem isComment_trim (line : List Char) : isComment (trim line) = isComment line := by
  obtain ⟨left, right, hl, hr, parts⟩ := exists_trimOf isWhiteSpace line
  rw [← trim_eq_trimOf] at parts
  have dark : (trim line).head?.any isWhiteSpace = false := any_head?_trimOf isWhiteSpace line
  have inner : trimStart (trim line) = trim line := dropWhile_eq_self dark
  have outer : Relaid (trimStart (trim line)) (trimStart line) := by
    have same : Relaid (trim line ++ []) (trim line ++ right) :=
      (Relaid.ending IsWhite.nil hr).append_left _
    rw [List.append_nil] at same
    have start : trimStart line = trimStart (trim line ++ right) := by
      conv_lhs => rw [parts]
      exact List.dropWhile_append_of_pos hl
    rw [start]
    exact same.dropWhile_pass fun _ white => white
  unfold isComment
  rw [← List.isSome_isPrefixOf?_eq_isPrefixOf, ← List.isSome_isPrefixOf?_eq_isPrefixOf]
  have dark : ∀ c ∈ ['%', '%'], isWhiteSpace c = false := forall_mem_of_all (by decide)
  rcases outer.isPrefixOf? dark with ⟨none, none'⟩ | ⟨_, _, s, s', -⟩
  · rw [none, none']
  · rw [s, s']
    rfl

/-- Whether a line is a comment depends on what is left of it when it is trimmed. -/
theorem isComment_congr {line other : List Char} (h : trim line = trim other) :
    isComment line = isComment other := by
  rw [← isComment_trim line, h, isComment_trim]

end DiagramDiff.Mermaid
