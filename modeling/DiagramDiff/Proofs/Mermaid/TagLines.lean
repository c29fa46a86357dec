import DiagramDiff.Mermaid.Declaration
import DiagramDiff.Proofs.Mermaid.Comments
import DiagramDiff.Proofs.Mermaid.LinkLayout

/-!
# Annotation lines

`<<interface>> Name` on a line of its own annotates a class. `IsTag` is the exact form of such a
line, and the reader accepts it between blanks and nothing else (`readTagLine?_eq_some_iff`). All
that has to be known of annotation lines elsewhere follows from the form: they consist of words,
blanks and angle brackets (`readTagLine?_eq_none`), so a line with any other character in it is none,
be it a colon or the carriage return of a line break.
-/

namespace DiagramDiff.Mermaid

open Text

/-- A stereotype and a class name, apart and with blanks where they may stand. -/
inductive IsTag (tag name : List Char) : List Char → Prop where
  /-- Between the name of the class and the stereotype there is a blank. -/
  | intro {first second gap : List Char} (tagName : IsName tag) (className : IsName name)
      (hf : ∀ c ∈ first, isBlank c = true) (hs : ∀ c ∈ second, isBlank c = true)
      (hg : ∀ c ∈ gap, isBlank c = true) (apart : gap ≠ []) :
      IsTag tag name
        ('<' :: '<' :: (first ++ (tag ++ (second ++ '>' :: '>' :: (gap ++ name)))))

/-- What is read of an annotation line, step by step. -/
theorem readTagLine?_eq_some {line : List Char} {tag name : String}
    (h : readTagLine? line = some (tag, name)) :
    ∃ rest after behind left, dropBlanks line = '<' :: '<' :: rest ∧
      readWord? (dropBlanks rest) = some (tag.toList, after) ∧
        dropBlanks after = '>' :: '>' :: behind ∧ behind.head?.any isBlank = true ∧
          readWord? (dropBlanks behind) = some (name.toList, left) ∧ dropBlanks left = [] := by
  unfold readTagLine? at h
  split at h
  · next rest start =>
    cases word : readWord? (dropBlanks rest) with
    | none => simp [word] at h
    | some result =>
      obtain ⟨stereotype, after⟩ := result
      simp only [word] at h
      split at h
      · next behind close =>
        split at h
        · next apart =>
          split at h
          · next title left word' =>
            split at h
            · next ending =>
              cases h
              rw [String.toList_ofList, String.toList_ofList]
              exact ⟨rest, after, behind, left, start, word, close, apart, word',
                List.isEmpty_iff.mp ending⟩
            · cases h
          · cases h
        · cases h
      · cases h
  · cases h

/-- Once its blanks are trimmed, an annotation line that was read has the form of one. -/
theorem isTag_of_readTagLine? {line : List Char} {tag name : String}
    (h : readTagLine? line = some (tag, name)) :
    IsTag tag.toList name.toList (trimBlanks line) := by
  obtain ⟨rest, after, behind, left, start, word, close, blank, word', ending⟩ :=
    readTagLine?_eq_some h
  obtain ⟨lead, hl, line_eq⟩ := exists_dropBlanks line
  obtain ⟨first, hf, rest_eq⟩ := exists_dropBlanks rest
  obtain ⟨second, hs, after_eq⟩ := exists_dropBlanks after
  obtain ⟨gap, hg, behind_eq⟩ := exists_dropBlanks behind
  obtain ⟨trail, ht, left_eq⟩ := exists_dropBlanks left
  rw [ending, List.append_nil] at left_eq
  have tagName : IsName tag.toList := isName_of_readWord? word
  have className : IsName name.toList := isName_of_readWord? word'
  have apart : gap ≠ [] := by
    rintro rfl
    rw [behind_eq, readWord?_parts word', List.nil_append,
      className.any_head?_append fun _ => isBlank_of_isWord] at blank
    cases blank
  have form : IsTag tag.toList name.toList _ := .intro tagName className hf hs hg apart
  have shape : line = lead ++ ('<' :: '<' :: (first ++ (tag.toList ++
      (second ++ '>' :: '>' :: (gap ++ name.toList)))) ++ left) := by
    rw [line_eq, start, rest_eq, readWord?_parts word, after_eq, close, behind_eq,
      readWord?_parts word']
    simp only [List.append_assoc, List.cons_append]
  have last : ('<' :: '<' :: (first ++ (tag.toList ++
      (second ++ '>' :: '>' :: (gap ++ name.toList))))).getLast?.any isBlank = false := by
    have ends := className.any_getLast?_append (fun _ => isBlank_of_isWord)
      ('<' :: '<' :: (first ++ (tag.toList ++ (second ++ '>' :: '>' :: gap))))
    simpa only [List.cons_append, List.append_assoc] using ends
  rw [trimBlanks_eq_trimOf, shape, trimOf_append hl (left_eq ▸ ht) rfl last]
  exact form

/-- A line that is an annotation line up to blanks at its ends is read as one. -/
theorem readTagLine?_of_isTag {line tag name : List Char} (h : IsTag tag name (trimBlanks line)) :
    readTagLine? line = some (String.ofList tag, String.ofList name) := by
  obtain ⟨left, right, hl, hr, parts⟩ := exists_trimOf isBlank line
  rw [← trimBlanks_eq_trimOf] at parts
  generalize trimBlanks line = form at h parts
  obtain @⟨first, second, gap, tagName, className, hf, hs, hg, apart⟩ := h
  have blankWord : ∀ {c : Char}, isBlank c = true → isWord c = false :=
    fun blank => isWord_of_isWhiteSpace (isWhiteSpace_of_isBlank blank)
  have start : dropBlanks line = '<' :: '<' ::
      (first ++ (tag ++ (second ++ '>' :: '>' :: (gap ++ (name ++ right))))) := by
    rw [parts]
    simp only [List.cons_append, List.append_assoc]
    exact dropBlanks_append hl rfl
  have word : readWord? (dropBlanks
      (first ++ (tag ++ (second ++ '>' :: '>' :: (gap ++ (name ++ right)))))) =
        some (tag, second ++ '>' :: '>' :: (gap ++ (name ++ right))) := by
    rw [dropBlanks_append hf (tagName.any_head?_append (fun _ => isBlank_of_isWord) _)]
    exact readWord?_append tagName (any_head?_append (fun c hc => blankWord (hs c hc)) rfl)
  have close : dropBlanks (second ++ '>' :: '>' :: (gap ++ (name ++ right))) =
      '>' :: '>' :: (gap ++ (name ++ right)) := dropBlanks_append hs rfl
  have blank : (gap ++ (name ++ right)).head?.any isBlank = true := by
    obtain ⟨c, more, rfl⟩ := List.exists_cons_of_ne_nil apart
    exact hg c List.mem_cons_self
  have word' : readWord? (dropBlanks (gap ++ (name ++ right))) = some (name, right) := by
    rw [dropBlanks_append hg (className.any_head?_append (fun _ => isBlank_of_isWord) _)]
    have white : IsWhite right := fun c hc => isWhiteSpace_of_isBlank (hr c hc)
    exact readWord?_append className (white.whiteLed.any_head? fun _ => isWord_of_isWhiteSpace)
  have ending : (dropBlanks right).isEmpty = true := by rw [dropBlanks, dropWhile_eq_nil hr]; rfl
  simp only [readTagLine?, start, word, close, blank, word', ending, if_true]

/-- The annotation lines are those that have the form of one between blanks. -/
theorem readTagLine?_eq_some_iff {line : List Char} {tag name : String} :
    readTagLine? line = some (tag, name) ↔ IsTag tag.toList name.toList (trimBlanks line) := by
  constructor
  · exact isTag_of_readTagLine?
  · intro form
    rw [readTagLine?_of_isTag form, String.ofList_toList, String.ofList_toList]

/-- Blanks at the ends of a line do not matter for its annotation. -/
theorem readTagLine?_congr {line other : List Char} (h : trimBlanks line = trimBlanks other) :
    readTagLine? line = readTagLine? other := by
  ext ⟨tag, name⟩
  rw [readTagLine?_eq_some_iff, readTagLine?_eq_some_iff, h]

/-- A line that holds anything but words, blanks and angle brackets is no annotation line. -/
theorem readTagLine?_eq_none {line : List Char} {c : Char} (h : c ∈ line)
    (hc : isWord c = false) (other : c ∉ [' ', '\t', '<', '>']) : readTagLine? line = none := by
  cases read : readTagLine? line with
  | none => rfl
  | some result =>
    obtain ⟨tag, name⟩ := result
    obtain ⟨left, right, hl, hr, parts⟩ := exists_trimOf isBlank line
    have form := isTag_of_readTagLine? read
    rw [trimBlanks_eq_trimOf] at form
    have blanks : ∀ {run : List Char}, (∀ d ∈ run, isBlank d = true) →
        HoldsOnly [' ', '\t', '<', '>'] run := by
      intro run all d hd
      have blank := all d hd
      simp only [isBlank, Bool.or_eq_true, beq_iff_eq] at blank
      rcases blank with rfl | rfl <;> simp
    have inner : HoldsOnly [' ', '\t', '<', '>'] (trimOf isBlank line) := by
      generalize trimOf isBlank line = text at form
      obtain @⟨first, second, gap, tagName, className, hf, hs, hg, -⟩ := form
      have opening : HoldsOnly [' ', '\t', '<', '>'] ['<', '<'] := .of_subset (by decide)
      have closing : HoldsOnly [' ', '\t', '<', '>'] ['>', '>'] := .of_subset (by decide)
      exact opening.append ((blanks hf).append ((tagName.holdsOnly _).append
        ((blanks hs).append (closing.append ((blanks hg).append (className.holdsOnly _))))))
    have all : HoldsOnly [' ', '\t', '<', '>'] line :=
      parts ▸ (blanks hl).append (inner.append (blanks hr))
    exact absurd h (all.not_mem hc other)

/-! ## The annotation lines of a text -/

/-- The annotations of a line come before those of the lines after it. -/
theorem tagLines_line (text rest : List Char) :
    tagLines (text ++ '\n' :: rest) = tagLines text ++ tagLines rest := by
  rw [tagLines, pieces_line, List.filterMap_append]
  rfl

/-- A line that is no annotation gives none. -/
theorem tagLines_of_none {line : List Char} (hl : '\n' ∉ line) (ht : readTagLine? line = none) :
    tagLines line = [] := by
  rw [tagLines, pieces_of_not_mem hl]
  simp [ht]

/-- A text without angle brackets has no annotation lines. -/
theorem tagLines_of_not_mem {text : List Char} (h : '<' ∉ text) : tagLines text = [] := by
  have one : ∀ line : List Char, '<' ∉ line → readTagLine? line = none := by
    intro line hl
    cases read : readTagLine? line with
    | none => rfl
    | some result =>
      obtain ⟨tag, name⟩ := result
      have form := isTag_of_readTagLine? read
      have bracket : '<' ∈ trimBlanks line := by
        generalize trimBlanks line = inner at form
        cases form
        exact List.mem_cons_self
      exact absurd ((trimOf_within isBlank line).subset bracket) hl
  induction text using lines_induction with
  | last line hl => exact tagLines_of_none hl (one line h)
  | line line rest hl ih =>
    have front : '<' ∉ line := fun m => h (List.mem_append_left _ m)
    have back : '<' ∉ rest := fun m => h (List.mem_append_right _ (List.mem_cons_of_mem _ m))
    rw [tagLines_line, tagLines_of_none hl (one line front), ih back, List.nil_append]

/-- No label is blanked on an annotation line, and no line becomes one. -/
theorem tagLines_blankLabels (text : List Char) : tagLines (blankLabels text) = tagLines text := by
  have one : ∀ line : List Char, '\n' ∉ line → tagLines (blankLabels line) = tagLines line := by
    intro line hl
    rcases blankLabels_eq_or_colon line with same | ⟨colon, colon'⟩
    · rw [same]
    · have feed : '\n' ∉ blankLabels line := fun feed =>
        (mem_of_mem_blankLabels feed).elim (by decide) hl
      rw [tagLines_of_none feed (readTagLine?_eq_none colon (by decide) (by decide)),
        tagLines_of_none hl (readTagLine?_eq_none colon' (by decide) (by decide))]
  induction text using lines_induction with
  | last line hl => exact one line hl
  | line line rest hl ih => rw [blankLabels_line, tagLines_line, tagLines_line, ih, one line hl]

/-- No comment is an annotation line. -/
theorem readTagLine?_emptyComment (line : List Char) :
    readTagLine? (emptyComment line) = readTagLine? line := by
  unfold emptyComment
  split
  · next comment =>
    rw [readTagLine?_eq_none (percent_mem_of_isComment comment) (by decide) (by decide)]
    rfl
  · rfl

/-- No comment is an annotation line. -/
theorem tagLines_stripComments (text : List Char) :
    tagLines (stripComments text) = tagLines text := by
  rw [tagLines, pieces_stripComments, List.filterMap_map]
  exact List.filterMap_congr fun line _ => readTagLine?_emptyComment line

end DiagramDiff.Mermaid
