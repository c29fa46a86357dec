import DiagramDiff.Mermaid.Link
import DiagramDiff.Proofs.Text.Scanning

/-!
# Links keep to their lines

The reader of a link skips blanks, quotes and labels, and each of these stops at a line feed at the
latest. So what `readLink?` answers is settled by the line it starts on (`keepsToLine_readLink?`),
and the scan of a whole text for links is the scan of its lines one after another
(`linkTexts_line`, `blankLabels_line`). Neither statement assumes anything of the text: unclosed
quotes and dangling markers stay on their line too.
-/

namespace DiagramDiff.Mermaid

open Text

/-! ## The parts of a link -/

/-- Dropping blanks does not reach beyond a line feed. -/
theorem dropBlanks_line (text rest : List Char) :
    dropBlanks (text ++ '\n' :: rest) = dropBlanks text ++ '\n' :: rest :=
  dropWhile_append_stop isBlank_newline text rest

/-- A word does not reach beyond a line feed. -/
theorem keepsToLine_readWord? : KeepsToLine readWord? := by
  intro text rest
  have run : wordRun (text ++ '\n' :: rest) = wordRun text :=
    takeWhile_append_stop isWord_newline text rest
  have after : afterWord (text ++ '\n' :: rest) = afterWord text ++ '\n' :: rest :=
    dropWhile_append_stop isWord_newline text rest
  simp only [readWord?, run, after]
  cases wordRun text with
  | nil => rfl
  | cons c word => rfl

/-- A quoted cardinality does not reach beyond a line feed. -/
theorem skipCardinality_line (text rest : List Char) :
    skipCardinality (text ++ '\n' :: rest) = skipCardinality text ++ '\n' :: rest := by
  cases text with
  | nil => rfl
  | cons c text =>
    by_cases quote : c = '"'
    · subst quote
      have inner : (text ++ '\n' :: rest).dropWhile isQuotable =
          text.dropWhile isQuotable ++ '\n' :: rest :=
        dropWhile_append_stop (by decide) text rest
      simp only [List.cons_append, skipCardinality, inner]
      cases text.dropWhile isQuotable with
      | nil => rfl
      | cons d after =>
        by_cases closing : d = '"'
        · subst closing
          exact dropBlanks_line after rest
        · simp [closing]
    · simp [skipCardinality, quote]

/-- Without a quote at its start a text starts with no cardinality. -/
theorem skipCardinality_of_head {text : List Char} (h : text.head?.any (· == '"') = false) :
    skipCardinality text = text := by
  unfold skipCardinality
  split
  · simp at h
  · rfl

/-- A marker is found or missed on the line where it would stand. -/
theorem isPrefixOf?_line {marker : List Char} (hm : '\n' ∉ marker) (text rest : List Char) :
    marker.isPrefixOf? (text ++ '\n' :: rest) =
      (marker.isPrefixOf? text).map (· ++ '\n' :: rest) := by
  induction marker generalizing text with
  | nil => rfl
  | cons m marker ih =>
    rw [List.mem_cons, not_or] at hm
    cases text with
    | nil =>
      have other : (m == '\n') = false := by simpa using fun e => hm.1 e.symm
      simp [List.isPrefixOf?, other]
    | cons c text =>
      simp only [List.cons_append, List.isPrefixOf?]
      by_cases same : (m == c) = true
      · rw [if_pos same, if_pos same, ih hm.2]
      · rw [if_neg same, if_neg same]
        rfl

/-- The target and the label of a link stay on their line. -/
theorem readTarget?_line (text rest : List Char) :
    readTarget? (text ++ '\n' :: rest) =
      (readTarget? text).map fun (target, label, left) =>
        (target, label, left ++ '\n' :: rest) := by
  simp only [readTarget?, dropBlanks_line, skipCardinality_line, keepsToLine_readWord? _ rest]
  cases readWord? (skipCardinality (dropBlanks text)) with
  | none => rfl
  | some result =>
    obtain ⟨target, after⟩ := result
    simp only [Option.map_some, dropBlanks_line]
    cases dropBlanks after with
    | nil => rfl
    | cons c label =>
      by_cases colon : c = ':'
      · subst colon
        have stop : isInLine '\n' = false := by decide
        have run := takeWhile_append_stop stop (dropBlanks label) rest
        have left := dropWhile_append_stop stop (dropBlanks label) rest
        simp only [List.cons_append, dropBlanks_line, run, left, Option.map_some]
      · simp [colon]

/-- The markers stand on one line. -/
theorem newline_not_mem_marker {marker : String} (h : marker ∈ Link.markers) :
    '\n' ∉ marker.toList := by
  have all : ∀ m ∈ Link.markers, '\n' ∉ m.toList := by decide
  exact all marker h

/-- A link with a given marker stays on its line. -/
theorem readMarked?_line {marker : String} (hm : '\n' ∉ marker.toList)
    (source text rest : List Char) :
    readMarked? source (text ++ '\n' :: rest) marker =
      (readMarked? source text marker).map fun (link, left) => (link, left ++ '\n' :: rest) := by
  simp only [readMarked?, isPrefixOf?_line hm]
  cases marker.toList.isPrefixOf? text with
  | none => rfl
  | some after =>
    simp only [Option.map_some, readTarget?_line]
    cases readTarget? after with
    | none => rfl
    | some result => rfl

/-! ## The reader of links -/

/-- A link does not reach beyond its line. -/
theorem keepsToLine_readLink? : KeepsToLine readLink? := by
  intro text rest
  simp only [readLink?, keepsToLine_readWord? text rest]
  cases readWord? text with
  | none => rfl
  | some result =>
    obtain ⟨source, after⟩ := result
    simp only [Option.map_some, dropBlanks_line, skipCardinality_line, List.map_findSome?]
    generalize skipCardinality (dropBlanks after) = marked
    have each : ∀ m ∈ Link.markers, readMarked? source (marked ++ '\n' :: rest) m =
        (Option.map (fun (link, left) => (link, left ++ '\n' :: rest)) ∘
          readMarked? source marked) m :=
      fun m hm => readMarked?_line (newline_not_mem_marker hm) source marked rest
    revert each
    generalize Link.markers = markers
    intro each
    induction markers with
    | nil => rfl
    | cons m markers ih =>
      rw [List.findSome?_cons, List.findSome?_cons, each m List.mem_cons_self,
        ih fun m' hm' => each m' (List.mem_cons_of_mem m hm')]

/-- The text after a cardinality is the end of the text before it. -/
theorem skipCardinality_suffix (text : List Char) : skipCardinality text <:+ text := by
  unfold skipCardinality
  split
  · next rest =>
    split
    · next after parts =>
      have inner : '"' :: after <:+ rest := parts ▸ List.dropWhile_suffix isQuotable
      have blanks : dropBlanks after <:+ after := List.dropWhile_suffix isBlank
      exact ((blanks.trans (List.suffix_cons _ _)).trans inner).trans (List.suffix_cons _ _)
    · exact List.suffix_refl _
  · exact List.suffix_refl _

/-! ### The parts of a link that was read -/

/-- A target is a word. After a colon the rest of the line is its label. -/
theorem readTarget?_eq_some {text target left : List Char} {label : Option (List Char)}
    (h : readTarget? text = some (target, label, left)) :
    ∃ after, readWord? (skipCardinality (dropBlanks text)) = some (target, after) ∧
      ((label = none ∧ left = after) ∨
        ∃ rest, dropBlanks after = ':' :: rest ∧
          label = some ((dropBlanks rest).takeWhile isInLine) ∧
            left = (dropBlanks rest).dropWhile isInLine) := by
  unfold readTarget? at h
  cases found : readWord? (skipCardinality (dropBlanks text)) with
  | none => simp [found] at h
  | some result =>
    obtain ⟨word, after⟩ := result
    simp only [found] at h
    split at h
    · next rest colon =>
      cases h
      exact ⟨after, rfl, .inr ⟨rest, colon, rfl, rfl⟩⟩
    · cases h
      exact ⟨left, rfl, .inl ⟨rfl, rfl⟩⟩

/-- A link is a word, one of the markers and a target. -/
theorem readLink?_eq_some {text left : List Char} {link : LinkText}
    (h : readLink? text = some (link, left)) :
    ∃ after rest, readWord? text = some (link.source, after) ∧ link.marker ∈ Link.markers ∧
      link.marker.toList ++ rest = skipCardinality (dropBlanks after) ∧
        readTarget? rest = some (link.target, link.label, left) := by
  unfold readLink? at h
  cases found : readWord? text with
  | none => simp [found] at h
  | some result =>
    obtain ⟨source, after⟩ := result
    simp only [found] at h
    obtain ⟨marker, hm, marked⟩ := List.exists_of_findSome?_eq_some h
    unfold readMarked? at marked
    cases start : marker.toList.isPrefixOf? (skipCardinality (dropBlanks after)) with
    | none => simp [start] at marked
    | some rest =>
      simp only [start, Option.map_eq_some_iff] at marked
      obtain ⟨⟨target, label, behind⟩, read, same⟩ := marked
      cases same
      exact ⟨after, rest, rfl, hm, List.append_eq_of_isPrefixOf?_eq_some start, read⟩

/-- What is left after a target and its label is the end of the text. -/
theorem readTarget?_suffix {text target left : List Char} {label : Option (List Char)}
    (h : readTarget? text = some (target, label, left)) : left <:+ text := by
  obtain ⟨after, word, ending⟩ := readTarget?_eq_some h
  have outer : after <:+ text :=
    ((readWord?_suffix word).trans (skipCardinality_suffix _)).trans
      (List.dropWhile_suffix isBlank)
  rcases ending with ⟨-, rfl⟩ | ⟨rest, parts, -, rfl⟩
  · exact outer
  · have colon : ':' :: rest <:+ after := parts ▸ List.dropWhile_suffix isBlank
    have inner : (dropBlanks rest).dropWhile isInLine <:+ rest :=
      (List.dropWhile_suffix isInLine).trans (List.dropWhile_suffix isBlank)
    exact ((inner.trans (List.suffix_cons _ _)).trans colon).trans outer

/-- A link begins with its source, and what is left after it is the end of the text. -/
theorem consumes_readLink? : Consumes readLink? := by
  intro text link left h
  obtain ⟨after, rest, word, -, marker, target⟩ := readLink?_eq_some h
  obtain ⟨used, nonempty, parts⟩ := consumes_readWord? word
  have behind : rest <:+ skipCardinality (dropBlanks after) := ⟨_, marker⟩
  obtain ⟨middle, same⟩ : left <:+ after :=
    (((readTarget?_suffix target).trans behind).trans (skipCardinality_suffix _)).trans
      (List.dropWhile_suffix isBlank)
  refine ⟨used ++ middle, ?_, ?_⟩
  · simp [nonempty]
  · rw [List.append_assoc, same, parts]

/-- A link begins with a word. -/
theorem wordLed_readLink? : WordLed readLink? := by
  intro text h
  simp only [readLink?, readWord?_eq_none h]

/-! ## The reader of links with blank labels -/

/-- A link with a blank label is left as a link is. -/
theorem consumes_readBlanked? : Consumes readBlanked? := by
  intro text blank left h
  obtain ⟨⟨link, rest⟩, found, same⟩ := Option.map_eq_some_iff.mp h
  cases same
  exact consumes_readLink? found

/-- A link with a blank label begins with a word. -/
theorem wordLed_readBlanked? : WordLed readBlanked? := by
  intro text h
  rw [readBlanked?, wordLed_readLink? h]
  rfl

/-- Blanking a label does not reach beyond its line. -/
theorem keepsToLine_readBlanked? : KeepsToLine readBlanked? := by
  intro text rest
  simp only [readBlanked?, keepsToLine_readLink? text rest]
  cases found : readLink? text with
  | none => rfl
  | some result =>
    obtain ⟨link, left⟩ := result
    have count : (text ++ '\n' :: rest).length - (left ++ '\n' :: rest).length =
        text.length - left.length := by
      simp only [List.length_append]
      omega
    simp only [Option.map_some, count, List.take_append_of_le_length (Nat.sub_le _ _)]

/-! ## The links of a text, line by line -/

/-- The links of a line come before those of the lines after it. -/
theorem linkTexts_line (text rest : List Char) :
    linkTexts (text ++ '\n' :: rest) = linkTexts text ++ linkTexts rest := by
  simp only [linkTexts, finds, segments_line consumes_readLink? keepsToLine_readLink?,
    List.filterMap_append, List.filterMap_cons, Segment.found?]

/-- The links of a text are those of its lines. -/
theorem textLinks_line (text rest : List Char) :
    textLinks (text ++ '\n' :: rest) = textLinks text ++ textLinks rest := by
  rw [textLinks, linkTexts_line, List.map_append]
  rfl

/-- Labels are blanked line by line. -/
theorem blankLabels_line (text rest : List Char) :
    blankLabels (text ++ '\n' :: rest) = blankLabels text ++ '\n' :: blankLabels rest := by
  simp only [blankLabels, replaceFinds,
    segments_line consumes_readBlanked? keepsToLine_readBlanked?, List.flatMap_append,
    List.flatMap_cons, Segment.chars, List.singleton_append]

end DiagramDiff.Mermaid
