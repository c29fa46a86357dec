import DiagramDiff.Mermaid.Printer
import DiagramDiff.Proofs.Mermaid.SpelledLinks
import DiagramDiff.Proofs.Mermaid.WrittenClasses

/-!
# Links as they are written

A written link `Source marker Target : label` is read back as that link (`linkTexts_linkLine`): it
is spelled with single blanks and without cardinalities (`writtenSpelling`).

With its label blanked the line declares no class (`declarations_blankedLine`). One link has to be
excepted: `class o-- Target` reads as the declaration of a class `o`, because the marker begins with
a letter.

A text in which no two characters in a row could belong to a marker holds no link at all
(`Markerless`), so the lines of classes are left alone by the search for links and by the blanking
of labels.
-/

namespace DiagramDiff

/-- A link that is read back from what is written for it. -/
structure Link.IsWritable (l : Link) : Prop where
  /-- Its source is a word. -/
  source : Text.IsName l.source.toList
  /-- Its target is a word. -/
  target : Text.IsName l.target.toList
  /-- Its marker is one of the fourteen. -/
  marker : l.marker ∈ Link.markers
  /-- Its label stands on one line. -/
  line : '\n' ∉ l.label.toList
  /-- Its label neither begins nor ends with white space. -/
  trimmed : Text.IsTrimmed l.label.toList
  /-- It does not read as the declaration of a class `o`. -/
  notDeclaration : l.source = "class" → l.marker ≠ "o--"

instance (l : Link) : Decidable l.IsWritable :=
  decidable_of_iff
    (Text.IsName l.source.toList ∧ Text.IsName l.target.toList ∧ l.marker ∈ Link.markers ∧
      '\n' ∉ l.label.toList ∧ Text.IsTrimmed l.label.toList ∧
      (l.source = "class" → l.marker ≠ "o--"))
    ⟨fun ⟨source, target, marker, line, trimmed, other⟩ =>
      ⟨source, target, marker, line, trimmed, other⟩,
      fun h => ⟨h.source, h.target, h.marker, h.line, h.trimmed, h.notDeclaration⟩⟩

end DiagramDiff

namespace DiagramDiff.Mermaid

open Text

/-! ## Texts without links -/

/-- The marker of a link that is read is one of the fourteen and stands in the text. -/
theorem marker_of_readLink? {text left : List Char} {link : LinkText}
    (h : readLink? text = some (link, left)) :
    link.marker ∈ Link.markers ∧ link.marker.toList <:+: text := by
  obtain ⟨after, rest, word, known, marker, -⟩ := readLink?_eq_some h
  have front : link.marker.toList <+: skipCardinality (dropBlanks after) := ⟨rest, marker⟩
  have behind : skipCardinality (dropBlanks after) <:+ text :=
    ((skipCardinality_suffix _).trans (List.dropWhile_suffix isBlank)).trans
      (readWord?_suffix word)
  exact ⟨known, front.isInfix.trans behind.isInfix⟩

/-- Neither two hyphens nor two full stops stand side by side in the text. -/
structure Markerless (text : List Char) : Prop where
  /-- It does not hold two hyphens in a row. -/
  hyphens : ¬ ['-', '-'] <:+: text
  /-- It does not hold two full stops in a row. -/
  stops : ¬ ['.', '.'] <:+: text

/-- Every marker holds two hyphens or two full stops in a row. -/
theorem hyphens_or_stops_infix_marker {marker : String} (h : marker ∈ Link.markers) :
    ['-', '-'] <:+: marker.toList ∨ ['.', '.'] <:+: marker.toList := by
  have all : ∀ m ∈ Link.markers, ['-', '-'] <:+: m.toList ∨ ['.', '.'] <:+: m.toList := by decide
  exact all marker h

namespace Markerless

variable {text rest : List Char}

/-- There is no marker in an empty text. -/
theorem nil : Markerless [] := ⟨by simp, by simp⟩

/-- A text without hyphens and full stops. -/
theorem of_not_mem (hyphen : '-' ∉ text) (stop : '.' ∉ text) : Markerless text where
  hyphens := fun inside => hyphen (inside.subset List.mem_cons_self)
  stops := fun inside => stop (inside.subset List.mem_cons_self)

/-- The end of a text holds nothing that the text does not hold. -/
theorem of_suffix (h : Markerless text) (behind : rest <:+ text) : Markerless rest where
  hyphens := fun inside => h.hyphens (inside.trans behind.isInfix)
  stops := fun inside => h.stops (inside.trans behind.isInfix)

/-- Two texts with another character between them. -/
theorem append_cons (h : Markerless text) (h' : Markerless rest) {c : Char} (hyphen : c ≠ '-')
    (stop : c ≠ '.') : Markerless (text ++ c :: rest) where
  hyphens := fun inside =>
    (infix_of_infix_append_cons (by simpa using hyphen) inside).elim h.hyphens h'.hyphens
  stops := fun inside =>
    (infix_of_infix_append_cons (by simpa using stop) inside).elim h.stops h'.stops

/-- No link is read of such a text. -/
theorem readLink?_eq_none (h : Markerless text) : readLink? text = none := by
  cases found : readLink? text with
  | none => rfl
  | some result =>
    obtain ⟨link, left⟩ := result
    obtain ⟨known, inside⟩ := marker_of_readLink? found
    rcases hyphens_or_stops_infix_marker known with hyphens | stops
    · exact absurd (hyphens.trans inside) h.hyphens
    · exact absurd (stops.trans inside) h.stops

/-- Such a text holds no links. -/
theorem linkTexts_eq_nil (h : Markerless text) : linkTexts text = [] := by
  have kept : segments (atWordStart readLink?) text = text.map .plain :=
    segments_kept fun _ _ behind => atWordStart_eq_none (h.of_suffix behind).readLink?_eq_none
  rw [linkTexts, finds, kept, filterMap_found?_map_plain]

/-- Such a text has no labels to blank. -/
theorem blankLabels_eq_self (h : Markerless text) : blankLabels text = text := by
  have kept : segments (atWordStart readBlanked?) text = text.map .plain :=
    segments_kept fun before suffix behind => atWordStart_eq_none (by
      rw [readBlanked?, (h.of_suffix behind).readLink?_eq_none]
      rfl)
  rw [blankLabels, replaceFinds, kept, flatMap_chars_map_plain]

end Markerless

/-- A text without hyphens and full stops holds no links. -/
theorem linkTexts_of_not_mem {text : List Char} (hyphen : '-' ∉ text) (stop : '.' ∉ text) :
    linkTexts text = [] := (Markerless.of_not_mem hyphen stop).linkTexts_eq_nil

/-- A text without hyphens and full stops has no labels to blank. -/
theorem blankLabels_of_not_mem {text : List Char} (hyphen : '-' ∉ text) (stop : '.' ∉ text) :
    blankLabels text = text := (Markerless.of_not_mem hyphen stop).blankLabels_eq_self

/-! ## One written link -/

/-- A link as it is written, up to its label. -/
def linkStem (l : Link) : List Char :=
  l.source.toList ++ ' ' :: (l.marker.toList ++ ' ' :: l.target.toList)

/-- A label with the colon in front of it; an empty label is not written. -/
def labelTail (label : List Char) : List Char :=
  if label = [] then [] else ' ' :: ':' :: ' ' :: label

/-- The line of a link. -/
def linkLine (l : Link) : List Char := classIndent ++ (linkStem l ++ labelTail l.label.toList)

/-- The printer writes this line for a link. -/
theorem toList_textLine (l : Link) : l.textLine.toList = linkLine l := by
  have stem : ("    " ++ l.shown).toList = classIndent ++ linkStem l := by
    simp only [Link.shown, String.toList_append, linkStem, List.append_assoc]
    rfl
  unfold Link.textLine linkLine labelTail
  by_cases empty : l.label = ""
  · rw [if_pos empty, if_pos (by rw [empty]; rfl), stem, List.append_nil]
  · have filled : ¬ l.label.toList = [] := fun e => empty (String.toList_inj.mp (e.trans rfl))
    rw [if_neg empty, if_neg filled, String.toList_append, String.toList_append, stem]
    simp only [List.append_assoc]
    rfl

/-- What is read of a written link. -/
def writtenLink (l : Link) : LinkText where
  source := l.source.toList
  marker := l.marker
  target := l.target.toList
  label := if l.label.toList = [] then none else some l.label.toList

section link

variable {l : Link} (h : l.IsWritable)

include h

/-- The spelling of a written link. -/
def writtenSpelling : Spelling where
  before := ⟨.space, none⟩
  behind := ⟨.space, none⟩
  suffix :=
    if l.label.toList = [] then none
    else some
      { blanks := Gap.space.chars
        areBlank := Gap.space.areBlank
        text := ' ' :: l.label.toList
        oneLine := by simpa using h.line }

/-- A written link is read whole. -/
theorem readLink?_written :
    readLink? (linkStem l ++ labelTail l.label.toList) = some (writtenLink l, []) := by
  have read := (writtenSpelling h).readLink?_chars h.source h.target h.marker
  have chars : (writtenSpelling h).chars l.source.toList l.marker.toList l.target.toList =
      linkStem l ++ labelTail l.label.toList := by
    unfold Spelling.chars Spelling.tail writtenSpelling linkStem labelTail
    split <;> simp [MarkerSide.chars, LabelSuffix.chars, Gap.space]
  have link : (writtenSpelling h).linkText l.source.toList l.marker l.target.toList =
      writtenLink l := by
    have label : dropBlanks (' ' :: l.label.toList) = l.label.toList :=
      dropBlanks_space h.trimmed.any_head?_isBlank
    unfold Spelling.linkText writtenSpelling writtenLink
    split <;> simp [label]
  rwa [chars, link] at read

/-- The line of a link holds that link and no other. -/
theorem linkTexts_linkLine : linkTexts (linkLine l) = [writtenLink l] := by
  have read := readLink?_written h
  have filled : linkStem l ++ labelTail l.label.toList ≠ [] := by simp [linkStem]
  rw [← List.append_nil (linkStem l ++ _)] at read
  rw [linkTexts, linkLine, finds_gap wordLed_readLink? (forall_mem_of_all (by decide)),
    ← List.append_nil (linkStem l ++ _), finds_used wordLed_readLink? filled rfl read, finds_nil]

/-- What is read of a written link is that link. -/
theorem link_writtenLink : (writtenLink l).link = l := by
  have label : String.ofList (trim ((writtenLink l).label.getD [])) = l.label := by
    unfold writtenLink
    by_cases empty : l.label.toList = []
    · simp only [empty, if_true]
      exact String.toList_inj.mp (by simp [empty])
    · simp only [if_neg empty, Option.getD_some, h.trimmed.trim_eq, String.ofList_toList]
  unfold LinkText.link
  rw [label]
  simp only [writtenLink, String.ofList_toList]

end link

/-! ## Blank labels -/

/-- A blank label with the colon in front of it. -/
def blankTail (label : List Char) : List Char :=
  if label = [] then [] else ' ' :: ':' :: ' ' :: List.replicate label.length ' '

/-- The line of a link with its label blanked. -/
def blankedLine (l : Link) : List Char := classIndent ++ (linkStem l ++ blankTail l.label.toList)

/-- Blanking replaces the label of a written link by as many spaces. -/
theorem blanked_writtenLink {l : Link} (h : l.IsWritable) :
    (writtenLink l).blanked (linkStem l ++ labelTail l.label.toList) =
      linkStem l ++ blankTail l.label.toList := by
  unfold LinkText.blanked writtenLink labelTail blankTail
  by_cases empty : l.label.toList = []
  · simp only [empty, if_true]
  · have filled : (trim l.label.toList).isEmpty = false := by
      rw [h.trimmed.trim_eq]
      simpa using empty
    have shape : ∀ text, linkStem l ++ ' ' :: ':' :: ' ' :: text =
        (linkStem l ++ [' ', ':', ' ']) ++ text := by
      intro text
      simp
    have front : ((linkStem l ++ [' ', ':', ' ']) ++ l.label.toList).length -
        l.label.toList.length = (linkStem l ++ [' ', ':', ' ']).length := by
      rw [List.length_append]
      exact Nat.add_sub_cancel _ _
    simp only [if_neg empty, filled, Bool.false_eq_true, if_false]
    rw [shape l.label.toList, shape (List.replicate _ ' '), front, List.take_left]

/-- Blanking the line of a link leaves its stem and as many spaces as its label has characters. -/
theorem blankLabels_linkLine {l : Link} (h : l.IsWritable) :
    blankLabels (linkLine l) = blankedLine l := by
  have read : readBlanked? (linkStem l ++ labelTail l.label.toList) =
      some (linkStem l ++ blankTail l.label.toList, []) := by
    simp only [readBlanked?, readLink?_written h, Option.map_some, List.length_nil, Nat.sub_zero,
      List.take_length, blanked_writtenLink h]
  have filled : linkStem l ++ labelTail l.label.toList ≠ [] := by simp [linkStem]
  rw [← List.append_nil (linkStem l ++ labelTail _)] at read
  rw [blankLabels, replaceFinds, linkLine,
    segments_gap wordLed_readBlanked? (forall_mem_of_all (by decide)),
    ← List.append_nil (linkStem l ++ labelTail _),
    segments_used wordLed_readBlanked? filled rfl read, List.flatMap_append,
    flatMap_chars_map_plain]
  simp [Segment.chars, segments, blankedLine]

/-! ## No declaration on the line of a link -/

/-- A word that is not the keyword, or that no name follows, declares nothing. -/
theorem readDeclaration?_of_name {word rest : List Char} (hw : IsName word)
    (hrest : rest.head?.any isWord = false)
    (h : word ≠ ['c', 'l', 'a', 's', 's'] ∨ readWord? (dropBlanks rest) = none) :
    readDeclaration? (word ++ rest) = none := by
  cases keyword : "class".toList.isPrefixOf? (word ++ rest) with
  | none => simp only [readDeclaration?, keyword]
  | some after =>
    have parts : ['c', 'l', 'a', 's', 's'] ++ after = word ++ rest :=
      List.append_eq_of_isPrefixOf?_eq_some keyword
    have letters : IsName ['c', 'l', 'a', 's', 's'] := by decide
    simp only [readDeclaration?, keyword]
    rcases letters.eq_or_continues hw hrest parts with ⟨same, rfl⟩ | ⟨c, continues, letter⟩
    · rw [h.resolve_left (absurd same.symm)]
      split <;> rfl
    · have blank : after.head?.any isBlank = false := by
        rw [continues]
        exact isBlank_of_isWord letter
      rw [blank]
      rfl

/-- Markers are made of other characters than words are, two markers excepted. -/
theorem marker_shape {marker : String} (h : marker ∈ Link.markers) :
    (∀ c ∈ marker.toList, isWord c = false) ∨ marker = "o--" ∨ marker = "--o" := by
  have all : ∀ m ∈ Link.markers,
      m.toList.all (fun c => decide (isWord c = false)) = true ∨ m = "o--" ∨ m = "--o" := by decide
  exact (all marker h).imp_left forall_mem_of_all

/-- A word at which no declaration begins is passed over. -/
theorem declarations_name {word rest : List Char} (hw : IsName word)
    (hrest : rest.head?.any isWord = false)
    (h : word ≠ ['c', 'l', 'a', 's', 's'] ∨ readWord? (dropBlanks rest) = none) :
    declarations (word ++ rest) = declarations rest :=
  finds_word wordLed_readDeclaration? hw hrest (readDeclaration?_of_name hw hrest h)

/-- In a marker no declaration begins. -/
theorem declarations_marker {marker : String} (h : marker ∈ Link.markers) (rest : List Char) :
    declarations (marker.toList ++ ' ' :: rest) = declarations rest := by
  have letter : IsName ['o'] := by decide
  have other : ['o'] ≠ ['c', 'l', 'a', 's', 's'] := by decide
  have hyphen : isWord '-' = false := by decide
  rcases marker_shape h with gap | rfl | rfl
  · rw [declarations_gap gap, declarations_cons isWord_space]
  · calc declarations (['o'] ++ '-' :: '-' :: ' ' :: rest)
      _ = declarations ('-' :: '-' :: ' ' :: rest) := declarations_name letter hyphen (.inl other)
      _ = declarations rest := by
          rw [declarations_cons hyphen, declarations_cons hyphen, declarations_cons isWord_space]
  · calc declarations ('-' :: '-' :: (['o'] ++ ' ' :: rest))
      _ = declarations (['o'] ++ ' ' :: rest) := by
          rw [declarations_cons hyphen, declarations_cons hyphen]
      _ = declarations (' ' :: rest) := declarations_name letter isWord_space (.inl other)
      _ = declarations rest := declarations_cons isWord_space rest

/-- Only one marker begins like a word. -/
theorem marker_head {marker : String} (h : marker ∈ Link.markers) (ho : marker ≠ "o--") :
    marker.toList.head?.any isWord = false := by
  have all : ∀ m ∈ Link.markers, m ≠ "o--" → m.toList.head?.any isWord = false := by decide
  exact all marker h ho

/-- In front of a marker the source of a link is not the keyword of a declaration. -/
theorem source_declares_nothing {l : Link} (h : l.IsWritable) (rest : List Char) :
    l.source.toList ≠ ['c', 'l', 'a', 's', 's'] ∨
      readWord? (dropBlanks (' ' :: (l.marker.toList ++ rest))) = none := by
  by_cases keyword : l.source.toList = ['c', 'l', 'a', 's', 's']
  · right
    obtain ⟨-, blank, -, nonempty⟩ := marker_characters h.marker
    have letter := marker_head h.marker (h.notDeclaration (String.toList_inj.mp keyword))
    cases parts : l.marker.toList with
    | nil => exact absurd parts nonempty
    | cons c more =>
      rw [parts] at blank letter
      have drop : dropBlanks (' ' :: (c :: more ++ rest)) = c :: more ++ rest :=
        dropBlanks_space blank
      rw [drop]
      exact readWord?_eq_none letter
  · exact .inl keyword

/-- What follows the target of a link, its label blanked, holds no words up to the next line. -/
theorem declarations_blankTail (label rest : List Char) :
    declarations (blankTail label ++ '\n' :: rest) = declarations rest := by
  have gap : ∀ c ∈ blankTail label, isWord c = false := by
    intro c hc
    unfold blankTail at hc
    split at hc
    · cases hc
    · simp only [List.mem_cons, List.mem_replicate] at hc
      rcases hc with rfl | rfl | rfl | ⟨-, rfl⟩ <;> decide
  rw [declarations_gap gap, declarations_cons isWord_newline]

/-- After the target of a link, its label blanked, stands no word. -/
theorem readWord?_blankTail (label rest : List Char) :
    (blankTail label ++ '\n' :: rest).head?.any isWord = false ∧
      readWord? (dropBlanks (blankTail label ++ '\n' :: rest)) = none := by
  have colon : isWord ':' = false := by decide
  unfold blankTail
  split
  · exact ⟨isWord_newline, readWord?_eq_none (by simp [dropBlanks])⟩
  · exact ⟨isWord_space, readWord?_eq_none colon⟩

/-- The line of a link, its label blanked, declares nothing. -/
theorem declarations_blankedLine {l : Link} (h : l.IsWritable) (rest : List Char) :
    declarations (blankedLine l ++ '\n' :: rest) = declarations rest := by
  have indent : ∀ c ∈ classIndent, isWord c = false := forall_mem_of_all (by decide)
  have shape : blankedLine l ++ '\n' :: rest = classIndent ++ (l.source.toList ++ ' ' ::
      (l.marker.toList ++ ' ' :: (l.target.toList ++
        (blankTail l.label.toList ++ '\n' :: rest)))) := by
    simp [blankedLine, linkStem]
  have space : ∀ text : List Char, (' ' :: text).head?.any isWord = false := fun _ => isWord_space
  obtain ⟨boundary, noName⟩ := readWord?_blankTail l.label.toList rest
  rw [shape, declarations_gap indent,
    declarations_name h.source (space _) (source_declares_nothing h _),
    declarations_cons isWord_space, declarations_marker h.marker,
    declarations_name h.target boundary (.inr noName), declarations_blankTail]

end DiagramDiff.Mermaid
