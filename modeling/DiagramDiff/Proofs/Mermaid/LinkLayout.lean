import DiagramDiff.Proofs.Mermaid.LinkLines
import DiagramDiff.Proofs.Text.Layout

/-!
# Links of relaid texts

A link stands on one line, and of the white space around the end of that line only a label can take
up anything. So the same links are read of relaid texts, up to white space at the ends of their
labels (`readLink?_relaid`), which is trimmed (`textLinks_relaid`). Blanking the labels gives relaid
texts again (`blankLabels_relaid`): up to its label a link is the same in both texts, and what is
written in place of the label is white space at the end of a line.
-/

namespace DiagramDiff.Mermaid

open Text
open Relaid (Passed)

variable {t t' : List Char}

/-! ## The end of a line -/

/-- The rest of a line reaches to a line feed or to the end of the text. -/
theorem head?_dropWhile_isInLine (text : List Char) :
    (text.dropWhile isInLine).head?.all (· == '\n') = true := by
  have stop := any_head?_dropWhile isInLine text
  cases left : text.dropWhile isInLine with
  | nil => rfl
  | cons c rest => simpa [left, isInLine] using stop

/-- A run of characters that stand on one line ends with the line. -/
theorem any_head?_after {after : List Char} (line : after.head?.all (· == '\n') = true)
    {p : Char → Bool} (hp : p '\n' = false) : after.head?.any p = false := by
  cases after with
  | nil => rfl
  | cons c rest =>
    obtain rfl : c = '\n' := by simpa using line
    exact hp

/-! ## The parts of a link -/

/-- After a quote and the text up to the next one, blanks are dropped. -/
theorem skipCardinality_quoted {rest after : List Char}
    (h : rest.dropWhile isQuotable = '"' :: after) :
    skipCardinality ('"' :: rest) = dropBlanks after := by
  simp only [skipCardinality, h]

/-- A quote that is not closed on its line opens no cardinality. -/
theorem skipCardinality_unquoted {rest : List Char}
    (h : (rest.dropWhile isQuotable).head?.any (· == '"') = false) :
    skipCardinality ('"' :: rest) = '"' :: rest := by
  unfold skipCardinality
  split
  · next other same =>
    cases same
    split
    · next after inner =>
      rw [inner] at h
      cases h
    · rfl
  · rfl

/-- Of relaid texts the same cardinality is skipped, or white space is reached in both. -/
theorem skipCardinality_passed (h : Relaid t t') :
    (∃ used, Passed used t t' (skipCardinality t) (skipCardinality t')) ∨
      (WhiteLed (skipCardinality t) ∧ WhiteLed (skipCardinality t')) := by
  rcases h.cases_char (d := '"') (by decide) with ⟨r, r', rfl, rfl, rest⟩ | ⟨other, other'⟩
  · have inner := rest.dropWhile_stop (p := isQuotable) (by decide)
    rcases inner.cases_char (d := '"') (by decide) with
      ⟨after, after', left, left', behind⟩ | ⟨open_, open_'⟩
    · rw [skipCardinality_quoted left, skipCardinality_quoted left']
      -- A run that ends at a quote does not end at white space.
      rcases rest.dropWhile_passed (p := isQuotable) (by decide) with
        ⟨quoted, -, passed⟩ | ⟨white, -⟩
      · rw [left, left'] at passed
        rcases behind.dropBlanks_passed with ⟨blanks, -, more⟩ | white
        · exact .inl ⟨_, ((Passed.start h).next rest).trans ((passed.next behind).trans more)⟩
        · exact .inr white
      · rw [left] at white
        cases white
    · rw [skipCardinality_unquoted open_, skipCardinality_unquoted open_']
      exact .inl ⟨[], .start h⟩
  · rw [skipCardinality_of_head other, skipCardinality_of_head other']
    exact .inl ⟨[], .start h⟩

/-- Of relaid texts the same blanks and the same cardinality are skipped, or white space is reached
in both. -/
theorem skipGap_passed (h : Relaid t t') :
    (∃ used, Passed used t t' (skipCardinality (dropBlanks t)) (skipCardinality (dropBlanks t'))) ∨
      (WhiteLed (skipCardinality (dropBlanks t)) ∧
        WhiteLed (skipCardinality (dropBlanks t'))) := by
  rcases h.dropBlanks_passed with ⟨blanks, -, passed⟩ | ⟨white, white'⟩
  · rcases skipCardinality_passed passed.rest with ⟨used, more⟩ | white
    · exact .inl ⟨_, passed.trans more⟩
    · exact .inr white
  · have unquoted : ∀ {text : List Char}, WhiteLed text → skipCardinality text = text :=
      fun white => skipCardinality_of_head
        (white.any_head? fun _ => beq_of_isWhiteSpace (by decide))
    exact .inr ⟨(unquoted white).symm ▸ white, (unquoted white').symm ▸ white'⟩

/-- No marker is empty or holds white space. -/
theorem marker_dark {marker : String} (h : marker ∈ Link.markers) :
    marker.toList ≠ [] ∧ ∀ c ∈ marker.toList, isWhiteSpace c = false := by
  have all : ∀ m ∈ Link.markers,
      m.toList ≠ [] ∧ m.toList.all (fun c => isWhiteSpace c = false) = true := by decide
  obtain ⟨nonempty, dark⟩ := all marker h
  exact ⟨nonempty, forall_mem_of_all dark⟩

/-! ## Reading a link -/

/-- How the ends of two links correspond, with what is left after them: the links are the same up
to their labels, and a label takes up the rest of its line. -/
inductive EndsRelaid (t t' : List Char) :
    Option (List Char) → List Char → Option (List Char) → List Char → Prop where
  /-- Without labels the links are the same. -/
  | plain {used left left' : List Char} (passed : Passed used t t' left left') :
      EndsRelaid t t' none left none left'
  /-- With labels they are the same up to a colon. -/
  | labelled {used blanks blanks' label label' left left' : List Char} (colon : ':' ∈ used)
      (first : t = used ++ (blanks ++ (label ++ left)))
      (second : t' = used ++ (blanks' ++ (label' ++ left'))) (hb : IsWhite blanks)
      (hb' : IsWhite blanks') (alike : EndsAlike label label') (rest : Relaid left left')
      (line : left.head?.all (· == '\n') = true) :
      EndsRelaid t t' (some label) left (some label') left'

namespace EndsRelaid

variable {label label' : Option (List Char)} {left left' : List Char}

/-- What is left is relaid. -/
theorem rest (h : EndsRelaid t t' label left label' left') : Relaid left left' := by
  cases h with
  | plain passed => exact passed.rest
  | labelled _ _ _ _ _ _ rest _ => exact rest

/-- The labels are the same once they are trimmed. -/
theorem trim_eq (h : EndsRelaid t t' label left label' left') :
    trim (label.getD []) = trim (label'.getD []) := by
  cases h with
  | plain passed => rfl
  | labelled _ _ _ _ _ alike _ _ => exact alike.trim_eq

/-- The same text may be passed over before. -/
theorem of_passed {used s s' : List Char} (passed : Passed used t t' s s')
    (h : EndsRelaid s s' label left label' left') : EndsRelaid t t' label left label' left' := by
  cases h with
  | plain more => exact .plain (passed.trans more)
  | @labelled more _ _ _ _ _ _ colon first second hb hb' alike rest line =>
    refine .labelled (List.mem_append_right used colon) ?_ ?_ hb hb' alike rest line
    · rw [passed.first, first, List.append_assoc]
    · rw [passed.second, second, List.append_assoc]

end EndsRelaid

/-- Behind a colon the labels of relaid texts correspond. -/
theorem endsRelaid_label {used s s' : List Char} (passed : Passed used t t' s s')
    (colon : ':' ∈ used) :
    EndsRelaid t t' (some ((dropBlanks s).takeWhile isInLine)) ((dropBlanks s).dropWhile isInLine)
      (some ((dropBlanks s').takeWhile isInLine)) ((dropBlanks s').dropWhile isInLine) := by
  have feed : isInLine '\n' = false := by decide
  have label := passed.rest.dropBlanks
  have parts : ∀ text : List Char, text = text.takeWhile isBlank ++
      ((dropBlanks text).takeWhile isInLine ++ (dropBlanks text).dropWhile isInLine) := by
    intro text
    rw [List.takeWhile_append_dropWhile]
    exact List.takeWhile_append_dropWhile.symm
  have white : ∀ text : List Char, IsWhite (text.takeWhile isBlank) :=
    fun text c hc => isWhiteSpace_of_isBlank (List.mem_takeWhile_imp hc)
  exact .labelled colon (passed.first.trans (congrArg (used ++ ·) (parts s)))
    (passed.second.trans (congrArg (used ++ ·) (parts s'))) (white s) (white s')
    (label.takeWhile_stop feed) (label.dropWhile_stop feed) (head?_dropWhile_isInLine _)

/-- Without a colon there is no label. -/
theorem readTarget?_plain {text target after : List Char}
    (word : readWord? (skipCardinality (dropBlanks text)) = some (target, after))
    (other : (dropBlanks after).head?.any (· == ':') = false) :
    readTarget? text = some (target, none, after) := by
  simp only [readTarget?, word]
  split
  · next rest colon => simp [colon] at other
  · rfl

/-- After a colon the rest of the line is the label. -/
theorem readTarget?_labelled {text target after rest : List Char}
    (word : readWord? (skipCardinality (dropBlanks text)) = some (target, after))
    (colon : dropBlanks after = ':' :: rest) :
    readTarget? text = some (target, some ((dropBlanks rest).takeWhile isInLine),
      (dropBlanks rest).dropWhile isInLine) := by
  simp only [readTarget?, word, colon]

/-- Of relaid texts the same target is read, and labels that correspond. -/
theorem readTarget?_relaid (h : Relaid t t') :
    (readTarget? t = none ∧ readTarget? t' = none) ∨
      ∃ target label label' left left', readTarget? t = some (target, label, left) ∧
        readTarget? t' = some (target, label', left') ∧
          EndsRelaid t t' label left label' left' := by
  rcases skipGap_passed h with ⟨gap, passed⟩ | ⟨white, white'⟩
  · rcases passed.rest.readWord? with ⟨none, none'⟩ | ⟨target, s, s', hs, hs', word⟩
    · left
      simp only [readTarget?, none, none', and_self]
    · right
      have front := passed.trans word
      have blanks := word.rest.dropBlanks
      rcases blanks.cases_char (d := ':') (by decide) with
        ⟨r, r', colon, colon', rest⟩ | ⟨other, other'⟩
      · refine ⟨_, _, _, _, _, readTarget?_labelled hs colon, readTarget?_labelled hs' colon',
          .of_passed front ?_⟩
        rcases word.rest.dropBlanks_passed with ⟨used, -, more⟩ | ⟨white, -⟩
        · rw [colon, colon'] at more
          exact endsRelaid_label (more.next rest) (by simp)
        · rw [colon] at white
          cases white
      · exact ⟨_, _, _, _, _, readTarget?_plain hs other, readTarget?_plain hs' other',
          .plain front⟩
  · have none : ∀ {text : List Char}, WhiteLed (skipCardinality (dropBlanks text)) →
        readTarget? text = none := by
      intro text white
      simp only [readTarget?,
        readWord?_eq_none (white.any_head? fun _ => isWord_of_isWhiteSpace)]
    exact .inl ⟨none white, none white'⟩

/-- Links that were read of relaid texts and are the same up to their labels, each with what is left
after it. -/
structure SameLink (t t' : List Char) (found found' : LinkText × List Char) : Prop where
  /-- The sources are the same. -/
  source : found.1.source = found'.1.source
  /-- The markers are the same. -/
  marker : found.1.marker = found'.1.marker
  /-- The targets are the same. -/
  target : found.1.target = found'.1.target
  /-- The labels correspond. -/
  ends : EndsRelaid t t' found.1.label found.2 found'.1.label found'.2

/-- The same text may be passed over before. -/
theorem SameLink.of_passed {used s s' : List Char} {found found' : LinkText × List Char}
    (passed : Passed used t t' s s') (h : SameLink s s' found found') :
    SameLink t t' found found' :=
  ⟨h.source, h.marker, h.target, h.ends.of_passed passed⟩

/-- Of relaid texts the same link with a given marker is read. -/
theorem readMarked?_relaid {marker : String} (hm : marker ∈ Link.markers) (source : List Char)
    (h : Relaid t t') :
    (readMarked? source t marker = none ∧ readMarked? source t' marker = none) ∨
      ∃ found found', readMarked? source t marker = some found ∧
        readMarked? source t' marker = some found' ∧ SameLink t t' found found' := by
  unfold readMarked?
  rcases h.isPrefixOf? (marker_dark hm).2 with ⟨none, none'⟩ | ⟨s, s', hs, hs', passed⟩
  · rw [none, none']
    exact .inl ⟨rfl, rfl⟩
  · rw [hs, hs']
    rcases readTarget?_relaid passed.rest with
      ⟨none, none'⟩ | ⟨target, label, label', left, left', read, read', ends⟩
    · left
      simp only [none, none', Option.map_none, and_self]
    · simp only [read, read', Option.map_some]
      exact .inr ⟨_, _, rfl, rfl, rfl, rfl, rfl, ends.of_passed passed⟩

/-- The first answers of two searches correspond if the answers correspond one by one. -/
theorem findSome?_corresponding {α β : Type} {R : β → β → Prop} {f f' : α → Option β}
    {l : List α} (h : ∀ a ∈ l, (f a = none ∧ f' a = none) ∨
      ∃ b b', f a = some b ∧ f' a = some b' ∧ R b b') :
    (l.findSome? f = none ∧ l.findSome? f' = none) ∨
      ∃ b b', l.findSome? f = some b ∧ l.findSome? f' = some b' ∧ R b b' := by
  induction l with
  | nil => exact .inl ⟨rfl, rfl⟩
  | cons a l ih =>
    obtain ⟨first, later⟩ := List.forall_mem_cons.mp h
    rcases first with ⟨none, none'⟩ | ⟨b, b', some, some', both⟩
    · simpa only [List.findSome?_cons, none, none'] using ih later
    · simp only [List.findSome?_cons, some, some']
      exact .inr ⟨b, b', rfl, rfl, both⟩

/-- Of relaid texts the same link is read. -/
theorem readLink?_relaid (h : Relaid t t') :
    (readLink? t = none ∧ readLink? t' = none) ∨
      ∃ found found', readLink? t = some found ∧ readLink? t' = some found' ∧
        SameLink t t' found found' := by
  unfold readLink?
  rcases h.readWord? with ⟨none, none'⟩ | ⟨source, s, s', hs, hs', word⟩
  · rw [none, none']
    exact .inl ⟨rfl, rfl⟩
  · rw [hs, hs']
    rcases skipGap_passed word.rest with ⟨gap, passed⟩ | ⟨white, white'⟩
    · rcases findSome?_corresponding fun marker hm => readMarked?_relaid hm source passed.rest with
        none | ⟨found, found', some, some', same⟩
      · exact .inl none
      · exact .inr ⟨found, found', some, some', same.of_passed (word.trans passed)⟩
    · -- No marker begins with white space.
      have missed : ∀ {text : List Char}, WhiteLed text →
          Link.markers.findSome? (readMarked? source text) = none := by
        intro text white
        refine List.findSome?_eq_none_iff.mpr fun marker hm => ?_
        obtain ⟨m, rest, parts⟩ := List.exists_cons_of_ne_nil (marker_dark hm).1
        have dark : isWhiteSpace m = false := (marker_dark hm).2 m (parts ▸ List.mem_cons_self)
        simp only [readMarked?, parts,
          isPrefixOf?_of_head (white.any_head? fun _ => beq_of_isWhiteSpace dark)]
      exact .inl ⟨missed white, missed white'⟩

/-! ## The links of a text -/

/-- No word goes on after a link. -/
theorem endsWord_readLink? : EndsWord readLink? := by
  refine Consumes.endsWord consumes_readLink? fun h => .inl ?_
  obtain ⟨after, rest, -, -, -, target⟩ := readLink?_eq_some h
  obtain ⟨behind, word, ⟨-, rfl⟩ | ⟨label, -, -, rfl⟩⟩ := readTarget?_eq_some target
  · exact any_head?_of_readWord? word
  · exact any_head?_after (head?_dropWhile_isInLine _) isWord_newline

/-- The links of a text that starts with one. -/
theorem linkTexts_found {text left : List Char} {link : LinkText}
    (h : readLink? text = some (link, left)) : linkTexts text = link :: linkTexts left :=
  finds_found wordLed_readLink? endsWord_readLink? h

/-- Between words there are no links. -/
theorem linkTexts_cons {c : Char} (hc : isWord c = false) (rest : List Char) :
    linkTexts (c :: rest) = linkTexts rest :=
  finds_gap wordLed_readLink? (by simpa using hc : ∀ d ∈ [c], isWord d = false) rest

/-- A word at which no link begins holds none. -/
theorem linkTexts_word {word rest : List Char} (hw : IsName word)
    (hrest : rest.head?.any isWord = false) (h : readLink? (word ++ rest) = none) :
    linkTexts (word ++ rest) = linkTexts rest :=
  finds_word wordLed_readLink? hw hrest h

/-- Links are found in both of two relaid texts or in none. -/
theorem layoutFree_readLink? : LayoutFree readLink? := by
  intro t t' h
  rcases readLink?_relaid h with none | ⟨found, found', read, read', same⟩
  · exact .inl none
  · exact .inr ⟨_, _, _, _, read, read', same.ends.rest⟩

/-- Links that are the same up to their labels are the same once the labels are trimmed. -/
theorem SameLink.link_eq {found found' : LinkText × List Char} (h : SameLink t t' found found') :
    found.1.link = found'.1.link := by
  unfold LinkText.link
  rw [h.source, h.marker, h.target, h.ends.trim_eq]

/-- Links that were read of relaid texts are the same up to their labels. -/
theorem sameLink_of_readLink? {found found' : LinkText × List Char} (h : Relaid t t')
    (read : readLink? t = some found) (read' : readLink? t' = some found') :
    SameLink t t' found found' := by
  rcases readLink?_relaid h with ⟨none, -⟩ | ⟨link, link', hl, hl', same⟩
  · rw [none] at read
    cases read
  · rw [Option.some.inj (hl.symm.trans read), Option.some.inj (hl'.symm.trans read')] at same
    exact same

/-- The links of relaid texts are the same. -/
theorem textLinks_relaid (h : Relaid t t') : textLinks t = textLinks t' :=
  h.map_finds_eq wordLed_readLink? endsWord_readLink? layoutFree_readLink?
    fun relaid read read' => (sameLink_of_readLink? relaid read read').link_eq

/-! ## Blank labels -/

/-- A link without a label stays as it is. -/
theorem blanked_plain {link : LinkText} (h : link.label = none) (used left : List Char) :
    link.blanked ((used ++ left).take ((used ++ left).length - left.length)) = used := by
  simp [LinkText.blanked, h]

/-- Of a link with a label nothing is left beyond its colon but white space, which stood there before
or is a space. -/
theorem blanked_labelled {link : LinkText} {blanks label : List Char} (h : link.label = some label)
    (hb : IsWhite blanks) (used left : List Char) :
    ∃ white, IsWhite white ∧ white ⊆ ' ' :: (blanks ++ label) ∧
      link.blanked ((used ++ (blanks ++ (label ++ left))).take
        ((used ++ (blanks ++ (label ++ left))).length - left.length)) = used ++ white := by
  have chars : (used ++ (blanks ++ (label ++ left))).take
      ((used ++ (blanks ++ (label ++ left))).length - left.length) =
        used ++ (blanks ++ label) := by
    have whole : used ++ (blanks ++ (label ++ left)) = (used ++ (blanks ++ label)) ++ left := by
      simp only [List.append_assoc]
    rw [whole, List.length_append, Nat.add_sub_cancel, List.take_left]
  simp only [LinkText.blanked, h, chars]
  split
  · next empty =>
    exact ⟨blanks ++ label, hb.append (isWhite_of_trim_eq_nil (List.isEmpty_iff.mp empty)),
      List.subset_cons_self _ _, rfl⟩
  · have front : (used ++ (blanks ++ label)).take
        ((used ++ (blanks ++ label)).length - label.length) = used ++ blanks := by
      rw [← List.append_assoc, List.length_append, Nat.add_sub_cancel, List.take_left]
    refine ⟨blanks ++ List.replicate label.length ' ', hb.append ?_, ?_, ?_⟩
    · intro c hc
      rw [(List.mem_replicate.mp hc).2]
      decide
    · intro c hc
      rcases List.mem_append.mp hc with hc | hc
      · exact List.mem_cons_of_mem _ (List.mem_append_left _ hc)
      · rw [(List.mem_replicate.mp hc).2]
        exact List.mem_cons_self
    · rw [front, List.append_assoc]

/-- No word goes on after a link with a blank label. -/
theorem endsWord_readBlanked? : EndsWord readBlanked? := by
  intro text blank left h
  obtain ⟨⟨link, rest⟩, found, same⟩ := Option.map_eq_some_iff.mp h
  cases same
  exact endsWord_readLink? found

/-- Links with blank labels are found in both of two relaid texts or in none. -/
theorem layoutFree_readBlanked? : LayoutFree readBlanked? := by
  intro t t' h
  unfold readBlanked?
  rcases readLink?_relaid h with ⟨none, none'⟩ | ⟨found, found', read, read', same⟩
  · rw [none, none']
    exact .inl ⟨rfl, rfl⟩
  · rw [read, read']
    exact .inr ⟨_, _, _, _, rfl, rfl, same.ends.rest⟩

/-- Blanking goes on behind a link. -/
theorem blankLabels_found {text blank left : List Char}
    (h : readBlanked? text = some (blank, left)) :
    blankLabels text = blank ++ blankLabels left := by
  rw [blankLabels, replaceFinds, segments_found wordLed_readBlanked? endsWord_readBlanked? h,
    List.flatMap_cons]
  rfl

/-- Of a link the characters it was read from are left, with its label blanked. -/
theorem blankLabels_used {used left : List Char} {link : LinkText}
    (h : readLink? (used ++ left) = some (link, left)) :
    blankLabels (used ++ left) = link.blanked used ++ blankLabels left := by
  have chars : (used ++ left).take ((used ++ left).length - left.length) = used := by
    rw [List.length_append, Nat.add_sub_cancel, List.take_left]
  have read : readBlanked? (used ++ left) = some (link.blanked used, left) := by
    simp only [readBlanked?, h, Option.map_some, chars]
  exact blankLabels_found read

/-- Of a link with a label nothing is left but white space behind its colon. -/
theorem blankLabels_label {used blanks label left : List Char} {link : LinkText}
    (h : readLink? (used ++ (blanks ++ (label ++ left))) = some (link, left))
    (hl : link.label = some label) (hb : IsWhite blanks) :
    ∃ white, IsWhite white ∧
      blankLabels (used ++ (blanks ++ (label ++ left))) = used ++ (white ++ blankLabels left) := by
  obtain ⟨white, hw, -, chars⟩ := blanked_labelled hl hb used left
  have read : readBlanked? (used ++ (blanks ++ (label ++ left))) = some (used ++ white, left) := by
    simp only [readBlanked?, h, Option.map_some, chars]
  exact ⟨white, hw, (blankLabels_found read).trans (List.append_assoc _ _ _)⟩

/-- Blanking passes over characters between words. -/
theorem blankLabels_gap {c : Char} (hc : isWord c = false) (rest : List Char) :
    blankLabels (c :: rest) = c :: blankLabels rest := by
  rw [blankLabels, replaceFinds, segments_cons wordLed_readBlanked? hc]
  rfl

/-- Blanking passes over a word at which no link begins. -/
theorem blankLabels_word {word rest : List Char} (hw : IsName word)
    (hrest : rest.head?.any isWord = false) (h : readBlanked? (word ++ rest) = none) :
    blankLabels (word ++ rest) = word ++ blankLabels rest := by
  rw [blankLabels, replaceFinds, segments_word wordLed_readBlanked? hw hrest h, List.flatMap_append,
    flatMap_chars_map_plain]
  rfl

/-- In front of a line feed or the end there are no labels to blank. -/
theorem blankLabels_of_head {text : List Char} (h : text.head?.all (· == '\n') = true) :
    (blankLabels text).head?.all (· == '\n') = true := by
  cases text with
  | nil => rfl
  | cons c rest =>
    obtain rfl : c = '\n' := by simpa using h
    rw [blankLabels_gap isWord_newline]
    rfl

/-- Relaid texts are relaid with their labels blanked. -/
theorem blankLabels_relaid (h : Relaid t t') : Relaid (blankLabels t) (blankLabels t') := by
  refine Relaid.scan (S := fun s s' => Relaid (s.flatMap Segment.chars) (s'.flatMap Segment.chars))
    wordLed_readBlanked? endsWord_readBlanked? layoutFree_readBlanked? ?_ ?_ ?_ ?_ h
  · intro w w' hw hw'
    rw [flatMap_chars_map_plain, flatMap_chars_map_plain]
    exact .ending hw hw'
  · intro c s s' rest
    exact .char c rest
  · intro w w' s s' hw hw' feed feed' rest
    rw [List.flatMap_append, List.flatMap_append, flatMap_chars_map_plain, flatMap_chars_map_plain]
    exact rest.lineBreak hw hw' feed feed'
  · intro t t' left left' blank blank' relaid read read' rest
    obtain ⟨⟨link, behind⟩, found, same⟩ := Option.map_eq_some_iff.mp read
    obtain ⟨⟨link', behind'⟩, found', same'⟩ := Option.map_eq_some_iff.mp read'
    cases same
    cases same'
    obtain ⟨-, -, -, ends⟩ := sameLink_of_readLink? relaid found found'
    rw [List.flatMap_cons, List.flatMap_cons]
    simp only at ends
    generalize label_eq : link.label = label at ends
    generalize label_eq' : link'.label = label' at ends
    cases ends with
    | @plain used _ _ passed =>
      rw [Segment.chars, Segment.chars, passed.first, passed.second, blanked_plain label_eq,
        blanked_plain label_eq']
      exact rest.append_left used
    | @labelled used blanks blanks' label label' _ _ colon first second hb hb' alike behind line =>
      obtain ⟨white, hw, -, blank⟩ := blanked_labelled label_eq hb used left
      obtain ⟨white', hw', -, blank'⟩ := blanked_labelled label_eq' hb' used left'
      rw [Segment.chars, Segment.chars, first, second, blank, blank', List.append_assoc,
        List.append_assoc]
      exact (rest.white_append hw hw' (blankLabels_of_head line)).append_left used

/-! ### What blanking leaves -/

/-- A link with a blank label is the text it was read from, or is the same up to a colon and goes on
with spaces and characters of that text. -/
theorem readBlanked?_parts {text blank left : List Char}
    (h : readBlanked? text = some (blank, left)) :
    text = blank ++ left ∨
      ∃ used chars white, text = used ++ (chars ++ left) ∧ blank = used ++ white ∧ ':' ∈ used ∧
        white ⊆ ' ' :: chars := by
  obtain ⟨⟨link, behind⟩, found, same⟩ := Option.map_eq_some_iff.mp h
  cases same
  obtain ⟨-, -, -, ends⟩ := sameLink_of_readLink? (.refl text) found found
  simp only at ends
  generalize label_eq : link.label = label at ends
  cases ends with
  | @plain used _ _ passed =>
    rw [passed.first, blanked_plain label_eq]
    exact .inl rfl
  | @labelled used blanks _ label _ _ _ colon first _ hb _ _ _ _ =>
    obtain ⟨white, -, inside, blank⟩ := blanked_labelled label_eq hb used left
    refine .inr ⟨used, blanks ++ label, white, ?_, ?_, colon, inside⟩
    · rw [first, List.append_assoc]
    · rw [first, blank]

/-- Blanking adds nothing but spaces. -/
theorem mem_of_mem_blankLabels {text : List Char} {c : Char} (h : c ∈ blankLabels text) :
    c = ' ' ∨ c ∈ text := by
  induction text using scan_induction endsWord_readBlanked? with
  | nil => exact .inr h
  | gap d rest hd ih =>
    rw [blankLabels_gap hd] at h
    rcases List.mem_cons.mp h with rfl | h
    · exact .inr List.mem_cons_self
    · exact (ih h).imp_right (List.mem_cons_of_mem d)
  | word word rest hw hrest none ih =>
    rw [blankLabels_word hw hrest none] at h
    rcases List.mem_append.mp h with h | h
    · exact .inr (List.mem_append_left rest h)
    · exact (ih h).imp_right (List.mem_append_right word)
  | found text blank left read ih =>
    rw [blankLabels_found read] at h
    rcases readBlanked?_parts read with rfl | ⟨used, chars, white, rfl, rfl, -, inside⟩
    · rcases List.mem_append.mp h with h | h
      · exact .inr (List.mem_append_left left h)
      · exact (ih h).imp_right (List.mem_append_right blank)
    · rcases List.mem_append.mp h with h | h
      · rcases List.mem_append.mp h with h | h
        · exact .inr (List.mem_append_left _ h)
        · exact (List.mem_cons.mp (inside h)).imp_right
            fun h => List.mem_append_right used (List.mem_append_left left h)
      · exact (ih h).imp_right
          fun h => List.mem_append_right used (List.mem_append_right chars h)

/-- Blanking leaves a text as it is, or there is a colon in the text and one is left. -/
theorem blankLabels_eq_or_colon (text : List Char) :
    blankLabels text = text ∨ (':' ∈ blankLabels text ∧ ':' ∈ text) := by
  have behind : ∀ {front front' rest rest' : List Char},
      rest = rest' ∨ (':' ∈ rest ∧ ':' ∈ rest') → front = front' →
        front ++ rest = front' ++ rest' ∨ (':' ∈ front ++ rest ∧ ':' ∈ front' ++ rest') := by
    rintro front _ rest rest' (same | ⟨colon, colon'⟩) rfl
    · exact .inl (congrArg (front ++ ·) same)
    · exact .inr ⟨List.mem_append_right front colon, List.mem_append_right front colon'⟩
  induction text using scan_induction endsWord_readBlanked? with
  | nil => exact .inl rfl
  | gap c rest hc ih =>
    rw [blankLabels_gap hc]
    exact behind ih (Eq.refl [c])
  | word word rest hw hrest none ih =>
    rw [blankLabels_word hw hrest none]
    exact behind ih rfl
  | found text blank left read ih =>
    rw [blankLabels_found read]
    rcases readBlanked?_parts read with rfl | ⟨used, chars, white, rfl, rfl, colon, -⟩
    · exact behind ih rfl
    · exact .inr ⟨List.mem_append_left _ (List.mem_append_left white colon),
        List.mem_append_left _ colon⟩

end DiagramDiff.Mermaid
