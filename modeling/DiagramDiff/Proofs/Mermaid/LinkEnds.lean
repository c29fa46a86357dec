import DiagramDiff.Proofs.Mermaid.LinkLayout

/-!
# A link and what stands behind it

If a text is continued, no link is lost: where one begins in the text, one begins in the longer text
(`readLink?_eq_none_of_append`). It need not be the same one, for a quote that was open may be
closed further on.

If the end of a text is cut off behind the target of a link, or in its label, the link stays the
same up to its label (`readLink?_front`). Cutting off what comes after a link without a label
changes nothing of it (`readLink?_front_plain`), and cutting off a label leaves an empty one
(`readLink?_front_label`). Neither statement excludes any character from what is cut off.
-/

namespace DiagramDiff.Mermaid

open Text

variable {p x : List Char}

/-! ## Words -/

/-- A word that something follows is the same word if the text is continued. -/
theorem readWord?_longer {word after : List Char} (h : readWord? p = some (word, after))
    (ended : after ≠ []) : readWord? (p ++ x) = some (word, after ++ x) := by
  obtain ⟨c, rest, rfl⟩ := List.exists_cons_of_ne_nil ended
  have next := any_head?_of_readWord? h
  rw [readWord?_parts h, List.append_assoc]
  exact readWord?_append (isName_of_readWord? h) next

/-- A word is the same word if a text behind it is cut off. -/
theorem readWord?_front {word after : List Char} (h : readWord? (p ++ x) = some (word, after ++ x)) :
    readWord? p = some (word, after) := by
  have parts := readWord?_parts h
  have next := any_head?_of_readWord? h
  rw [← List.append_assoc] at parts
  rw [List.append_cancel_right parts]
  refine readWord?_append (isName_of_readWord? h) ?_
  cases after with
  | nil => rfl
  | cons c after => exact next

/-! ## Blanks and cardinalities -/

/-- What is behind a text is behind its blanks, unless it is all blank: then blanks are dropped from
what is behind it, too. -/
theorem dropBlanks_append_cases (p x : List Char) :
    dropBlanks (p ++ x) = dropBlanks p ++ x ∨
      (dropBlanks p = [] ∧ dropBlanks (p ++ x) = dropBlanks x) := by
  have whole : dropBlanks (p ++ x) = if (dropBlanks p).isEmpty then dropBlanks x
      else dropBlanks p ++ x := List.dropWhile_append
  cases rest : dropBlanks p with
  | nil =>
    rw [rest] at whole
    exact .inr ⟨rfl, whole⟩
  | cons c rest' =>
    rw [rest] at whole
    exact .inl whole

/-- Without blanks a text is not longer. -/
theorem length_dropBlanks_le (text : List Char) : (dropBlanks text).length ≤ text.length :=
  (List.dropWhile_suffix isBlank).length_le

/-- A quote that a text leaves open is left open by what is behind the text, or no more is left than
a part of that. -/
theorem skipCardinality_open {rest : List Char} (run : rest.dropWhile isQuotable = [])
    (x : List Char) :
    skipCardinality ('"' :: (rest ++ x)) = '"' :: (rest ++ x) ∨
      (skipCardinality ('"' :: (rest ++ x))).length ≤ x.length := by
  have inner : (rest ++ x).dropWhile isQuotable = x.dropWhile isQuotable := by
    rw [List.dropWhile_append, run]
    rfl
  by_cases closing : (x.dropWhile isQuotable).head?.any (· == '"') = true
  · cases behind : x.dropWhile isQuotable with
    | nil => simp [behind] at closing
    | cons d after =>
      obtain rfl : d = '"' := by simpa [behind] using closing
      have shorter : after.length < x.length :=
        (behind ▸ List.dropWhile_suffix isQuotable : '"' :: after <:+ x).length_le
      rw [skipCardinality_quoted (inner.trans behind)]
      exact .inr ((length_dropBlanks_le after).trans shorter.le)
  · exact .inl (skipCardinality_unquoted (inner.symm ▸ Bool.not_eq_true _ ▸ closing))

/-- A cardinality that ends in a text ends there whatever is behind the text; if nothing is left of
the text, blanks behind it are dropped as well. -/
theorem skipCardinality_settled {rest : List Char} (run : rest.dropWhile isQuotable ≠ [])
    (x : List Char) :
    skipCardinality ('"' :: (rest ++ x)) = skipCardinality ('"' :: rest) ++ x ∨
      (skipCardinality ('"' :: rest) = [] ∧
        (skipCardinality ('"' :: (rest ++ x))).length ≤ x.length) := by
  obtain ⟨d, after, stop⟩ := List.exists_cons_of_ne_nil run
  have inner : (rest ++ x).dropWhile isQuotable = d :: (after ++ x) := by
    rw [List.dropWhile_append, stop]
    rfl
  by_cases closing : d = '"'
  · subst closing
    rw [skipCardinality_quoted inner, skipCardinality_quoted stop]
    rcases dropBlanks_append_cases after x with blanks | ⟨empty, blanks⟩
    · exact .inl blanks
    · exact .inr ⟨empty, blanks ▸ length_dropBlanks_le x⟩
  · have other : ∀ text : List Char, (d :: text).head?.any (· == '"') = false := fun _ => by
      simpa using closing
    rw [skipCardinality_unquoted (inner ▸ other _), skipCardinality_unquoted (stop ▸ other _)]
    exact .inl rfl

/-- What is behind a text is behind its cardinality. Otherwise a quote of the text is closed behind
it, or nothing of the text is left, and no more is left than what is behind it. -/
theorem skipCardinality_append (p x : List Char) :
    skipCardinality (p ++ x) = skipCardinality p ++ x ∨
      ((skipCardinality p).head?.all (· == '"') = true ∧
        (skipCardinality (p ++ x)).length ≤ x.length) := by
  cases p with
  | nil => exact .inr ⟨rfl, (skipCardinality_suffix x).length_le⟩
  | cons c rest =>
    rw [List.cons_append]
    by_cases quote : c = '"'
    · subst quote
      by_cases run : rest.dropWhile isQuotable = []
      · have alone : skipCardinality ('"' :: rest) = '"' :: rest :=
          skipCardinality_unquoted (by rw [run]; rfl)
        rw [alone]
        exact (skipCardinality_open run x).imp_right fun short => ⟨rfl, short⟩
      · refine (skipCardinality_settled run x).imp_right fun ⟨empty, short⟩ => ⟨?_, short⟩
        rw [empty]
        rfl
    · have unquoted : ∀ text : List Char, skipCardinality (c :: text) = c :: text := fun text =>
        skipCardinality_of_head (by simpa using quote)
      rw [unquoted, unquoted]
      exact .inl rfl

/-- What is behind a text is behind its blanks and its cardinality. Otherwise these reach to the end
of the text or beyond, and no more is left than what is behind it. -/
theorem skipGap_append (p x : List Char) :
    skipCardinality (dropBlanks (p ++ x)) = skipCardinality (dropBlanks p) ++ x ∨
      ((skipCardinality (dropBlanks p)).head?.all (· == '"') = true ∧
        (skipCardinality (dropBlanks (p ++ x))).length ≤ x.length) := by
  rcases dropBlanks_append_cases p x with blanks | ⟨empty, blanks⟩
  · rw [blanks]
    exact skipCardinality_append _ x
  · rw [empty, blanks]
    exact .inr ⟨rfl, (skipCardinality_suffix _).length_le.trans (length_dropBlanks_le x)⟩

/-- A text that is empty or begins with a quote begins with no other character. -/
theorem any_head?_of_all_quote {text : List Char} (h : text.head?.all (· == '"') = true)
    {q : Char → Bool} (hq : q '"' = false) : text.head?.any q = false := by
  cases text with
  | nil => rfl
  | cons c rest =>
    obtain rfl : c = '"' := by simpa using h
    exact hq

/-! ## Targets and labels -/

/-- The label behind a target and what is left after it; there is a label if a colon follows. -/
def labelBehind (after : List Char) : Option (List Char) × List Char :=
  match dropBlanks after with
  | ':' :: rest =>
    (some ((dropBlanks rest).takeWhile isInLine), (dropBlanks rest).dropWhile isInLine)
  | _ => (none, after)

/-- Where no colon follows there is no label. -/
theorem labelBehind_of_no_colon {after : List Char}
    (h : ¬ ∃ rest, dropBlanks after = ':' :: rest) : labelBehind after = (none, after) := by
  unfold labelBehind
  split
  · next rest colon => exact absurd ⟨rest, colon⟩ h
  · rfl

/-- A target is the word behind a gap, with the label behind it. -/
theorem readTarget?_eq_map (text : List Char) :
    readTarget? text = (readWord? (skipCardinality (dropBlanks text))).map
      fun (target, after) => (target, labelBehind after) := by
  unfold readTarget?
  cases readWord? (skipCardinality (dropBlanks text)) with
  | none => rfl
  | some result =>
    obtain ⟨target, after⟩ := result
    by_cases colon : ∃ rest, dropBlanks after = ':' :: rest
    · obtain ⟨rest, colon⟩ := colon
      simp only [labelBehind, Option.map_some, colon]
    · simp only [Option.map_some, labelBehind_of_no_colon colon]
      split
      · next rest found => exact absurd ⟨rest, found⟩ colon
      · rfl

/-- A label with what is left after it is the end of the text. -/
theorem labelBehind_suffix (after : List Char) :
    (labelBehind after).1.getD [] ++ (labelBehind after).2 <:+ after := by
  unfold labelBehind
  split
  · next rest colon =>
    have outer : ':' :: rest <:+ after := colon ▸ List.dropWhile_suffix isBlank
    rw [Option.getD_some, List.takeWhile_append_dropWhile]
    exact ((List.dropWhile_suffix isBlank).trans (List.suffix_cons _ _)).trans outer
  · exact List.suffix_refl _

/-- Where there is no label, there is none if what comes after it is cut off. -/
theorem labelBehind_plain {after left : List Char}
    (h : labelBehind (after ++ x) = (none, left ++ x)) : labelBehind after = (none, left) := by
  unfold labelBehind at h
  split at h
  · cases h
  · next other =>
    obtain rfl : after = left := List.append_cancel_right (Prod.mk.inj h).2
    refine labelBehind_of_no_colon fun ⟨rest, colon⟩ => ?_
    rcases dropBlanks_append_cases after x with blanks | ⟨empty, -⟩
    · rw [colon] at blanks
      exact other (rest ++ x) blanks
    · rw [empty] at colon
      cases colon

/-- Where a label is the end of a text, an empty one is left if it is cut off. -/
theorem labelBehind_label {after label : List Char}
    (h : labelBehind (after ++ label) = (some label, [])) : labelBehind after = (some [], []) := by
  unfold labelBehind at h
  split at h
  · next rest colon =>
    obtain ⟨line, ending⟩ := Prod.mk.inj h
    obtain ⟨front, hf, first⟩ := exists_dropBlanks (after ++ label)
    obtain ⟨blanks, hb, second⟩ := exists_dropBlanks rest
    have whole : dropBlanks rest = label := by
      rw [← List.takeWhile_append_dropWhile (p := isInLine) (l := dropBlanks rest), ending,
        Option.some.inj line, List.append_nil]
    have parts : after ++ label = (front ++ ':' :: blanks) ++ label :=
      calc after ++ label
          = front ++ ':' :: rest := colon ▸ first
        _ = front ++ ':' :: (blanks ++ label) := by rw [← whole, ← second]
        _ = (front ++ ':' :: blanks) ++ label := by rw [List.append_assoc, List.cons_append]
    have start : dropBlanks (front ++ ':' :: blanks) = ':' :: blanks := dropBlanks_append hf rfl
    have none_left : dropBlanks blanks = [] := dropWhile_eq_nil hb
    simp only [List.append_cancel_right parts, labelBehind, start, none_left, List.takeWhile_nil,
      List.dropWhile_nil]
  · cases h

/-- Where no word stands behind a gap there is no target. -/
theorem readTarget?_eq_none_iff {text : List Char} :
    readTarget? text = none ↔
      (skipCardinality (dropBlanks text)).head?.any isWord = false := by
  rw [readTarget?_eq_map, Option.map_eq_none_iff]
  constructor
  · intro none
    by_contra letter
    obtain ⟨word, rest, read⟩ := exists_readWord? (Bool.not_eq_false _ ▸ letter)
    rw [none] at read
    cases read
  · exact readWord?_eq_none

/-- In a continued text no target is lost. -/
theorem readTarget?_eq_none_of_append (h : readTarget? (p ++ x) = none) : readTarget? p = none := by
  rw [readTarget?_eq_none_iff] at h ⊢
  rcases skipGap_append p x with more | ⟨quote, -⟩
  · rw [more] at h
    cases gap : skipCardinality (dropBlanks p) with
    | nil => rfl
    | cons c rest =>
      rw [gap] at h
      exact h
  · exact any_head?_of_all_quote quote (by decide)

/-- A label with what is left after it is the end of the text, behind the target. -/
theorem readTarget?_label_suffix {text target left : List Char} {label : Option (List Char)}
    (h : readTarget? text = some (target, label, left)) :
    label.getD [] ++ left <:+ text ∧ (label.getD [] ++ left).length < text.length := by
  rw [readTarget?_eq_map, Option.map_eq_some_iff] at h
  obtain ⟨⟨word, rest⟩, read, same⟩ := h
  obtain ⟨rfl, ending⟩ := Prod.mk.inj same
  have suffix := labelBehind_suffix rest
  rw [ending] at suffix
  have gap : skipCardinality (dropBlanks text) <:+ text :=
    (skipCardinality_suffix _).trans (List.dropWhile_suffix isBlank)
  refine ⟨(suffix.trans (readWord?_suffix read)).trans gap, ?_⟩
  calc (label.getD [] ++ left).length
      ≤ rest.length := suffix.length_le
    _ < (skipCardinality (dropBlanks text)).length := consumes_readWord?.length_lt read
    _ ≤ text.length := gap.length_le

/-- If the end of a text is cut off behind a target, or in the label behind it, the same target is
read. -/
theorem readTarget?_front {target left : List Char} {label : Option (List Char)}
    (h : readTarget? (p ++ x) = some (target, label, left)) (behind : x <:+ label.getD [] ++ left) :
    ∃ after, labelBehind (after ++ x) = (label, left) ∧
      readTarget? p = some (target, labelBehind after) := by
  rw [readTarget?_eq_map, Option.map_eq_some_iff] at h
  obtain ⟨⟨word, rest⟩, read, same⟩ := h
  obtain ⟨rfl, ending⟩ := Prod.mk.inj same
  have suffix := labelBehind_suffix rest
  rw [ending] at suffix
  obtain ⟨after, rfl⟩ := behind.trans suffix
  refine ⟨after, ending, ?_⟩
  rcases skipGap_append p x with more | ⟨-, short⟩
  · rw [more] at read
    rw [readTarget?_eq_map, readWord?_front read]
    rfl
  · -- A word and `x` are more than `x`.
    have some_word := List.length_pos_of_ne_nil (isName_of_readWord? read).1
    rw [readWord?_parts read, List.length_append, List.length_append] at short
    omega

/-! ## Links -/

/-- A continued text begins as it did. -/
theorem isPrefixOf?_append {marker rest : List Char} (h : marker.isPrefixOf? p = some rest) :
    marker.isPrefixOf? (p ++ x) = some (rest ++ x) := by
  rw [List.isPrefixOf?_eq_some_iff_append_eq] at h ⊢
  rw [← h, List.append_assoc]

/-- In a continued text no link with a given marker is lost. -/
theorem readMarked?_eq_none_of_append {source : List Char} {marker : String}
    (h : readMarked? source (p ++ x) marker = none) : readMarked? source p marker = none := by
  unfold readMarked? at h ⊢
  cases start : marker.toList.isPrefixOf? p with
  | none => rfl
  | some rest =>
    rw [isPrefixOf?_append start] at h
    simp only [Option.map_eq_none_iff] at h ⊢
    exact readTarget?_eq_none_of_append h

/-- No marker is empty or begins with a quote. -/
theorem exists_marker_cons {marker : String} (hm : marker ∈ Link.markers) :
    ∃ m tail, marker.toList = m :: tail ∧ m ≠ '"' := by
  have all : ∀ marker ∈ Link.markers, '"' ∉ marker.toList := by decide
  obtain ⟨m, tail, shape⟩ := List.exists_cons_of_ne_nil (marker_dark hm).1
  refine ⟨m, tail, shape, ?_⟩
  rintro rfl
  exact all marker hm (shape ▸ List.mem_cons_self)

/-- What is behind a text is behind its blanks and its cardinality if a marker follows these. -/
theorem skipGap_append_of_marker {marker : String} (hm : marker ∈ Link.markers) {rest : List Char}
    (h : marker.toList ++ rest = skipCardinality (dropBlanks p)) (x : List Char) :
    skipCardinality (dropBlanks (p ++ x)) = skipCardinality (dropBlanks p) ++ x := by
  obtain ⟨m, tail, shape, quote⟩ := exists_marker_cons hm
  refine (skipGap_append p x).resolve_right fun reaching => ?_
  rw [← h, shape] at reaching
  exact quote (by simpa using reaching.1)

/-- In a continued text no link is lost. -/
theorem readLink?_eq_none_of_append (h : readLink? (p ++ x) = none) : readLink? p = none := by
  cases read : readLink? p with
  | none => rfl
  | some result =>
    obtain ⟨link, left⟩ := result
    obtain ⟨after, rest, word, hm, marked, target⟩ := readLink?_eq_some read
    have ended : after ≠ [] := by
      rintro rfl
      exact (marker_dark hm).1 (List.append_eq_nil_iff.mp marked).1
    have missed : readMarked? link.source (skipCardinality (dropBlanks after)) link.marker =
        none := by
      simp only [readLink?, readWord?_longer word ended,
        skipGap_append_of_marker hm marked x] at h
      exact readMarked?_eq_none_of_append (List.findSome?_eq_none_iff.mp h _ hm)
    have found : link.marker.toList.isPrefixOf? (skipCardinality (dropBlanks after)) =
        some rest := List.isPrefixOf?_eq_some_iff_append_eq.mpr marked
    simp [readMarked?, found, target] at missed

/-- The label of a link with what is left after it is the end of the text, behind the marker. -/
theorem readMarked?_label_suffix {source text left : List Char} {marker : String} {link : LinkText}
    (h : readMarked? source text marker = some (link, left)) :
    link.label.getD [] ++ left <:+ text ∧
      (link.label.getD [] ++ left).length < text.length := by
  unfold readMarked? at h
  cases start : marker.toList.isPrefixOf? text with
  | none => simp [start] at h
  | some rest =>
    simp only [start, Option.map_eq_some_iff] at h
    obtain ⟨⟨target, label, behind⟩, read, same⟩ := h
    cases same
    have outer : rest <:+ text := ⟨_, List.append_eq_of_isPrefixOf?_eq_some start⟩
    obtain ⟨inner, short⟩ := readTarget?_label_suffix read
    exact ⟨inner.trans outer, short.trans_le outer.length_le⟩

/-- If the end of a text is cut off behind the target of a link with a given marker, or in its
label, the same link is read up to its label. -/
theorem readMarked?_front {source left : List Char} {marker : String} {link : LinkText}
    (h : readMarked? source (p ++ x) marker = some (link, left))
    (behind : x <:+ link.label.getD [] ++ left) :
    ∃ after, labelBehind (after ++ x) = (link.label, left) ∧
      readMarked? source p marker =
        some ({ link with label := (labelBehind after).1 }, (labelBehind after).2) := by
  unfold readMarked? at h ⊢
  cases start : marker.toList.isPrefixOf? (p ++ x) with
  | none => simp [start] at h
  | some rest =>
    simp only [start, Option.map_eq_some_iff] at h
    obtain ⟨⟨target, label, left'⟩, read, same⟩ := h
    cases same
    have parts := List.append_eq_of_isPrefixOf?_eq_some start
    have within : x <:+ rest := behind.trans (readTarget?_label_suffix read).1
    obtain ⟨rest, rfl⟩ := within
    rw [← List.append_assoc] at parts
    have first : marker.toList.isPrefixOf? p = some rest :=
      List.isPrefixOf?_eq_some_iff_append_eq.mpr (List.append_cancel_right parts)
    obtain ⟨after, ending, front⟩ := readTarget?_front read behind
    refine ⟨after, ending, ?_⟩
    simp only [first, front, Option.map_some]

/-- If the end of a text is cut off behind the target of a link, or in its label, the same link is
read up to its label. -/
theorem readLink?_front {left : List Char} {link : LinkText}
    (h : readLink? (p ++ x) = some (link, left)) (behind : x <:+ link.label.getD [] ++ left) :
    ∃ after, labelBehind (after ++ x) = (link.label, left) ∧
      readLink? p = some ({ link with label := (labelBehind after).1 }, (labelBehind after).2) := by
  unfold readLink? at h
  cases word : readWord? (p ++ x) with
  | none => simp [word] at h
  | some result =>
    obtain ⟨source, rest⟩ := result
    simp only [word] at h
    obtain ⟨earlier, marker, later, order, found, missed⟩ := List.findSome?_eq_some_iff.mp h
    obtain ⟨inner, short⟩ := readMarked?_label_suffix found
    have gap : skipCardinality (dropBlanks rest) <:+ rest :=
      (skipCardinality_suffix _).trans (List.dropWhile_suffix isBlank)
    obtain ⟨rest, rfl⟩ := (behind.trans inner).trans gap
    have more : skipCardinality (dropBlanks (rest ++ x)) =
        skipCardinality (dropBlanks rest) ++ x := by
      refine (skipGap_append rest x).resolve_right fun reaching => ?_
      have := behind.length_le
      omega
    rw [more] at found missed
    obtain ⟨after, ending, cut⟩ := readMarked?_front found behind
    refine ⟨after, ending, ?_⟩
    simp only [readLink?, readWord?_front word]
    exact List.findSome?_eq_some_iff.mpr ⟨earlier, marker, later, order, cut,
      fun other member => readMarked?_eq_none_of_append (missed other member)⟩

/-- If what comes after a link without a label is cut off, the link is the same. -/
theorem readLink?_front_plain {left : List Char} {link : LinkText}
    (h : readLink? (p ++ x) = some (link, left ++ x)) (plain : link.label = none) :
    readLink? p = some (link, left) := by
  obtain ⟨after, ending, front⟩ := readLink?_front h (by rw [plain]; exact List.suffix_append _ _)
  rw [plain] at ending
  rw [front, labelBehind_plain ending, ← plain]

/-- If the label of a link is cut off, the link has an empty label. -/
theorem readLink?_front_label {label : List Char} {link : LinkText}
    (h : readLink? (p ++ label) = some (link, [])) (labelled : link.label = some label) :
    readLink? p = some ({ link with label := some [] }, []) := by
  obtain ⟨after, ending, front⟩ := readLink?_front h (by simp [labelled])
  rw [labelled] at ending
  rw [front, labelBehind_label ending]

end DiagramDiff.Mermaid
