import DiagramDiff.Proofs.Mermaid.LabelText
import DiagramDiff.Proofs.Mermaid.LinkEnds

/-!
# Blank labels

Blanking the labels of a text changes no position of it: every character stays where it is, or lies
in a label and becomes a space (`blanked_blankLabels`).

In the text with blank labels the same links are found, without their labels
(`textLinks_blankLabels`). A blank label is white space at the end of its line, so the links of the
line are those of the line with the label cut off (`CutAtLabel`), and what is cut off behind a link
or in its label does not change the link. That a line may be so cut is shown along the search for
links, one lemma a step (`CutAtLabel.cons`, `.word`, `.plain`, `.labelled`). It follows that a
second blanking finds nothing to blank.
-/

namespace DiagramDiff

/-- A link without its label. -/
def Link.unlabelled (l : Link) : Link := { l with label := "" }

end DiagramDiff

namespace DiagramDiff.Mermaid

open Text

/-! ## Labels in their places -/

/-- A label of a text in its place. -/
structure PlacedLabel where
  /-- The number of characters in front of it. -/
  start : Nat
  /-- Its characters. -/
  chars : List Char
  deriving DecidableEq, Repr

namespace PlacedLabel

/-- Whether a position lies in the label. -/
def Covers (l : PlacedLabel) (i : Nat) : Prop := l.start ≤ i ∧ i < l.start + l.chars.length

/-- The label with more characters in front. -/
def behind (count : Nat) (l : PlacedLabel) : PlacedLabel := { l with start := count + l.start }

end PlacedLabel

/-- The label of a link of a text of the given length. -/
def PlacedLink.label? (length : Nat) (m : PlacedLink) : Option PlacedLabel :=
  m.found.label.map fun label => ⟨length - (label.length + m.after.length), label⟩

/-- The labels of a text in their places, from first to last. -/
def placedLabels (text : List Char) : List PlacedLabel :=
  (placedLinks text).filterMap (PlacedLink.label? text.length)

/-- A label stands in front of what comes after its link. -/
theorem exists_front_of_mem_placedLinks {text label : List Char} {m : PlacedLink}
    (hm : m ∈ placedLinks text) (hl : m.found.label = some label) :
    ∃ front, text = front ++ (label ++ m.after) := by
  obtain ⟨suffix, rest, ⟨front, rfl⟩, read⟩ := exists_of_mem_finds_atWordStart hm
  obtain ⟨⟨link, left⟩, found, same⟩ := Option.map_eq_some_iff.mp read
  cases same
  obtain ⟨more, rfl, -⟩ := exists_isLabelAt found hl
  exact ⟨front ++ more, (List.append_assoc _ _ _).symm⟩

/-- The characters of a label are those of the text in its place. -/
theorem isPrefix_of_mem_placedLabels {text : List Char} {l : PlacedLabel}
    (hl : l ∈ placedLabels text) : l.chars <+: text.drop l.start := by
  obtain ⟨m, hm, found⟩ := List.mem_filterMap.mp hl
  obtain ⟨label, labelled, rfl⟩ := Option.map_eq_some_iff.mp found
  obtain ⟨front, rfl⟩ := exists_front_of_mem_placedLinks hm labelled
  refine ⟨m.after, ?_⟩
  rw [List.length_append, List.length_append, Nat.add_sub_cancel, List.drop_left]

/-- With more text in front, labels have as many characters more in front. -/
theorem filterMap_label?_append (front rest : List Char) :
    (placedLinks rest).filterMap (PlacedLink.label? (front ++ rest).length) =
      (placedLabels rest).map (PlacedLabel.behind front.length) := by
  rw [placedLabels, List.map_filterMap]
  refine List.filterMap_congr fun m hm => ?_
  cases hl : m.found.label with
  | none => simp [PlacedLink.label?, hl]
  | some label =>
    obtain ⟨more, parts⟩ := exists_front_of_mem_placedLinks hm hl
    have count : front.length + rest.length - (label.length + m.after.length) =
        front.length + (rest.length - (label.length + m.after.length)) := by
      have lengths := congrArg List.length parts
      simp only [List.length_append] at lengths
      omega
    simp [PlacedLink.label?, hl, PlacedLabel.behind, count]

/-- Labels are found behind a character between words. -/
theorem placedLabels_cons {c : Char} (hc : isWord c = false) (rest : List Char) :
    placedLabels (c :: rest) = (placedLabels rest).map (PlacedLabel.behind 1) := by
  rw [placedLabels, placedLinks_cons hc]
  exact filterMap_label?_append [c] rest

/-- Labels are found behind a word at which no link begins. -/
theorem placedLabels_word {word rest : List Char} (hw : IsName word)
    (hrest : rest.head?.any isWord = false) (h : readLink? (word ++ rest) = none) :
    placedLabels (word ++ rest) = (placedLabels rest).map (PlacedLabel.behind word.length) := by
  rw [placedLabels, placedLinks_word hw hrest h, filterMap_label?_append]

/-- Labels are found behind a link without a label. -/
theorem placedLabels_plain {used left : List Char} {link : LinkText}
    (h : readLink? (used ++ left) = some (link, left)) (hl : link.label = none) :
    placedLabels (used ++ left) = (placedLabels left).map (PlacedLabel.behind used.length) := by
  have unlabelled : PlacedLink.label? (used ++ left).length ⟨link, left⟩ = none := by
    rw [PlacedLink.label?, hl]
    rfl
  rw [placedLabels, placedLinks_found h, List.filterMap_cons_none unlabelled,
    filterMap_label?_append]

/-- The label of a link is found at its end, and others behind it. -/
theorem placedLabels_labelled {front label left : List Char} {link : LinkText}
    (h : readLink? (front ++ label ++ left) = some (link, left)) (hl : link.label = some label) :
    placedLabels (front ++ label ++ left) = ⟨front.length, label⟩ ::
      (placedLabels left).map (PlacedLabel.behind (front ++ label).length) := by
  have start : (front ++ label ++ left).length - (label.length + left.length) = front.length := by
    simp only [List.length_append]
    omega
  have labelled : PlacedLink.label? (front ++ label ++ left).length ⟨link, left⟩ =
      some ⟨front.length, label⟩ := by
    rw [PlacedLink.label?, hl, Option.map_some, start]
  rw [placedLabels, placedLinks_found h, List.filterMap_cons_some labelled,
    filterMap_label?_append]

/-! ## What blanking does to each position -/

/-- A text written with some labels blank: every character stays as it is or lies in a label and is
a space, and there is nothing but spaces in the place of a label that is more than white space. -/
structure Blanked (text blank : List Char) (labels : List PlacedLabel) : Prop where
  /-- There are as many characters. -/
  length_eq : blank.length = text.length
  /-- Line feeds stay. -/
  feeds : ∀ i : Nat, text[i]? = some '\n' → blank[i]? = some '\n'
  /-- Labels are blank. -/
  inside : ∀ label ∈ labels, trim label.chars ≠ [] →
    ∀ i : Nat, label.Covers i → blank[i]? = some ' '
  /-- What differs is a space in a label. -/
  outside : ∀ i : Nat, blank[i]? ≠ text[i]? →
    blank[i]? = some ' ' ∧ ∃ label ∈ labels, label.Covers i

namespace Blanked

variable {text blank more more' : List Char} {labels others : List PlacedLabel}

/-- A text may stay as it is. -/
theorem refl (text : List Char) : Blanked text text [] :=
  ⟨rfl, fun _ feed => feed, by simp, fun _ other => absurd rfl other⟩

/-- One text after the other is blanked. -/
theorem append (h : Blanked text blank labels) (h' : Blanked more more' others) :
    Blanked (text ++ more) (blank ++ more')
      (labels ++ others.map (PlacedLabel.behind text.length)) := by
  have first : ∀ {i : Nat}, i < text.length → (blank ++ more')[i]? = blank[i]? ∧
      (text ++ more)[i]? = text[i]? := fun hi =>
    ⟨List.getElem?_append_left (h.length_eq ▸ hi), List.getElem?_append_left hi⟩
  have second : ∀ {i : Nat}, text.length ≤ i → (blank ++ more')[i]? = more'[i - text.length]? ∧
      (text ++ more)[i]? = more[i - text.length]? := fun hi =>
    ⟨h.length_eq ▸ List.getElem?_append_right (h.length_eq ▸ hi), List.getElem?_append_right hi⟩
  refine ⟨?_, fun i feed => ?_, fun label hl spoken i covers => ?_, fun i other => ?_⟩
  · rw [List.length_append, List.length_append, h.length_eq, h'.length_eq]
  · rcases Nat.lt_or_ge i text.length with hi | hi
    · rw [(first hi).2] at feed
      rw [(first hi).1, h.feeds i feed]
    · rw [(second hi).2] at feed
      rw [(second hi).1, h'.feeds _ feed]
  · rcases List.mem_append.mp hl with hl | hl
    · have blank_here := h.inside label hl spoken i covers
      have hi : i < blank.length := (List.getElem?_eq_some_iff.mp blank_here).1
      rw [(first (h.length_eq ▸ hi)).1, blank_here]
    · obtain ⟨original, hm, rfl⟩ := List.mem_map.mp hl
      obtain ⟨low, high⟩ := covers
      simp only [PlacedLabel.behind] at low high spoken
      have hi : text.length ≤ i := by omega
      rw [(second hi).1]
      apply h'.inside original hm spoken
      constructor <;> omega
  · rcases Nat.lt_or_ge i text.length with hi | hi
    · rw [(first hi).1, (first hi).2] at other
      obtain ⟨space, label, hl, covers⟩ := h.outside i other
      exact ⟨(first hi).1.trans space, label, List.mem_append_left _ hl, covers⟩
    · rw [(second hi).1, (second hi).2] at other
      obtain ⟨space, label, hl, low, high⟩ := h'.outside _ other
      refine ⟨(second hi).1.trans space, label.behind text.length,
        List.mem_append_right _ (List.mem_map_of_mem hl), ?_⟩
      simp only [PlacedLabel.Covers, PlacedLabel.behind]
      omega

/-- More text may stand in front. -/
theorem append_left (h : Blanked text blank labels) (front : List Char) :
    Blanked (front ++ text) (front ++ blank) (labels.map (PlacedLabel.behind front.length)) :=
  (refl front).append h

/-- A label on one line may become as many spaces. -/
theorem spaces {label : List Char} (feed : '\n' ∉ label) :
    Blanked label (List.replicate label.length ' ') [⟨0, label⟩] := by
  have space : ∀ {i : Nat}, i < label.length → (List.replicate label.length ' ')[i]? = some ' ' :=
    fun hi => by simp [hi]
  refine ⟨List.length_replicate, fun i at_feed => ?_, fun l hl _ i covers => ?_, fun i other => ?_⟩
  · exact absurd (List.mem_of_getElem? at_feed) feed
  · obtain rfl := List.mem_singleton.mp hl
    exact space (by simpa using covers.2)
  · have hi : i < label.length := by
      by_contra beyond
      apply other
      rw [List.getElem?_eq_none (by simpa using beyond), List.getElem?_eq_none (by omega)]
    exact ⟨space hi, _, List.mem_singleton_self _, Nat.zero_le i, by simpa using hi⟩

/-- A label of white space may stay. -/
theorem white {label : List Char} (empty : trim label = []) : Blanked label label [⟨0, label⟩] := by
  refine ⟨rfl, fun _ feed => feed, fun l hl spoken => ?_, fun _ other => absurd rfl other⟩
  obtain rfl := List.mem_singleton.mp hl
  exact absurd empty spoken

end Blanked

/-- A link with a label is blanked at its label. -/
theorem blanked_link {link : LinkText} {front label : List Char} (hl : link.label = some label)
    (feed : '\n' ∉ label) :
    Blanked (front ++ label) (link.blanked (front ++ label)) [⟨front.length, label⟩] := by
  have chars : (front ++ label).take ((front ++ label).length - label.length) = front := by
    rw [List.length_append, Nat.add_sub_cancel, List.take_left]
  simp only [LinkText.blanked, hl, chars]
  split
  · next empty => exact (Blanked.white (List.isEmpty_iff.mp empty)).append_left front
  · exact (Blanked.spaces feed).append_left front

/-- A link without a label stays as it is. -/
theorem blanked_unlabelled {link : LinkText} (hl : link.label = none) (used : List Char) :
    link.blanked used = used := by
  simp only [LinkText.blanked, hl]

/-- Where no link begins there is nothing to blank. -/
theorem readBlanked?_eq_none {text : List Char} (h : readLink? text = none) :
    readBlanked? text = none := by
  rw [readBlanked?, h]
  rfl

/-- Blanking the labels of a text makes spaces of them and leaves every other character as it is. -/
theorem blanked_blankLabels (text : List Char) :
    Blanked text (blankLabels text) (placedLabels text) := by
  induction text using scan_induction endsWord_readLink? with
  | nil => exact Blanked.refl []
  | gap c rest hc ih =>
    rw [blankLabels_gap hc, placedLabels_cons hc]
    exact ih.append_left [c]
  | word word rest hw hrest none ih =>
    rw [blankLabels_word hw hrest (readBlanked?_eq_none none), placedLabels_word hw hrest none]
    exact ih.append_left word
  | found text link left read ih =>
    cases hl : link.label with
    | none =>
      obtain ⟨used, -, rfl⟩ := consumes_readLink? read
      rw [blankLabels_used read, blanked_unlabelled hl, placedLabels_plain read hl]
      exact ih.append_left used
    | some label =>
      obtain ⟨front, rfl, place⟩ := exists_isLabelAt read hl
      rw [← List.append_assoc] at read ⊢
      rw [blankLabels_used read, placedLabels_labelled read hl]
      exact (blanked_link hl place.feed).append ih

/-! ## The links of a text with blank labels -/

/-- Between words there are no links. -/
theorem textLinks_gap {c : Char} (hc : isWord c = false) (rest : List Char) :
    textLinks (c :: rest) = textLinks rest := by
  rw [textLinks, linkTexts_cons hc]
  rfl

/-- A word at which no link begins holds none. -/
theorem textLinks_word {word rest : List Char} (hw : IsName word)
    (hrest : rest.head?.any isWord = false) (h : readLink? (word ++ rest) = none) :
    textLinks (word ++ rest) = textLinks rest := by
  rw [textLinks, linkTexts_word hw hrest h]
  rfl

/-- The link a text starts with is the first. -/
theorem textLinks_found {text left : List Char} {link : LinkText}
    (h : readLink? text = some (link, left)) :
    textLinks text = link.link :: textLinks left := by
  rw [textLinks, linkTexts_found h]
  rfl

/-- A line may be cut at the label of its last link: with the label blank there is white space
behind the cut, and in front of it are the links of the line, without labels. -/
structure CutAtLabel (line front : List Char) : Prop where
  /-- The line goes on behind the cut, and not from its start on. -/
  parts : ∃ label, line = front ++ label ∧ (front = [] → label = [])
  /-- What is behind the cut is blanked. -/
  blank : ∃ white, IsWhite white ∧ blankLabels line = front ++ white
  /-- The links stand in front of the cut. -/
  links : textLinks front = (textLinks line).map Link.unlabelled

namespace CutAtLabel

variable {line front : List Char} {link : LinkText}

/-- A character between words may stand in front. -/
theorem cons (h : CutAtLabel line front) {c : Char} (hc : isWord c = false) :
    CutAtLabel (c :: line) (c :: front) := by
  obtain ⟨⟨label, rfl, -⟩, ⟨white, hw, blank⟩, links⟩ := h
  refine ⟨⟨label, rfl, fun empty => by cases empty⟩, ⟨white, hw, ?_⟩, ?_⟩
  · rw [blankLabels_gap hc, blank]
    rfl
  · rw [textLinks_gap hc, textLinks_gap hc, links]

/-- A word at which no link begins may stand in front: none begins there if the line is cut. -/
theorem word (h : CutAtLabel line front) {word : List Char} (hw : IsName word)
    (hrest : line.head?.any isWord = false) (none : readLink? (word ++ line) = none) :
    CutAtLabel (word ++ line) (word ++ front) := by
  obtain ⟨⟨label, rfl, start⟩, ⟨white, hwhite, blank⟩, links⟩ := h
  have head : front.head?.any isWord = false := by
    cases front with
    | nil => rfl
    | cons c front => exact hrest
  have shorter : readLink? (word ++ front) = Option.none := by
    rw [← List.append_assoc] at none
    exact readLink?_eq_none_of_append none
  refine ⟨⟨label, (List.append_assoc _ _ _).symm, fun empty => ?_⟩, ⟨white, hwhite, ?_⟩, ?_⟩
  · exact absurd (List.append_eq_nil_iff.mp empty).1 hw.1
  · rw [blankLabels_word hw hrest (readBlanked?_eq_none none), blank, List.append_assoc]
  · rw [textLinks_word hw head shorter, textLinks_word hw hrest none, links]

/-- A link without a label may stand in front: it is the same link if the line is cut. -/
theorem plain (h : CutAtLabel line front) {used : List Char} (nonempty : used ≠ [])
    (read : readLink? (used ++ line) = some (link, line)) (hl : link.label = none) :
    CutAtLabel (used ++ line) (used ++ front) := by
  obtain ⟨⟨label, rfl, start⟩, ⟨white, hw, blank⟩, links⟩ := h
  have shorter : readLink? (used ++ front) = some (link, front) := by
    rw [← List.append_assoc] at read
    exact readLink?_front_plain read hl
  have same : link.link.unlabelled = link.link := by
    simp [Link.unlabelled, LinkText.link, hl]
  refine ⟨⟨label, (List.append_assoc _ _ _).symm, fun empty => ?_⟩, ⟨white, hw, ?_⟩, ?_⟩
  · exact absurd (List.append_eq_nil_iff.mp empty).1 nonempty
  · rw [blankLabels_used read, blanked_unlabelled hl, blank, List.append_assoc]
  · rw [textLinks_found shorter, textLinks_found read, List.map_cons, same, links]

/-- A link whose label is the end of the line is cut at its label. -/
theorem labelled {label : List Char} (nonempty : front ≠ [])
    (read : readLink? (front ++ label) = some (link, [])) (hl : link.label = some label) :
    CutAtLabel (front ++ label) front := by
  obtain ⟨white, hw, blank⟩ := @blankLabels_label front [] label [] link
    (by rw [List.nil_append, List.append_nil, read]) hl .nil
  have empty : blankLabels [] = [] := rfl
  have shorter := readLink?_front_label read hl
  have same : LinkText.link { link with label := some [] } = link.link.unlabelled := rfl
  refine ⟨⟨label, rfl, fun start => absurd start nonempty⟩, ⟨white, hw, ?_⟩, ?_⟩
  · simpa only [List.nil_append, empty, List.append_nil] using blank
  · rw [textLinks_found shorter, textLinks_found read, List.map_cons, same]
    rfl

end CutAtLabel

/-- Every line may be cut at the label of its last link. -/
theorem exists_cutAtLabel {line : List Char} (hl : '\n' ∉ line) :
    ∃ front, CutAtLabel line front := by
  induction line using scan_induction endsWord_readLink? with
  | nil => exact ⟨[], ⟨[], rfl, fun _ => rfl⟩, ⟨[], .nil, rfl⟩, rfl⟩
  | gap c rest hc ih =>
    obtain ⟨front, cut⟩ := ih fun feed => hl (List.mem_cons_of_mem c feed)
    exact ⟨c :: front, cut.cons hc⟩
  | word word rest hw hrest none ih =>
    obtain ⟨front, cut⟩ := ih fun feed => hl (List.mem_append_right word feed)
    exact ⟨word ++ front, cut.word hw hrest none⟩
  | found text link left read ih =>
    cases labelled : link.label with
    | none =>
      obtain ⟨used, nonempty, rfl⟩ := consumes_readLink? read
      obtain ⟨front, cut⟩ := ih fun feed => hl (List.mem_append_right used feed)
      exact ⟨used ++ front, cut.plain nonempty read labelled⟩
    | some label =>
      obtain ⟨front, rfl, place⟩ := exists_isLabelAt read labelled
      -- A label reaches to the end of the line.
      obtain rfl : left = [] := by
        cases left with
        | nil => rfl
        | cons c left =>
          obtain rfl : c = '\n' := by simpa using place.line
          exact absurd (by simp) hl
      rw [List.append_nil] at read ⊢
      exact ⟨front, .labelled place.ended.ne_nil read labelled⟩

/-- In a line with blank labels the same links are found, without their labels. -/
theorem textLinks_blankLabels_of_line {line : List Char} (hl : '\n' ∉ line) :
    textLinks (blankLabels line) = (textLinks line).map Link.unlabelled := by
  obtain ⟨front, -, ⟨white, hw, blank⟩, links⟩ := exists_cutAtLabel hl
  have relaid : Relaid (front ++ white) (front ++ []) := (Relaid.ending hw .nil).append_left front
  rw [blank, textLinks_relaid relaid, List.append_nil, links]

/-- In a text with blank labels the same links are found, without their labels. -/
theorem textLinks_blankLabels (text : List Char) :
    textLinks (blankLabels text) = (textLinks text).map Link.unlabelled := by
  induction text using lines_induction with
  | last line hl => exact textLinks_blankLabels_of_line hl
  | line line rest hl ih =>
    rw [blankLabels_line, textLinks_line, textLinks_line, List.map_append, ih,
      textLinks_blankLabels_of_line hl]

/-! ## Blanking twice -/

/-- If no link of a text has a label, there is nothing to blank. -/
theorem blankLabels_of_unlabelled {text : List Char} (h : ∀ l ∈ textLinks text, l.label = "") :
    blankLabels text = text := by
  induction text using scan_induction endsWord_readLink? with
  | nil => rfl
  | gap c rest hc ih =>
    rw [textLinks_gap hc] at h
    rw [blankLabels_gap hc, ih h]
  | word word rest hw hrest none ih =>
    rw [textLinks_word hw hrest none] at h
    rw [blankLabels_word hw hrest (readBlanked?_eq_none none), ih h]
  | found text link left read ih =>
    rw [textLinks_found read, List.forall_mem_cons] at h
    obtain ⟨used, -, rfl⟩ := consumes_readLink? read
    have kept : link.blanked used = used := by
      cases labelled : link.label with
      | none => exact blanked_unlabelled labelled used
      | some label =>
        have empty : trim label = [] := by simpa [LinkText.link, labelled] using h.1
        simp [LinkText.blanked, labelled, empty]
    rw [blankLabels_used read, kept, ih h.2]

/-- Blanking the labels of a text keeps the number of its characters and the places of its line
feeds. It changes characters only in labels and into spaces, and makes spaces of every label that
is more than white space. Done twice it does no more than done once, and what is left are the links
of the text, each with an empty label. -/
theorem blankLabels_keeps (text : List Char) :
    (blankLabels text).length = text.length ∧
      (∀ i : Nat, (blankLabels text)[i]? = some '\n' ↔ text[i]? = some '\n') ∧
      (∀ i : Nat, (blankLabels text)[i]? ≠ text[i]? →
        (blankLabels text)[i]? = some ' ' ∧ ∃ label ∈ placedLabels text, label.Covers i) ∧
      (∀ label ∈ placedLabels text, trim label.chars ≠ [] →
        ∀ i : Nat, label.Covers i → (blankLabels text)[i]? = some ' ') ∧
      blankLabels (blankLabels text) = blankLabels text ∧
      textLinks (blankLabels text) = (textLinks text).map Link.unlabelled := by
  have places := blanked_blankLabels text
  have links := textLinks_blankLabels text
  refine ⟨places.length_eq, fun i => ⟨fun feed => ?_, places.feeds i⟩, places.outside,
    places.inside, blankLabels_of_unlabelled ?_, links⟩
  · by_contra other
    have space := (places.outside i (feed ▸ Ne.symm other)).1
    rw [feed] at space
    cases space
  · intro l hl
    rw [links] at hl
    obtain ⟨original, -, rfl⟩ := List.mem_map.mp hl
    rfl

end DiagramDiff.Mermaid
