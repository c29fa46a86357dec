import DiagramDiff.Mermaid.Reader
import DiagramDiff.Proofs.Mermaid.ClassLayout
import DiagramDiff.Proofs.Mermaid.Comments
import DiagramDiff.Proofs.Mermaid.LabelPlaces

/-!
# Labels are free text

No label has a part in what is read of a text but to be a label. If the label of one link is
exchanged for another text on one line, the same classes are read and the same links, but for that
label (`ofText_relabelled`). This holds of every text and of the label of each of its links: what
follows the label does not matter, nor does it matter where the link stands; it may stand in the
body of a class. Quotes are excepted in both labels, because a cardinality in front of the
label may have an open quote.

The proof follows the search for links over the text: a label may be exchanged at its link
(`IsLabelAt.exchangeable`), and also if a character between words, a word or another link is put in
front (`Exchangeable.cons`, `Exchangeable.word`, `Exchangeable.link`), so it may be exchanged in
every text (`exchangeable_of_placedLinks`). The classes are read of the texts with blank labels,
which are relaid. That a line is a comment or an annotation is not decided by a label either
(`stripComments_exchange`, `tagLines_exchange`).
-/

namespace DiagramDiff.Mermaid

open Text

/-! ## Links with what comes after them -/

/-- A link of a text and the text after it. -/
structure PlacedLink where
  /-- The link. -/
  found : LinkText
  /-- The text after it. -/
  after : List Char
  deriving DecidableEq

/-- The link a text starts with, together with the text after it. -/
def readPlaced? (text : List Char) : Option (PlacedLink × List Char) :=
  (readLink? text).map fun (link, after) => (⟨link, after⟩, after)

/-- The links of a text, each with the text after it. -/
def placedLinks (text : List Char) : List PlacedLink := finds (atWordStart readPlaced?) text

/-- A link with the text after it begins with a word. -/
theorem wordLed_readPlaced? : WordLed readPlaced? := by
  intro text h
  rw [readPlaced?, wordLed_readLink? h]
  rfl

/-- No word goes on after a link with the text after it. -/
theorem endsWord_readPlaced? : EndsWord readPlaced? := by
  intro text placed left h
  obtain ⟨⟨link, after⟩, read, same⟩ := Option.map_eq_some_iff.mp h
  cases same
  exact endsWord_readLink? read

/-- The links of a text that starts with one, each with the text after it. -/
theorem placedLinks_found {text left : List Char} {link : LinkText}
    (h : readLink? text = some (link, left)) :
    placedLinks text = ⟨link, left⟩ :: placedLinks left :=
  finds_found wordLed_readPlaced? endsWord_readPlaced? (by rw [readPlaced?, h]; rfl)

/-- Between words there are no links with a text after them. -/
theorem placedLinks_cons {c : Char} (hc : isWord c = false) (rest : List Char) :
    placedLinks (c :: rest) = placedLinks rest :=
  finds_gap wordLed_readPlaced? (by simpa using hc : ∀ d ∈ [c], isWord d = false) rest

/-- A word at which no link begins holds none with a text after it. -/
theorem placedLinks_word {word rest : List Char} (hw : IsName word)
    (hrest : rest.head?.any isWord = false) (h : readLink? (word ++ rest) = none) :
    placedLinks (word ++ rest) = placedLinks rest :=
  finds_word wordLed_readPlaced? hw hrest (by rw [readPlaced?, h]; rfl)

/-- The links with a text after them are the links. -/
theorem map_found_placedLinks (text : List Char) :
    (placedLinks text).map PlacedLink.found = linkTexts text := by
  induction text using scan_induction endsWord_readLink? with
  | nil => rfl
  | gap c rest hc ih => rw [placedLinks_cons hc, linkTexts_cons hc, ih]
  | word word rest hw hrest none ih =>
    rw [placedLinks_word hw hrest none, linkTexts_word hw hrest none, ih]
  | found text link left read ih =>
    rw [placedLinks_found read, linkTexts_found read, List.map_cons, ih]

/-- The label of a link stands in its place. -/
theorem exists_isLabelAt {text left label : List Char} {link : LinkText}
    (h : readLink? text = some (link, left)) (hl : link.label = some label) :
    ∃ front, text = front ++ (label ++ left) ∧ IsLabelAt front label left := by
  obtain ⟨after, rest, word, -, marker, target⟩ := readLink?_eq_some h
  obtain ⟨behind, named, ⟨none, -⟩ | ⟨line, colon, found, rfl⟩⟩ := readTarget?_eq_some target
  · rw [hl] at none
    cases none
  · obtain rfl : label = (dropBlanks line).takeWhile isInLine :=
      Option.some.inj (hl.symm.trans found)
    have marked : rest <:+ skipCardinality (dropBlanks after) := ⟨_, marker⟩
    have outer : rest <:+ text :=
      ((marked.trans (skipCardinality_suffix _)).trans (List.dropWhile_suffix isBlank)).trans
        (readWord?_suffix word)
    have inner : behind <:+ rest :=
      ((readWord?_suffix named).trans (skipCardinality_suffix _)).trans
        (List.dropWhile_suffix isBlank)
    have start : ':' :: line <:+ behind := colon ▸ List.dropWhile_suffix isBlank
    obtain ⟨front, rfl⟩ := (start.trans inner).trans outer
    obtain ⟨blanks, hb, parts⟩ := exists_dropBlanks line
    refine ⟨front ++ ':' :: blanks, ?_, ⟨front, blanks, rfl, hb⟩, ?_,
      head?_dropWhile_isInLine _⟩
    · rw [List.takeWhile_append_dropWhile, List.append_assoc, List.cons_append, ← parts]
    · intro feed
      have stop := List.mem_takeWhile_imp feed
      exact absurd stop (by decide)

/-! ## The search for links -/

/-- A label that may be exchanged for other texts: the links of the text with another label in the
place are known, and with blank labels the text is relaid. -/
structure Exchangeable (front label after : List Char) (links : List Char → List LinkText) :
    Prop where
  /-- The label stands in its place. -/
  place : IsLabelAt front label after
  /-- The links of the text with another label. -/
  linkTexts_eq : ∀ new, '\n' ∉ new → '"' ∉ new → linkTexts (front ++ (new ++ after)) = links new
  /-- The blank labels of the text with another label. -/
  relaid : ∀ new, '\n' ∉ new → '"' ∉ new →
    Relaid (blankLabels (front ++ (label ++ after))) (blankLabels (front ++ (new ++ after)))

/-- Something may stand in front of the place of a label. -/
theorem IsLabelAt.append_left {front label after : List Char} (h : IsLabelAt front label after)
    (used : List Char) : IsLabelAt (used ++ front) label after :=
  ⟨h.ended.append_left used, h.feed, h.line⟩

/-- The label of a link may be exchanged. -/
theorem IsLabelAt.exchangeable {front label after : List Char} {link : LinkText}
    (place : IsLabelAt front label after) (quote : '"' ∉ label)
    (read : readLink? (front ++ (label ++ after)) = some (link, after))
    (hl : link.label = some label) :
    Exchangeable front label after fun new => link.relabel new :: linkTexts after := by
  have exchanged : ∀ new, '\n' ∉ new → '"' ∉ new →
      readLink? (front ++ (new ++ after)) = some (link.relabel new, after) :=
    fun new hn hq => readLink?_exchange_label place quote hn hq read hl
  refine ⟨place, fun new hn hq => linkTexts_found (exchanged new hn hq), fun new hn hq => ?_⟩
  obtain ⟨blanks, hb, parts⟩ := exists_dropBlanks new
  have shape : front ++ (new ++ after) = front ++ (blanks ++ (dropBlanks new ++ after)) := by
    rw [← List.append_assoc blanks, ← parts]
  have read' := exchanged new hn hq
  rw [shape] at read'
  obtain ⟨white, hw, old⟩ := @blankLabels_label front [] label after link read hl IsWhite.nil
  obtain ⟨white', hw', fresh⟩ := blankLabels_label read' rfl
    fun c hc => isWhiteSpace_of_isBlank (hb c hc)
  rw [List.nil_append] at old
  rw [shape, old, fresh]
  exact ((Relaid.refl _).white_append hw hw' (blankLabels_of_head place.line)).append_left front

namespace Exchangeable

variable {front label after : List Char} {links : List Char → List LinkText}

/-- A label may be exchanged behind a character between words. -/
theorem cons (h : Exchangeable front label after links) {c : Char} (hc : isWord c = false) :
    Exchangeable (c :: front) label after links := by
  refine ⟨h.place.append_left [c], fun new hn hq => ?_, fun new hn hq => ?_⟩
  · rw [List.cons_append, linkTexts_cons hc, h.linkTexts_eq new hn hq]
  · rw [List.cons_append, List.cons_append, blankLabels_gap hc, blankLabels_gap hc]
    exact (h.relaid new hn hq).append_left [c]

/-- A label may be exchanged behind a word at which no link begins: with another label none begins
there either. -/
theorem word (h : Exchangeable front label after links) (quote : '"' ∉ label) {word : List Char}
    (hw : IsName word) (hrest : (front ++ (label ++ after)).head?.any isWord = false)
    (none : readLink? (word ++ (front ++ (label ++ after))) = none) :
    Exchangeable (word ++ front) label after links := by
  have place := h.place.append_left word
  have head : ∀ new, (front ++ (new ++ after)).head?.any isWord = false := by
    intro new
    rw [h.place.ended.head?_append] at hrest ⊢
    exact hrest
  have missed : ∀ new, '\n' ∉ new → '"' ∉ new →
      readLink? (word ++ (front ++ (new ++ after))) = Option.none := by
    intro new hn hq
    rw [← List.append_assoc] at none ⊢
    exact readLink?_exchange_none place quote hn hq none
  have blank : ∀ {t : List Char}, readLink? (word ++ t) = Option.none →
      t.head?.any isWord = false → blankLabels (word ++ t) = word ++ blankLabels t :=
    fun missed ht => blankLabels_word hw ht (by rw [readBlanked?, missed]; rfl)
  refine ⟨place, fun new hn hq => ?_, fun new hn hq => ?_⟩
  · rw [List.append_assoc, linkTexts_word hw (head new) (missed new hn hq),
      h.linkTexts_eq new hn hq]
  · rw [List.append_assoc, List.append_assoc, blank none hrest,
      blank (missed new hn hq) (head new)]
    exact (h.relaid new hn hq).append_left word

/-- A label may be exchanged behind a link, which stays the same. -/
theorem link (h : Exchangeable front label after links) (quote : '"' ∉ label) {used : List Char}
    {link : LinkText}
    (read : readLink? (used ++ (front ++ (label ++ after))) =
      some (link, front ++ (label ++ after))) :
    Exchangeable (used ++ front) label after fun new => link :: links new := by
  have same : ∀ new, '\n' ∉ new → '"' ∉ new →
      readLink? (used ++ (front ++ (new ++ after))) = some (link, front ++ (new ++ after)) :=
    fun new hn hq => readLink?_exchange_within h.place quote hn hq read
  refine ⟨h.place.append_left used, fun new hn hq => ?_, fun new hn hq => ?_⟩
  · rw [List.append_assoc, linkTexts_found (same new hn hq), h.linkTexts_eq new hn hq]
  · rw [List.append_assoc, List.append_assoc, blankLabels_used read,
      blankLabels_used (same new hn hq)]
    exact (h.relaid new hn hq).append_left _

end Exchangeable

/-- The label of any link of a text may be exchanged: the links before it and after it stay. -/
theorem exchangeable_of_placedLinks {text label : List Char} {earlier later : List PlacedLink}
    {m : PlacedLink} (hm : placedLinks text = earlier ++ m :: later)
    (hl : m.found.label = some label) (quote : '"' ∉ label) :
    ∃ front, text = front ++ (label ++ m.after) ∧
      Exchangeable front label m.after fun new =>
        earlier.map PlacedLink.found ++ m.found.relabel new :: later.map PlacedLink.found := by
  induction text using scan_induction endsWord_readLink? generalizing earlier with
  | nil => simp [placedLinks] at hm
  | gap c rest hc ih =>
    rw [placedLinks_cons hc] at hm
    obtain ⟨front, rfl, inner⟩ := ih hm
    exact ⟨c :: front, rfl, inner.cons hc⟩
  | word word rest hw hrest none ih =>
    rw [placedLinks_word hw hrest none] at hm
    obtain ⟨front, rfl, inner⟩ := ih hm
    exact ⟨word ++ front, (List.append_assoc _ _ _).symm, inner.word quote hw hrest none⟩
  | found text link left read ih =>
    rw [placedLinks_found read] at hm
    cases earlier with
    | nil =>
      obtain ⟨rfl, rfl⟩ := List.cons.inj hm
      obtain ⟨front, rfl, place⟩ := exists_isLabelAt read hl
      refine ⟨front, rfl, ?_⟩
      rw [map_found_placedLinks]
      exact place.exchangeable quote read hl
    | cons e earlier =>
      obtain ⟨rfl, rest⟩ := List.cons.inj hm
      obtain ⟨front, rfl, inner⟩ := ih rest
      obtain ⟨used, -, rfl⟩ := consumes_readLink? read
      exact ⟨used ++ front, (List.append_assoc _ _ _).symm, inner.link quote read⟩

/-! ## Annotation lines -/

/-- A line with a colon on it is no annotation. -/
theorem tagLines_colon {line after : List Char} (feed : '\n' ∉ line) (colon : ':' ∈ line)
    (ha : after.head?.all (· == '\n') = true) : tagLines (line ++ after) = tagLines after := by
  have nothing : tagLines line = [] :=
    tagLines_of_none feed (readTagLine?_eq_none colon (by decide) (by decide))
  cases after with
  | nil => rw [List.append_nil, nothing]; rfl
  | cons c rest =>
    obtain rfl : c = '\n' := by simpa using ha
    have empty := tagLines_line [] rest
    rw [List.nil_append] at empty
    rw [tagLines_line, nothing, empty]
    rfl

/-- The annotation lines are the same with another label. -/
theorem tagLines_exchange {front label after new : List Char} (place : IsLabelAt front label after)
    (hn : '\n' ∉ new) :
    tagLines (front ++ (label ++ after)) = tagLines (front ++ (new ++ after)) := by
  induction front using lines_induction with
  | last line hl =>
    have colon := place.ended.colon_mem
    have one : ∀ {text : List Char}, '\n' ∉ text →
        tagLines (line ++ (text ++ after)) = tagLines after := by
      intro text ht
      rw [← List.append_assoc]
      exact tagLines_colon (by simp [hl, ht]) (List.mem_append_left _ colon) place.line
    rw [one place.feed, one hn]
  | line line rest hl ih =>
    have ended := place.ended.behind (by decide) (by decide)
    rw [List.append_assoc, List.append_assoc, List.cons_append, List.cons_append, tagLines_line,
      tagLines_line, ih ⟨ended, place.feed, place.line⟩]

/-- The classes are the same with another label. -/
theorem Exchangeable.textClasses_eq {front label after : List Char}
    {links : List Char → List LinkText} (h : Exchangeable front label after links)
    {new : List Char} (hn : '\n' ∉ new) (hq : '"' ∉ new) :
    textClasses (blankLabels (front ++ (new ++ after))) =
      textClasses (blankLabels (front ++ (label ++ after))) := by
  rw [textClasses, textClasses, declaredClasses_relaid (h.relaid new hn hq), tagLines_blankLabels,
    tagLines_blankLabels, tagLines_exchange h.place hn]

/-! ## Comments -/

/-- Whether a line is a comment is settled in front of a colon. -/
theorem isComment_append_of_colon {line : List Char} (colon : ':' ∈ line) (rest : List Char) :
    isComment (line ++ rest) = isComment line := by
  have dark : isWhiteSpace ':' = false := by decide
  obtain ⟨start, inside⟩ := dropWhile_append_of_mem dark colon rest
  have same := isPrefixOf?_append_of_mem (by decide : ':' ∉ ['%', '%']) inside rest
  rw [isComment, isComment, trimStart, trimStart, start, ← List.isSome_isPrefixOf?_eq_isPrefixOf,
    ← List.isSome_isPrefixOf?_eq_isPrefixOf, same, Option.isSome_map]

/-- A text is cut in one way only into a line and what comes after it. -/
theorem line_unique {line line' rest rest' : List Char} (hl : '\n' ∉ line) (hl' : '\n' ∉ line')
    (hr : rest.head?.all (· == '\n') = true) (hr' : rest'.head?.all (· == '\n') = true)
    (h : line ++ rest = line' ++ rest') : line = line' ∧ rest = rest' := by
  have run : ∀ {line rest : List Char}, '\n' ∉ line → rest.head?.all (· == '\n') = true →
      (line ++ rest).takeWhile isInLine = line := by
    intro line rest feed ending
    refine takeWhile_append_of_head (fun c hc => ?_) (any_head?_after ending (by decide))
    have other : c ≠ '\n' := fun e => feed (e ▸ hc)
    simpa [isInLine] using other
  have same : line = line' := by rw [← run hl hr, h, run hl' hr']
  subst same
  exact ⟨rfl, List.append_cancel_left h⟩

/-- On the line of a label nothing is emptied, whatever the label is. -/
theorem stripComments_labelLine {front label : List Char} (ended : ColonEnded front)
    (feed : '\n' ∉ front) (comment : isComment (front ++ label) = false) {new : List Char}
    (hn : '\n' ∉ new) : stripComments (front ++ new) = front ++ new := by
  rw [isComment_append_of_colon ended.colon_mem] at comment
  exact stripComments_of_not_comment (by simp [feed, hn])
    ((isComment_append_of_colon ended.colon_mem new).trans comment)

/-- Comments are emptied alike with another label: a label of the text without comments stands in
the text with them, and there it may be exchanged as well. -/
theorem stripComments_exchange {text front label after : List Char}
    (h : stripComments text = front ++ (label ++ after)) (place : IsLabelAt front label after) :
    ∃ first last, text = first ++ (label ++ last) ∧ stripComments first = front ∧
      stripComments last = after ∧
        ∀ new, '\n' ∉ new → stripComments (first ++ (new ++ last)) = front ++ (new ++ after) := by
  induction text using lines_induction generalizing front with
  | last line hl =>
    rw [stripComments_eq_emptyComment hl] at h
    have feed : '\n' ∉ front := fun feed =>
      hl (emptyComment_subset line (h ▸ List.mem_append_left _ feed))
    have filled : front ++ label ≠ [] :=
      fun e => place.ended.ne_nil (List.append_eq_nil_iff.mp e).1
    obtain ⟨same, rfl⟩ := line_unique (fun m => hl (emptyComment_subset line m))
      (by simp [feed, place.feed] : '\n' ∉ front ++ label) rfl place.line
      (by rw [List.append_nil, h, List.append_assoc])
    obtain ⟨comment, rfl⟩ := emptyComment_eq same filled
    have kept := @stripComments_labelLine front label place.ended feed comment
    refine ⟨front, [], by rw [List.append_nil], ?_, rfl, fun new hn => ?_⟩
    · simpa using kept List.not_mem_nil
    · rw [List.append_nil, kept hn]
  | line line rest hl ih =>
    rw [stripComments_line, stripComments_eq_emptyComment hl] at h
    have short : '\n' ∉ emptyComment line := fun m => hl (emptyComment_subset line m)
    by_cases feed : '\n' ∈ front
    · -- The label stands on a later line.
      obtain ⟨start, more, rfl, hs⟩ := List.eq_append_cons_of_mem feed
      rw [List.append_assoc, List.cons_append] at h
      obtain ⟨same, behind⟩ := line_unique short hs rfl rfl h
      have ended := place.ended.behind (by decide) (by decide)
      obtain ⟨first, last, rfl, hf, ha, exchange⟩ :=
        ih (List.cons.inj behind).2 ⟨ended, place.feed, place.line⟩
      refine ⟨line ++ '\n' :: first, last, by simp, ?_, ha, fun new hn => ?_⟩
      · rw [stripComments_line, stripComments_eq_emptyComment hl, same, hf]
      · rw [List.append_assoc, List.cons_append, stripComments_line,
          stripComments_eq_emptyComment hl, same, exchange new hn, List.append_assoc,
          List.cons_append]
    · -- The label stands on this line.
      have filled : front ++ label ≠ [] :=
        fun e => place.ended.ne_nil (List.append_eq_nil_iff.mp e).1
      obtain ⟨same, rfl⟩ := line_unique short
        (by simp [feed, place.feed] : '\n' ∉ front ++ label) rfl place.line
        (by rw [h, List.append_assoc])
      obtain ⟨comment, rfl⟩ := emptyComment_eq same filled
      have kept := @stripComments_labelLine front label place.ended feed comment
      refine ⟨front, '\n' :: rest, List.append_assoc _ _ _, ?_, ?_, fun new hn => ?_⟩
      · simpa using kept List.not_mem_nil
      · exact stripComments_line [] rest
      · rw [← List.append_assoc, stripComments_line, kept hn, List.append_assoc]

end DiagramDiff.Mermaid

namespace DiagramDiff.Diagram

open Mermaid Text

/-- Labels are free text: if the label of one link is exchanged for another text on one line, the
same classes are read, and the same links but for the label of that link. The label is found in the
text with its comments as it is in the text without them, and may be exchanged in either. -/
theorem ofText_relabelled {text : String} {earlier later : List PlacedLink} {m : PlacedLink}
    {label : List Char} (hm : placedLinks (stripComments text.toList) = earlier ++ m :: later)
    (hl : m.found.label = some label) (quote : '"' ∉ label) :
    (ofText text).links =
        earlier.map (·.found.link) ++ m.found.link :: later.map (·.found.link) ∧
      ∃ first last : String, text = first ++ String.ofList label ++ last ∧
        stripComments text.toList = stripComments first.toList ++ (label ++ m.after) ∧
        stripComments last.toList = m.after ∧
        ∀ new : String, '\n' ∉ new.toList → '"' ∉ new.toList →
          ofText (first ++ new ++ last) =
              { classes := (ofText text).classes
                links := earlier.map (·.found.link) ++
                  { m.found.link with label := String.ofList (trim new.toList) } ::
                    later.map (·.found.link) } ∧
            ofChars (stripComments first.toList ++ (new.toList ++ m.after)) =
              ofText (first ++ new ++ last) := by
  obtain ⟨front, parts, exchange⟩ := exchangeable_of_placedLinks hm hl quote
  obtain ⟨first, last, whole, hf, ha, comments⟩ := stripComments_exchange parts exchange.place
  constructor
  · rw [ofText, ofChars, textLinks, ← map_found_placedLinks, hm, List.map_append, List.map_cons,
      List.map_append, List.map_cons, List.map_map, List.map_map]
    rfl
  refine ⟨String.ofList first, String.ofList last, ?_, ?_, ?_, fun new hn hq => ?_⟩
  · rw [← String.toList_inj, whole]
    simp
  · rw [String.toList_ofList, hf, parts]
  · rw [String.toList_ofList, ha]
  have stripped := comments new.toList hn
  have chars : (String.ofList first ++ new ++ String.ofList last).toList =
      first ++ (new.toList ++ last) := by simp
  rw [ofText, chars, String.toList_ofList, hf]
  constructor
  · rw [ofText, ofChars, ofChars, stripped, parts, exchange.textClasses_eq hn hq, textLinks,
      exchange.linkTexts_eq new.toList hn hq, List.map_append, List.map_cons, List.map_map,
      List.map_map, LinkText.link_relabel]
    rfl
  · rw [ofChars, ofChars, ← stripped, stripComments_stripComments]

/-- A class in whose body a link stands, below a comment. -/
def cage : String :=
  "class Cage \x7b\n  +size: int\n  %% who --> lives : here\n" ++
    "  Lion \"1\" --> \"*\" Cub : raises\n\x7d\nCub --> Lion : follows"

/-- Whatever that link is labelled with, even the beginning of a class, there is the one class, and
there are the same two links. -/
theorem ofText_relabelled_cage :
    ∃ first last : String, cage = first ++ "raises" ++ last ∧
      ofText (first ++ "class Lion \x7b \x7d Cub --> Cub" ++ last) =
        { classes := [⟨"Cage", [⟨"size", "int"⟩], [], []⟩]
          links :=
            [⟨"Lion", "Cub", "-->", "class Lion \x7b \x7d Cub --> Cub"⟩,
              ⟨"Cub", "Lion", "-->", "follows"⟩] } := by
  have placed : placedLinks (stripComments cage.toList) =
      [] ++ ⟨⟨"Lion".toList, "-->", "Cub".toList, some "raises".toList⟩,
          "\n\x7d\nCub --> Lion : follows".toList⟩ ::
        [⟨⟨"Cub".toList, "-->", "Lion".toList, some "follows".toList⟩, []⟩] := by
    decide +kernel
  obtain ⟨-, first, last, whole, -, -, exchange⟩ :=
    ofText_relabelled placed rfl (by decide)
  obtain ⟨read, -⟩ :=
    exchange "class Lion \x7b \x7d Cub --> Cub" (by decide) (by decide)
  refine ⟨first, last, whole, ?_⟩
  rw [read]
  decide +kernel

end DiagramDiff.Diagram
