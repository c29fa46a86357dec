import DiagramDiff.Mermaid.Reader
import DiagramDiff.Proofs.Mermaid.Comments
import DiagramDiff.Proofs.Mermaid.LinkLayout

/-!
# Links in every spelling

Between the parts of a link stand blanks, on either side of the marker a quoted cardinality may
stand, and after the target a label. However a link is spelled within these bounds, the line that
it stands on is read as that link and nothing else (`links_spelled`), with the marker that was
written: a blank behind a marker keeps a longer one from being read in its place, and the markers
are tried in an order in which none begins with an earlier one (`findSome?_markers`). What the
quotes hold does not matter, be it the text of another link.

Without a blank behind the marker this fails. The marker of `A --order` is the one that ends in a
letter, and the target is what is left of the word.
-/

namespace DiagramDiff.Mermaid

open Text

/-! ## Spellings -/

/-- Blanks between two parts of a link. -/
structure Gap where
  /-- The characters. -/
  chars : List Char
  /-- They are blanks. -/
  areBlank : ∀ c ∈ chars, isBlank c = true
  /-- There is one at least. -/
  ne_nil : chars ≠ []

/-- One space. -/
def Gap.space : Gap where
  chars := [' ']
  areBlank := forall_mem_of_all (by decide)
  ne_nil := List.cons_ne_nil _ _

/-- A cardinality with the blanks behind it. -/
structure Cardinality where
  /-- The text between the quotes. -/
  inner : List Char
  /-- It holds no quote and no line feed. -/
  areQuotable : ∀ c ∈ inner, isQuotable c = true
  /-- The blanks behind the second quote. -/
  gap : Gap

/-- What stands on one side of a marker. -/
structure MarkerSide where
  /-- The blanks that come first. -/
  gap : Gap
  /-- The cardinality, if there is one. -/
  cardinality : Option Cardinality

/-- A label behind a target. -/
structure LabelSuffix where
  /-- The blanks in front of the colon, if there are any. -/
  blanks : List Char
  /-- They are blanks. -/
  areBlank : ∀ c ∈ blanks, isBlank c = true
  /-- Everything behind the colon. -/
  text : List Char
  /-- It is on one line. -/
  oneLine : '\n' ∉ text

/-- The parts of a link that its ends and its marker leave open. -/
structure Spelling where
  /-- What stands in front of the marker. -/
  before : MarkerSide
  /-- What stands behind the marker. -/
  behind : MarkerSide
  /-- The label, if there is one. -/
  suffix : Option LabelSuffix

/-- The characters of a cardinality and the blanks behind it. -/
def Cardinality.chars (c : Cardinality) : List Char := '"' :: (c.inner ++ '"' :: c.gap.chars)

/-- The characters on one side of a marker. -/
def MarkerSide.chars (side : MarkerSide) : List Char :=
  side.gap.chars ++ side.cardinality.elim [] Cardinality.chars

/-- The characters of a label, its colon included. -/
def LabelSuffix.chars (suffix : LabelSuffix) : List Char := suffix.blanks ++ ':' :: suffix.text

namespace Spelling

/-- The characters behind a target. -/
def tail (s : Spelling) : List Char := s.suffix.elim [] LabelSuffix.chars

/-- The line of a link with given ends and marker. -/
def chars (s : Spelling) (source marker target : List Char) : List Char :=
  source ++ (s.before.chars ++ (marker ++ (s.behind.chars ++ (target ++ s.tail))))

/-- The label, empty if there is none. -/
def label (s : Spelling) : List Char := s.suffix.elim [] fun suffix => trim suffix.text

/-- The line of a link as a text. -/
def text (s : Spelling) (source marker target : String) : String :=
  String.ofList (s.chars source.toList marker.toList target.toList)

end Spelling

/-! ## The order of the markers -/

/-- No marker begins with one that is tried before it. -/
theorem markers_pairwise :
    Link.markers.Pairwise fun earlier later => ¬ earlier.toList <+: later.toList := by
  decide

/-- No marker holds a blank, and none begins with a quote. -/
theorem marker_characters {marker : String} (h : marker ∈ Link.markers) :
    (∀ c ∈ marker.toList, isBlank c = false) ∧ marker.toList.head?.any isBlank = false ∧
      marker.toList.head?.any (· == '"') = false ∧ marker.toList ≠ [] := by
  have blank : ∀ m ∈ Link.markers, m.toList.all (fun c => decide (isBlank c = false)) = true := by
    decide
  have head : ∀ m ∈ Link.markers, m.toList.head?.any isBlank = false ∧
      m.toList.head?.any (· == '"') = false ∧ m.toList ≠ [] := by
    decide
  exact ⟨forall_mem_of_all (blank marker h), head marker h⟩

/-- Where a marker and a blank stand, that marker is the one that is read. -/
theorem findSome?_markers {marker : String} (hm : marker ∈ Link.markers) {c : Char}
    (hc : isBlank c = true) {source rest : List Char} {result : LinkText × List Char}
    (h : readMarked? source (marker.toList ++ c :: rest) marker = some result) :
    Link.markers.findSome? (readMarked? source (marker.toList ++ c :: rest)) = some result := by
  obtain ⟨earlier, later, parts⟩ := List.append_of_mem hm
  refine List.findSome?_eq_some_iff.mpr ⟨earlier, marker, later, parts, h, fun other ho => ?_⟩
  have known : other ∈ Link.markers := parts ▸ List.mem_append_left _ ho
  have order : ¬ other.toList <+: marker.toList := by
    have ordered := markers_pairwise
    rw [parts, List.pairwise_append] at ordered
    exact ordered.2.2 other ho marker List.mem_cons_self
  have absent : c ∉ other.toList := by
    intro member
    rw [(marker_characters known).1 c member] at hc
    cases hc
  have miss : other.toList.isPrefixOf? (marker.toList ++ c :: rest) = none := by
    cases start : other.toList.isPrefixOf? (marker.toList ++ c :: rest) with
    | none => rfl
    | some after =>
      have front : other.toList <+: marker.toList ++ c :: rest :=
        ⟨after, List.append_eq_of_isPrefixOf?_eq_some start⟩
      exact absurd (prefix_of_prefix_append_cons absent front) order
  simp only [readMarked?, miss]

/-! ## Reading a spelled link -/

/-- The blanks of a gap are dropped in front of something else. -/
theorem Gap.dropBlanks_append (gap : Gap) {rest : List Char}
    (hrest : rest.head?.any isBlank = false) : dropBlanks (gap.chars ++ rest) = rest :=
  Text.dropBlanks_append gap.areBlank hrest

/-- One side of a marker begins with a blank. -/
theorem MarkerSide.exists_cons (side : MarkerSide) :
    ∃ c more, side.chars = c :: more ∧ isBlank c = true := by
  obtain ⟨c, more, parts⟩ := List.exists_cons_of_ne_nil side.gap.ne_nil
  refine ⟨c, more ++ side.cardinality.elim [] Cardinality.chars, ?_,
    side.gap.areBlank c (parts ▸ List.mem_cons_self)⟩
  rw [MarkerSide.chars, parts, List.cons_append]

/-- One side of a marker is passed over, its cardinality included. -/
theorem MarkerSide.skip (side : MarkerSide) {rest : List Char}
    (blank : rest.head?.any isBlank = false) (quote : rest.head?.any (· == '"') = false) :
    skipCardinality (dropBlanks (side.chars ++ rest)) = rest := by
  obtain ⟨gap, cardinality⟩ := side
  cases cardinality with
  | none =>
    rw [MarkerSide.chars, Option.elim_none, List.append_nil, gap.dropBlanks_append blank]
    exact skipCardinality_of_head quote
  | some cardinality =>
    have shape : MarkerSide.chars ⟨gap, some cardinality⟩ ++ rest =
        gap.chars ++ '"' :: (cardinality.inner ++ '"' :: (cardinality.gap.chars ++ rest)) := by
      simp [MarkerSide.chars, Cardinality.chars]
    have closing : (cardinality.inner ++ '"' :: (cardinality.gap.chars ++ rest)).dropWhile
        isQuotable = '"' :: (cardinality.gap.chars ++ rest) :=
      dropWhile_append_of_head cardinality.areQuotable rfl
    rw [shape, gap.dropBlanks_append rfl, skipCardinality_quoted closing,
      cardinality.gap.dropBlanks_append blank]

/-- Blanks stand on one line. -/
theorem newline_not_mem_blanks {blanks : List Char} (h : ∀ c ∈ blanks, isBlank c = true) :
    '\n' ∉ blanks := fun feed => absurd (h _ feed) (by decide)

/-- One side of a marker stands on one line. -/
theorem MarkerSide.newline_not_mem (side : MarkerSide) : '\n' ∉ side.chars := by
  obtain ⟨gap, cardinality⟩ := side
  have blanks := newline_not_mem_blanks gap.areBlank
  cases cardinality with
  | none => simpa [MarkerSide.chars] using blanks
  | some cardinality =>
    have inner : '\n' ∉ cardinality.inner := fun feed =>
      absurd (cardinality.areQuotable _ feed) (by decide)
    simp [MarkerSide.chars, Cardinality.chars, blanks, inner,
      newline_not_mem_blanks cardinality.gap.areBlank]

/-- A word is not taken for blanks or a quote. -/
theorem head?_name {word : List Char} (h : IsName word) (rest : List Char) :
    (word ++ rest).head?.any isBlank = false ∧ (word ++ rest).head?.any (· == '"') = false :=
  ⟨h.any_head?_append (fun _ => isBlank_of_isWord) rest,
    h.any_head?_append (fun _ hc => beq_eq_false_iff_ne.mpr (ne_of_isWord hc (by decide))) rest⟩

namespace Spelling

variable (s : Spelling)

/-- What is read of a link in some spelling. -/
def linkText (source : List Char) (marker : String) (target : List Char) : LinkText where
  source := source
  marker := marker
  target := target
  label := s.suffix.map fun suffix => dropBlanks suffix.text

/-- No word goes on behind a target. -/
theorem any_head?_tail : s.tail.head?.any isWord = false := by
  obtain ⟨before, behind, suffix⟩ := s
  cases suffix with
  | none => rfl
  | some suffix =>
    refine any_head?_append (fun c hc => ?_) rfl
    exact isWord_of_isWhiteSpace (isWhiteSpace_of_isBlank (suffix.areBlank c hc))

/-- The target and the label are read, and nothing is left of the line. -/
theorem readTarget?_behind {target : List Char} (ht : IsName target) :
    readTarget? (s.behind.chars ++ (target ++ s.tail)) =
      some (target, s.suffix.map fun suffix => dropBlanks suffix.text, []) := by
  have word : readWord? (skipCardinality (dropBlanks (s.behind.chars ++ (target ++ s.tail)))) =
      some (target, s.tail) := by
    rw [s.behind.skip (head?_name ht _).1 (head?_name ht _).2]
    exact readWord?_append ht s.any_head?_tail
  obtain ⟨before, behind, suffix⟩ := s
  cases suffix with
  | none => exact readTarget?_plain word rfl
  | some suffix =>
    have colon : dropBlanks (suffix.blanks ++ ':' :: suffix.text) = ':' :: suffix.text :=
      dropBlanks_append suffix.areBlank rfl
    have inLine : ∀ c ∈ dropBlanks suffix.text, isInLine c = true := by
      intro c hc
      have member : c ∈ suffix.text := (List.dropWhile_suffix isBlank).subset hc
      simpa [isInLine] using fun e : c = '\n' => suffix.oneLine (e ▸ member)
    rw [readTarget?_labelled word colon, takeWhile_eq_self inLine, dropWhile_eq_nil inLine]
    rfl

variable {source target : List Char} {marker : String}

/-- A link is read whole in every spelling. -/
theorem readLink?_chars (hs : IsName source) (ht : IsName target) (hm : marker ∈ Link.markers) :
    readLink? (s.chars source marker.toList target) =
      some (s.linkText source marker target, []) := by
  obtain ⟨-, blank, quote, nonempty⟩ := marker_characters hm
  obtain ⟨b, before, front, hb⟩ := s.before.exists_cons
  obtain ⟨c, behind, back, hc⟩ := s.behind.exists_cons
  have word : readWord? (s.chars source marker.toList target) = some (source, s.before.chars ++
      (marker.toList ++ (s.behind.chars ++ (target ++ s.tail)))) := by
    refine readWord?_append hs ?_
    rw [front]
    exact isWord_of_isWhiteSpace (isWhiteSpace_of_isBlank hb)
  have skip : skipCardinality (dropBlanks (s.before.chars ++
      (marker.toList ++ (s.behind.chars ++ (target ++ s.tail))))) =
        marker.toList ++ (s.behind.chars ++ (target ++ s.tail)) := by
    have head : (marker.toList ++ (s.behind.chars ++ (target ++ s.tail))).head? =
        marker.toList.head? := List.head?_append_of_ne_nil _ nonempty
    exact s.before.skip (head ▸ blank) (head ▸ quote)
  have marked : readMarked? source (marker.toList ++ (s.behind.chars ++ (target ++ s.tail)))
      marker = some (s.linkText source marker target, []) := by
    have start : marker.toList.isPrefixOf?
        (marker.toList ++ (s.behind.chars ++ (target ++ s.tail))) = some _ :=
      List.isPrefixOf?_eq_some_iff_append_eq.mpr rfl
    simp only [readMarked?, start, s.readTarget?_behind ht, Option.map_some, linkText]
  simp only [readLink?, word, skip]
  rw [back, List.cons_append] at marked ⊢
  exact findSome?_markers hm hc marked

/-- The line of a link holds that link and no other. -/
theorem linkTexts_chars (hs : IsName source) (ht : IsName target) (hm : marker ∈ Link.markers) :
    linkTexts (s.chars source marker.toList target) = [s.linkText source marker target] :=
  linkTexts_found (s.readLink?_chars hs ht hm)

/-- The link that is read has the label, trimmed. -/
theorem link_linkText (source target : String) :
    (s.linkText source.toList marker target.toList).link =
      { source := source, target := target, marker := marker, label := String.ofList s.label } := by
  obtain ⟨before, behind, suffix⟩ := s
  cases suffix with
  | none => simp [LinkText.link, linkText, label]
  | some suffix => simp [LinkText.link, linkText, label, trim_dropBlanks]

/-- A link in some spelling stands on one line. -/
theorem newline_not_mem_chars (hs : IsName source) (ht : IsName target)
    (hm : marker ∈ Link.markers) : '\n' ∉ s.chars source marker.toList target := by
  have tail : '\n' ∉ s.tail := by
    obtain ⟨before, behind, suffix⟩ := s
    cases suffix with
    | none => exact List.not_mem_nil
    | some suffix => simp [tail, LabelSuffix.chars, newline_not_mem_blanks suffix.areBlank,
        suffix.oneLine]
  simp only [chars, List.mem_append, not_or]
  exact ⟨hs.not_mem isWord_newline, s.before.newline_not_mem, newline_not_mem_marker hm,
    s.behind.newline_not_mem, ht.not_mem isWord_newline, tail⟩

end Spelling

end DiagramDiff.Mermaid

namespace DiagramDiff.Diagram

open Mermaid Text

/-- The line of a link between two words is read as that link, with the marker that was written and
the trimmed text of its label, whatever blanks stand between its parts and whatever cardinalities
stand beside the marker. Nothing else is read of the line as a link. -/
theorem links_spelled {source target marker : String} (hs : IsName source.toList)
    (ht : IsName target.toList) (hm : marker ∈ Link.markers) (s : Spelling) :
    (ofText (s.text source marker target)).links =
      [{ source := source, target := target, marker := marker,
         label := String.ofList s.label }] := by
  have oneLine := s.newline_not_mem_chars hs ht hm
  have spoken : isComment (s.chars source.toList marker.toList target.toList) = false := by
    obtain ⟨c, rest, first, hc, -⟩ := hs.exists_cons
    have begins := @isComment_of_head []
      (rest ++ (s.before.chars ++ (marker.toList ++ (s.behind.chars ++ (target.toList ++ s.tail)))))
      c (by simp) (isWhiteSpace_of_isWord hc) (ne_of_isWord hc (by decide))
    rwa [Spelling.chars, first, List.cons_append]
  rw [ofText, ofChars, Spelling.text, String.toList_ofList,
    stripComments_of_not_comment oneLine spoken, textLinks, s.linkTexts_chars hs ht hm,
    List.map_singleton, s.link_linkText]

/-- Both cardinalities hold the text of markers, and the label holds quotes, a colon and a further
marker. -/
def orderSpelling : Spelling where
  before :=
    { gap := ⟨[' ', '\t'], forall_mem_of_all (by decide), by decide⟩
      cardinality := some
        { inner := "0..* --> 2".toList
          areQuotable := forall_mem_of_all (by decide)
          gap := .space } }
  behind :=
    { gap := ⟨['\t'], forall_mem_of_all (by decide), by decide⟩
      cardinality := some
        { inner := "o--".toList
          areQuotable := forall_mem_of_all (by decide)
          gap := ⟨[' ', ' '], forall_mem_of_all (by decide), by decide⟩ } }
  suffix := some
    { blanks := Gap.space.chars
      areBlank := Gap.space.areBlank
      text := " \"part\" --> of : it ".toList
      oneLine := by decide }

/-- Two hyphens in front of a target that begins with an `o` are read as the marker that they
are. -/
theorem links_spelled_order :
    "--" ∈ Link.markers ∧
      (ofText "Order \t\"0..* --> 2\" --\t\"o--\"  order : \"part\" --> of : it ").links =
        [⟨"Order", "order", "--", "\"part\" --> of : it"⟩] := by
  have known : "--" ∈ Link.markers := by decide
  have text : orderSpelling.text "Order" "--" "order" =
      "Order \t\"0..* --> 2\" --\t\"o--\"  order : \"part\" --> of : it " := by decide +kernel
  have label : String.ofList orderSpelling.label = "\"part\" --> of : it" := by decide +kernel
  have read := @links_spelled "Order" "order" "--" (by decide) (by decide) known orderSpelling
  rw [text, label] at read
  exact ⟨known, read⟩

end DiagramDiff.Diagram
