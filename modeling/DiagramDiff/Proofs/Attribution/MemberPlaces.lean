import DiagramDiff.Proofs.Attribution.ShownLines
import DiagramDiff.Proofs.Mermaid.PlainLayout
import DiagramDiff.Proofs.Mermaid.WellFormed

/-!
# Where members stand

Reading forgets where things stand. Here it is recovered: to every property of a class that is read
from a text there is a place in the text (`exists_memberPlace_of_mem_classes`). A place is a
declaration of the class with a body, and a line of this body with an entry that is read as the
property. A class that is declared repeatedly may have several places for one property.

The number of the line in which something stands is the number of the line feeds before it
(`exists_line_of_parts`).
-/

namespace DiagramDiff.Mermaid

open Text

/-! ## Lines of a text in parts -/

/-- The last line of a text. -/
def lastLine (text : List Char) : List Char := (pieces text).getLast?.getD []

/-- A text without a line feed is its last line. -/
theorem lastLine_of_not_mem {line : List Char} (one : '\n' ∉ line) : lastLine line = line := by
  rw [lastLine, pieces_of_not_mem one]
  rfl

/-- The last line stands after the line feeds. -/
theorem lastLine_line (text rest : List Char) :
    lastLine (text ++ '\n' :: rest) = lastLine rest := by
  have some_line : pieces rest ≠ [] := List.splitOn_ne_nil '\n' rest
  rw [lastLine, pieces_line, List.getLast?_append_of_ne_nil _ some_line]
  rfl

/-- A line has one line feed more in front of what follows it. -/
theorem count_newline_line {first : List Char} (one : '\n' ∉ first) (rest : List Char) :
    (first ++ '\n' :: rest).count '\n' = rest.count '\n' + 1 := by
  rw [List.count_append, List.count_cons_self, List.count_eq_zero_of_not_mem one, Nat.zero_add]

/-- A text begins with what stands before its first line feed. -/
theorem exists_first_piece {start : List Char} (one : '\n' ∉ start) (text : List Char) :
    ∃ line others, pieces (start ++ text) = line :: others ∧ start <+: line := by
  induction text using lines_induction with
  | last line hl =>
    have joined : '\n' ∉ start ++ line := by simp [one, hl]
    exact ⟨start ++ line, [], pieces_of_not_mem joined, List.prefix_append start line⟩
  | line line rest hl _ =>
    have joined : '\n' ∉ start ++ line := by simp [one, hl]
    refine ⟨start ++ line, pieces rest, ?_, List.prefix_append start line⟩
    rw [← List.append_assoc, pieces_line, pieces_of_not_mem joined]
    rfl

/-- What stands on one line is on the line of the number of the line feeds before it, where it
follows the last line of what is before it. -/
theorem exists_line_of_parts {text before inner after : List Char}
    (whole : text = before ++ (inner ++ after)) (one : '\n' ∉ inner) :
    ∃ line, (pieces text)[before.count '\n']? = some line ∧ lastLine before ++ inner <+: line := by
  subst whole
  induction before using lines_induction with
  | last before hb =>
    have joined : '\n' ∉ before ++ inner := by simp [hb, one]
    obtain ⟨line, others, parts, begins⟩ := exists_first_piece joined after
    rw [← List.append_assoc, parts, List.count_eq_zero_of_not_mem hb, lastLine_of_not_mem hb]
    exact ⟨line, rfl, begins⟩
  | line first rest hf ih =>
    rw [List.append_assoc, List.cons_append, pieces_line, pieces_of_not_mem hf,
      count_newline_line hf, lastLine_line]
    exact ih

/-- A line of a text has as many line feeds before it as its number. -/
theorem exists_parts_of_line {text line : List Char} {i : Nat} (h : (pieces text)[i]? = some line) :
    ∃ before after, text = before ++ (line ++ after) ∧ before.count '\n' = i := by
  induction text using lines_induction generalizing i with
  | last text ht =>
    rw [pieces_of_not_mem ht] at h
    cases i with
    | zero =>
      obtain rfl := Option.some.inj h
      exact ⟨[], [], by simp, rfl⟩
    | succ i => cases h
  | line first rest hf ih =>
    rw [pieces_line, pieces_of_not_mem hf] at h
    cases i with
    | zero =>
      obtain rfl := Option.some.inj h
      exact ⟨[], '\n' :: rest, rfl, rfl⟩
    | succ i =>
      obtain ⟨before, after, rfl, number⟩ := ih h
      refine ⟨first ++ '\n' :: before, after, by simp, ?_⟩
      rw [count_newline_line hf, number]

/-- An entry of a body is an entry of one of its lines. -/
theorem exists_line_of_mem_entries {body entry : List Char} (h : entry ∈ entries body) :
    ∃ line ∈ pieces body, entry ∈ entries line := by
  induction body using lines_induction with
  | last body hb =>
    rw [pieces_of_not_mem hb]
    exact ⟨body, List.mem_singleton_self body, h⟩
  | line first rest hf ih =>
    rw [pieces_line, pieces_of_not_mem hf]
    rw [entries_line] at h
    rcases List.mem_append.mp h with here | later
    · exact ⟨first, List.mem_cons_self, here⟩
    · obtain ⟨line, member, inside⟩ := ih later
      exact ⟨line, List.mem_cons_of_mem first member, inside⟩

/-! ## Headers -/

/-- A declaration of a class up to the brace that opens its body. -/
inductive IsHeader (name : List Char) : List Char → Prop where
  /-- Between the keyword and the name there are blanks, and behind the name there is white space or
  what begins with type arguments. -/
  | intro {gap arguments : List Char} (className : IsName name)
      (blanks : ∀ c ∈ gap, isBlank c = true) (apart : gap ≠ [])
      (ends : IsWhite arguments ∨ arguments.head? = some '~') :
      IsHeader name ("class".toList ++ (gap ++ (name ++ arguments)))

/-- The name of a header is a word. -/
theorem IsHeader.isName {name head : List Char} (h : IsHeader name head) : IsName name := by
  cases h with
  | intro className => exact className

/-- The name of a header stands in it. -/
theorem IsHeader.name_infix {name head : List Char} (h : IsHeader name head) : name <:+: head := by
  cases h with
  | @intro gap arguments =>
    exact ⟨"class".toList ++ gap, arguments, by simp only [List.append_assoc]⟩

/-- Between the name of a class and the brace there is white space or what begins with type
arguments. -/
theorem exists_arguments_of_readBody? {after body left : List Char}
    (h : readBody? (skipTypeArguments after) = some (body, left)) :
    ∃ arguments, after = arguments ++ '{' :: (body ++ '}' :: left) ∧
      (IsWhite arguments ∨ arguments.head? = some '~') := by
  obtain ⟨start, -⟩ := readBody?_eq_some h
  cases tilde : after.head?.any (· == '~') with
  | false =>
    rw [skipTypeArguments_of_head tilde] at start
    refine ⟨after.takeWhile isWhiteSpace, ?_, .inl fun _ hc => List.mem_takeWhile_imp hc⟩
    rw [← start]
    exact List.takeWhile_append_dropWhile.symm
  | true =>
    have behind : '{' :: (body ++ '}' :: left) <:+ after := by
      rw [← start]
      exact (List.dropWhile_suffix isWhiteSpace).trans (skipTypeArguments_suffix after)
    obtain ⟨arguments, parts⟩ := behind
    refine ⟨arguments, parts.symm, .inr ?_⟩
    rw [← parts] at tilde
    cases arguments with
    | nil => cases tilde
    | cons c arguments => simpa using tilde

/-- A declaration with a body is a header and the body in braces. -/
theorem exists_header_of_readDeclaration? {text name body left : List Char}
    (h : readDeclaration? text = some (⟨name, some body⟩, left)) :
    ∃ head, IsHeader name head ∧ text = head ++ '{' :: (body ++ '}' :: left) := by
  obtain ⟨rest, after, rfl, blank, word, ending⟩ := readDeclaration?_eq_some h
  rcases ending with ⟨none, -⟩ | ⟨own, same, read⟩
  · cases none
  · obtain rfl := Option.some.inj same
    have className : IsName name := isName_of_readWord? word
    obtain ⟨gap, blanks, parts⟩ := exists_dropBlanks rest
    rw [readWord?_parts word] at parts
    have apart : gap ≠ [] := by
      rintro rfl
      rw [parts, List.nil_append,
        className.any_head?_append (fun _ => isBlank_of_isWord) after] at blank
      cases blank
    obtain ⟨arguments, rfl, ends⟩ := exists_arguments_of_readBody? read
    refine ⟨_, .intro className blanks apart ends, ?_⟩
    rw [parts]
    simp only [List.append_assoc]

/-! ## Places -/

/-- A place of a text where it is read that a class has a property. -/
structure MemberPlace (text : List Char) (className : String) (p : Property) where
  /-- The text before a declaration of the class. -/
  before : List Char
  /-- The declaration up to the brace that opens its body. -/
  head : List Char
  /-- The body. -/
  body : List Char
  /-- The text after the brace that closes the body. -/
  behind : List Char
  /-- The number of a line of the body, the rest of the line of the brace being number zero. -/
  index : Nat
  /-- That line, as far as it belongs to the body. -/
  line : List Char
  /-- An entry of that line. -/
  entry : List Char
  /-- The parts make up the text. -/
  whole : text = before ++ (head ++ '{' :: (body ++ '}' :: behind))
  /-- The declaration is read as one of the class with this body. -/
  declared : readDeclaration? (head ++ '{' :: (body ++ '}' :: behind)) =
    some (⟨className.toList, some body⟩, behind)
  /-- The line has its number in the body. -/
  present : (pieces body)[index]? = some line
  /-- The entry is one of the line. -/
  member : entry ∈ entries line
  /-- The entry is read as the property. -/
  property : readProperty? (entryMember entry) = some p

namespace MemberPlace

section place

variable {text : List Char} {className : String} {p : Property}

/-- The number of the line of the declaration, counted from zero. -/
def headerNumber (place : MemberPlace text className p) : Nat := place.before.count '\n'

/-- The number of the line of the property, counted from zero. -/
def number (place : MemberPlace text className p) : Nat :=
  (place.before ++ place.head).count '\n' + place.index

/-- What stands in front of the body is a header. -/
theorem isHeader (place : MemberPlace text className p) :
    IsHeader className.toList place.head := by
  obtain ⟨head, header, parts⟩ := exists_header_of_readDeclaration? place.declared
  exact (List.append_cancel_right parts) ▸ header

/-- The name of the property is a word. -/
theorem isName (place : MemberPlace text className p) : IsName p.name.toList := by
  have one : '\n' ∉ entryMember place.entry := fun feed =>
    newline_not_mem_entries place.member
      (withoutFinds_subset _ place.entry ((trim_within _).subset feed))
  exact (readProperty?_parts one place.property).1

/-- With the brace on the line of the declaration, the lines of the body count from that line. -/
theorem number_eq (place : MemberPlace text className p) (braced : '\n' ∉ place.head) :
    place.number = place.headerNumber + place.index := by
  unfold number headerNumber
  rw [List.count_append, List.count_eq_zero_of_not_mem braced, Nat.add_zero]

/-- The line of the declaration begins with what stands before the declaration, the header and the
brace. -/
theorem exists_header_line (place : MemberPlace text className p) (braced : '\n' ∉ place.head) :
    ∃ line, (pieces text)[place.headerNumber]? = some line ∧
      lastLine place.before ++ (place.head ++ ['{']) <+: line := by
  have one : '\n' ∉ place.head ++ ['{'] := by simp [braced]
  have parts : text =
      place.before ++ (place.head ++ ['{'] ++ (place.body ++ '}' :: place.behind)) := by
    refine place.whole.trans ?_
    simp only [List.append_assoc, List.singleton_append]
  exact exists_line_of_parts parts one

/-- The line of the body stands on the line of the property. -/
theorem exists_member_line (place : MemberPlace text className p) :
    ∃ line, (pieces text)[place.number]? = some line ∧ place.line <:+: line := by
  obtain ⟨above, below, parts, count⟩ := exists_parts_of_line place.present
  have one : '\n' ∉ place.line := newline_not_mem_pieces (List.mem_of_getElem? place.present)
  have whole : text = (place.before ++ (place.head ++ '{' :: above)) ++
      (place.line ++ (below ++ '}' :: place.behind)) := by
    refine place.whole.trans ?_
    rw [parts]
    simp only [List.append_assoc, List.cons_append]
  have counted : (place.before ++ (place.head ++ '{' :: above)).count '\n' = place.number := by
    unfold number
    rw [List.count_append, List.count_append, List.count_append,
      List.count_cons_of_ne (by decide), count, Nat.add_assoc]
  obtain ⟨line, here, begins⟩ := exists_line_of_parts whole one
  rw [counted] at here
  exact ⟨line, here, (List.suffix_append _ _).isInfix.trans begins.isInfix⟩

end place

end MemberPlace

/-- A property of a body is read from one of its entries. -/
theorem exists_entry_of_mem_bodyProperties {body : List Char} {p : Property}
    (h : p ∈ bodyProperties body) :
    ∃ entry ∈ entries body, readProperty? (entryMember entry) = some p := by
  obtain ⟨listed, -⟩ := List.mem_filter.mp h
  obtain ⟨member, inside, read⟩ := List.mem_filterMap.mp listed
  obtain ⟨solid, -⟩ := List.mem_filter.mp inside
  obtain ⟨there, -⟩ := List.mem_filter.mp solid
  obtain ⟨entry, he, rfl⟩ := List.mem_map.mp there
  exact ⟨entry, he, read⟩

/-- A declaration in a text has a place for each of its properties. -/
theorem exists_memberPlace_of_declaration {text : List Char} {d : Declaration}
    (h : d ∈ declarations text) {p : Property} (hp : p ∈ d.classNode.properties) :
    Nonempty (MemberPlace text (String.ofList d.name) p) := by
  obtain ⟨suffix, left, ⟨before, whole⟩, read⟩ := exists_of_mem_finds_atWordStart h
  obtain ⟨name, body⟩ := d
  cases body with
  | none => exact absurd hp List.not_mem_nil
  | some body =>
    obtain ⟨head, -, rfl⟩ := exists_header_of_readDeclaration? read
    obtain ⟨entry, he, property⟩ := exists_entry_of_mem_bodyProperties hp
    obtain ⟨line, hl, member⟩ := exists_line_of_mem_entries he
    obtain ⟨index, present⟩ := List.mem_iff_getElem?.mp hl
    exact ⟨{
      before := before, head := head, body := body, behind := left, index := index, line := line
      entry := entry, whole := whole.symm, present := present, member := member
      property := property
      declared := by rw [String.toList_ofList]; exact read }⟩

/-- The properties of merged declarations are properties of the declarations. -/
theorem mem_properties_of_mem_foldl_merge {first : ClassNode} {later : List ClassNode}
    {p : Property} (h : p ∈ (later.foldl ClassNode.merge first).properties) :
    ∃ c ∈ first :: later, p ∈ c.properties := by
  induction later generalizing first with
  | nil => exact ⟨first, List.mem_cons_self, h⟩
  | cons next later ih =>
    obtain ⟨c, member, hp⟩ := ih h
    rcases List.mem_cons.mp member with rfl | member
    · rcases ClassNode.mem_of_mem_appendProperties hp with kept | ⟨added, -⟩
      · exact ⟨first, List.mem_cons_self, (List.mem_filter.mp kept).1⟩
      · exact ⟨next, List.mem_cons_of_mem first List.mem_cons_self, added⟩
    · exact ⟨c, List.mem_cons_of_mem first (List.mem_cons_of_mem next member), hp⟩

/-- Every property of a declared class has a place in the text. -/
theorem exists_memberPlace {text : List Char} {c : ClassNode} (h : c ∈ declaredClasses text)
    {p : Property} (hp : p ∈ c.properties) : Nonempty (MemberPlace text c.name p) := by
  obtain ⟨first, later, named, merged⟩ := ClassNode.mem_foldl_declare_iff.mp h
  rw [merged] at hp
  obtain ⟨node, member, own⟩ := mem_properties_of_mem_foldl_merge hp
  rw [← named] at member
  obtain ⟨there, same⟩ := List.mem_filter.mp member
  obtain ⟨d, hd, rfl⟩ := List.mem_map.mp there
  have name : String.ofList d.name = c.name := beq_iff_eq.mp same
  exact name ▸ exists_memberPlace_of_declaration hd own

/-! ## White space around a text -/

/-- A white character in front of a text adds no line that says something. -/
theorem map_trim_spokenLines_cons {c : Char} (white : isWhiteSpace c = true) (text : List Char) :
    (spokenLines (c :: text)).map trim = (spokenLines text).map trim := by
  have space : IsWhite [c] := fun d hd => List.mem_singleton.mp hd ▸ white
  have line : ∀ line, trim (c :: line) = trim line := fun line => by
    have around := trimOf_surround space IsWhite.nil line
    rwa [List.append_nil] at around
  rw [map_trim_spokenLines, map_trim_spokenLines]
  by_cases feed : c = '\n'
  · subst feed
    have led : pieces ('\n' :: text) = [] :: pieces text := pieces_line [] text
    rw [led]
    rfl
  · induction text using lines_induction with
    | last text ht =>
      have one : '\n' ∉ c :: text := by simp [ht, Ne.symm feed]
      rw [pieces_of_not_mem one, pieces_of_not_mem ht, List.map_singleton, line]
      rfl
    | line first rest hf _ =>
      have one : '\n' ∉ c :: first := by simp [hf, Ne.symm feed]
      rw [← List.cons_append, pieces_line, pieces_line, pieces_of_not_mem one,
        pieces_of_not_mem hf, List.singleton_append, List.singleton_append, List.map_cons, line]
      rfl

/-- A white character at the end of a text adds no line that says something. -/
theorem map_trim_spokenLines_concat {c : Char} (white : isWhiteSpace c = true)
    (text : List Char) : (spokenLines (text ++ [c])).map trim = (spokenLines text).map trim := by
  have space : IsWhite [c] := fun d hd => List.mem_singleton.mp hd ▸ white
  have line : ∀ line, trim (line ++ [c]) = trim line := trimOf_surround IsWhite.nil space
  rw [map_trim_spokenLines, map_trim_spokenLines]
  induction text using lines_induction with
  | last text ht =>
    by_cases feed : c = '\n'
    · subst feed
      rw [pieces_line, List.map_append, List.filter_append]
      exact List.append_nil _
    · have one : '\n' ∉ text ++ [c] := by simp [ht, Ne.symm feed]
      rw [pieces_of_not_mem one, pieces_of_not_mem ht, List.map_singleton, line]
      rfl
  | line first rest hf ih =>
    rw [List.append_assoc, List.cons_append, pieces_line, pieces_line, List.map_append,
      List.filter_append, ih, List.map_append, List.filter_append]

/-- White space in front of a text adds no line that says something. -/
theorem map_trim_spokenLines_white_append {space : List Char} (white : IsWhite space)
    (text : List Char) : (spokenLines (space ++ text)).map trim = (spokenLines text).map trim := by
  induction space with
  | nil => rfl
  | cons c space ih =>
    obtain ⟨first, later⟩ := List.forall_mem_cons.mp white
    rw [List.cons_append, map_trim_spokenLines_cons first, ih later]

/-- White space at the end of a text adds no line that says something. -/
theorem map_trim_spokenLines_append_white {space : List Char} (white : IsWhite space)
    (text : List Char) : (spokenLines (text ++ space)).map trim = (spokenLines text).map trim := by
  induction space generalizing text with
  | nil => rw [List.append_nil]
  | cons c space ih =>
    obtain ⟨first, later⟩ := List.forall_mem_cons.mp white
    have shape : text ++ c :: space = text ++ [c] ++ space := by simp
    rw [shape, ih later, map_trim_spokenLines_concat first]

/-- Trimming a text changes nothing about its lines that say something, once they are trimmed. -/
theorem map_trim_spokenLines_trim (text : List Char) :
    (spokenLines (trim text)).map trim = (spokenLines text).map trim := by
  obtain ⟨left, right, hl, hr, parts⟩ := exists_trimOf isWhiteSpace text
  rw [← trim_eq_trimOf] at parts
  conv_rhs => rw [parts]
  rw [map_trim_spokenLines_white_append hl, map_trim_spokenLines_append_white hr]

/-- White space around a text declares nothing. -/
theorem declaredClasses_shownText_trim (text : List Char) :
    declaredClasses (shownText (trim text)) = declaredClasses (shownText text) :=
  declaredClasses_congr (map_trim_spokenLines_trim text)

/-- Every property of a class that is read from a text, once it is trimmed, has a place in the
text. -/
theorem exists_memberPlace_of_mem_classes {text : List Char} {c : ClassNode}
    (h : c ∈ (Diagram.ofChars (trim text)).classes) {p : Property} (hp : p ∈ c.properties) :
    Nonempty (MemberPlace (shownText text) c.name p) := by
  have inside : c.unannotated ∈
      (Diagram.ofChars (trim text)).classes.map ClassNode.unannotated := List.mem_map_of_mem h
  rw [Diagram.map_unannotated_ofChars] at inside
  obtain ⟨declared, there, same⟩ := List.mem_map.mp inside
  obtain ⟨named, properties, -⟩ := ClassNode.mk.inj same
  have shown : declared ∈ declaredClasses (shownText text) :=
    declaredClasses_shownText_trim text ▸ there
  exact named ▸ exists_memberPlace shown (properties ▸ hp)

end DiagramDiff.Mermaid
