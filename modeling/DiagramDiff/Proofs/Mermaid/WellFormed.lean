import DiagramDiff.Diagram.Kind
import DiagramDiff.Proofs.Mermaid.Declarations
import DiagramDiff.Proofs.Mermaid.Entries
import DiagramDiff.Proofs.Mermaid.LinkLines
import DiagramDiff.Proofs.Mermaid.ReadClasses
import DiagramDiff.Proofs.Mermaid.TagLines

/-!
# What is read is well formed

Reading passes over whatever it does not recognise, so nothing is required of a text. The diagram
that comes out of it satisfies `Diagram.WellFormed` all the same (`wellFormed_ofText`): names are
words and do not clash, markers are known, labels are trimmed, annotations are not empty and hold
no angle brackets, and every text of the diagram stands on one line.

Each of these is settled by the reader that produces the text in question. What remains is that a
class which is put together from several declarations is well formed if they are
(`ClassNode.WellFormed.merge`): merging adds methods and takes properties away, and it must do both
for `MembersApart` to survive.
-/

namespace DiagramDiff

open Text

/-! ## Well-formed diagrams -/

/-- A class with proper names, types and annotations. -/
structure ClassNode.WellFormed (c : ClassNode) : Prop where
  /-- Its name is a word. -/
  name : IsName c.name.toList
  /-- The names of its properties are words, and their types stand on one line. -/
  properties : ∀ p ∈ c.properties, IsName p.name.toList ∧ '\n' ∉ p.type.toList
  /-- The names of its methods are words. -/
  methods : ∀ m ∈ c.methods, IsName m.toList
  /-- No property bears the name of a method. -/
  apart : c.MembersApart
  /-- Its annotations are not empty, hold no angle brackets and stand on one line. -/
  annotations : ∀ a ∈ c.annotations,
    a ≠ "" ∧ '<' ∉ a.toList ∧ '>' ∉ a.toList ∧ '\n' ∉ a.toList

/-- A link with proper ends, a known marker and a trimmed label. -/
structure Link.WellFormed (l : Link) : Prop where
  /-- Its source is a word. -/
  source : IsName l.source.toList
  /-- Its target is a word. -/
  target : IsName l.target.toList
  /-- Its marker is one of the fourteen. -/
  marker : l.marker ∈ Link.markers
  /-- Its marker stands for a kind of link. -/
  kind : ∃ kind, l.kind? = some kind
  /-- Its label is trimmed. -/
  trimmed : trim l.label.toList = l.label.toList
  /-- Its label stands on one line. -/
  line : '\n' ∉ l.label.toList

/-- A diagram of classes of different names and of links, all of them well formed. -/
structure Diagram.WellFormed (d : Diagram) : Prop where
  /-- The names of the classes are pairwise distinct. -/
  distinct : (d.classes.map (·.name)).Nodup
  /-- The classes are well formed. -/
  classes : ∀ c ∈ d.classes, c.WellFormed
  /-- The links are well formed. -/
  links : ∀ l ∈ d.links, l.WellFormed

/-- The texts of which a class consists. -/
def ClassNode.texts (c : ClassNode) : List String :=
  c.name :: (c.properties.flatMap (fun p => [p.name, p.type]) ++ (c.methods ++ c.annotations))

/-- The texts of which a link consists. -/
def Link.texts (l : Link) : List String := [l.source, l.marker, l.target, l.label]

/-- The texts of which a diagram consists. -/
def Diagram.texts (d : Diagram) : List String :=
  d.classes.flatMap ClassNode.texts ++ d.links.flatMap Link.texts

/-- Every marker stands for a kind of link. -/
theorem Link.exists_kind {l : Link} (h : l.marker ∈ Link.markers) :
    ∃ kind, l.kind? = some kind := by
  have all : ∀ marker ∈ Link.markers, (LinkKind.ofMarker? marker).isSome = true := by decide
  exact Option.isSome_iff_exists.mp (all l.marker h)

/-- The texts of a well-formed diagram stand on one line each. -/
theorem Diagram.WellFormed.newline_not_mem {d : Diagram} (h : d.WellFormed) :
    ∀ text ∈ d.texts, '\n' ∉ text.toList := by
  have word : ∀ {text : String}, IsName text.toList → '\n' ∉ text.toList :=
    fun name => name.not_mem isWord_newline
  intro text member
  rcases List.mem_append.mp member with member | member
  · obtain ⟨c, hc, member⟩ := List.mem_flatMap.mp member
    have class_ := h.classes c hc
    simp only [ClassNode.texts, List.mem_cons, List.mem_append, List.mem_flatMap,
      List.not_mem_nil, or_false] at member
    rcases member with rfl | ⟨p, hp, rfl | rfl⟩ | hm | ha
    · exact word class_.name
    · exact word (class_.properties p hp).1
    · exact (class_.properties p hp).2
    · exact word (class_.methods text hm)
    · exact (class_.annotations text ha).2.2.2
  · obtain ⟨l, hl, member⟩ := List.mem_flatMap.mp member
    have link := h.links l hl
    simp only [Link.texts, List.mem_cons, List.not_mem_nil, or_false] at member
    rcases member with rfl | rfl | rfl | rfl
    · exact word link.source
    · exact Mermaid.newline_not_mem_marker link.marker
    · exact word link.target
    · exact link.line

namespace ClassNode.WellFormed

variable {c d : ClassNode}

/-- Merging keeps classes well formed. -/
theorem merge (h : c.WellFormed) (h' : d.WellFormed) : (c.merge d).WellFormed where
  name := h.name
  properties := by
    intro p hp
    rcases mem_of_mem_appendProperties hp with kept | ⟨added, -⟩
    · exact h.properties p (List.mem_filter.mp kept).1
    · exact h'.properties p added
  methods := by
    intro m hm
    rcases mem_appendNew.mp hm with known | added
    · exact h.methods m known
    · exact h'.methods m added
  apart := h.apart.merge
  annotations := by
    intro a ha
    rcases mem_appendNew.mp ha with known | added
    · exact h.annotations a known
    · exact h'.annotations a added

/-- A word may be added to the annotations. -/
theorem annotate (h : c.WellFormed) {tag : String} (ht : IsName tag.toList) :
    (c.annotate tag).WellFormed where
  name := h.name
  properties := h.properties
  methods := h.methods
  apart := h.apart
  annotations := by
    intro a ha
    rcases List.mem_append.mp ha with known | added
    · exact h.annotations a known
    · obtain rfl := List.mem_singleton.mp added
      refine ⟨?_, ht.not_mem (by decide), ht.not_mem (by decide), ht.not_mem isWord_newline⟩
      rintro rfl
      exact ht.1 rfl

end ClassNode.WellFormed

end DiagramDiff

namespace DiagramDiff.Mermaid

open Text

/-! ## Members stand on one line -/

/-- A member stands on one line. -/
theorem newline_not_mem_bodyMembers {body member : List Char} (h : member ∈ bodyMembers body) :
    '\n' ∉ member := by
  obtain ⟨inside, -⟩ := List.mem_filter.mp h
  obtain ⟨entry, he, rfl⟩ := List.mem_map.mp inside
  exact fun feed => newline_not_mem_entries he
    (withoutFinds_subset _ entry ((trim_within _).subset feed))

/-! ## Members -/

/-- The name of a method is a word. -/
theorem isName_of_methodName? {member name : List Char} (h : methodName? member = some name) :
    IsName name := by
  obtain ⟨suffix, rest, -, read⟩ := exists_of_mem_finds_atWordStart (List.mem_of_head? h)
  unfold readCall? at read
  cases word : readWord? suffix with
  | none => simp [word] at read
  | some result =>
    simp only [word] at read
    split at read
    · cases read
      exact isName_of_readWord? word
    · cases read

/-- A type and what follows it make up the text. -/
theorem typeTail_parts (inside : Bool) (text : List Char) :
    (typeTail inside text).1 ++ (typeTail inside text).2 = text := by
  induction text generalizing inside with
  | nil => rfl
  | cons c rest ih =>
    rw [typeTail]
    split
    · split
      · exact congrArg (c :: ·) (ih _)
      · rfl
    · split
      · exact congrArg (c :: ·) (ih _)
      · rfl

/-- A type is a part of the text it is read from. -/
theorem readType?_parts {text type left : List Char} (h : readType? text = some (type, left)) :
    type ++ left = text := by
  cases text with
  | nil => cases h
  | cons c rest =>
    rw [readType?] at h
    split at h
    · have parts := typeTail_parts false (c :: rest)
      rw [Option.some.inj h] at parts
      exact parts
    · cases h

/-- A name is a word, and its type is a part of the text it is read from. -/
theorem readNamed?_parts {text name : List Char} {type : Option (List Char)}
    (h : readNamed? text = some (name, type)) : IsName name ∧ ∀ t ∈ type, t ⊆ text := by
  unfold readNamed? at h
  cases word : readWord? text with
  | none => simp [word] at h
  | some result =>
    obtain ⟨first, after⟩ := result
    have behind : after <:+ text := readWord?_suffix word
    simp only [word] at h
    split at h
    · next rest colon =>
      cases read : readType? (dropBlanks rest) with
      | none => simp [read] at h
      | some result =>
        obtain ⟨t, left⟩ := result
        simp only [read] at h
        split at h
        · cases h
          refine ⟨isName_of_readWord? word, fun other same => ?_⟩
          obtain rfl := Option.mem_some_iff.mp same
          have blanks : dropBlanks rest <:+ rest := List.dropWhile_suffix isBlank
          have tail : ':' :: rest <:+ after := colon ▸ List.dropWhile_suffix isBlank
          have front : t ⊆ dropBlanks rest := readType?_parts read ▸ List.subset_append_left t left
          exact List.Subset.trans front
            (((blanks.trans (List.suffix_cons _ _)).trans tail).trans behind).subset
        · cases h
    · split at h
      · cases h
        exact ⟨isName_of_readWord? word, fun t absent => by cases absent⟩
      · cases h

/-- A name with a type in front is a word, and its type is a part of the text it is read from. -/
theorem readLed?_parts {text name : List Char} {type : Option (List Char)}
    (h : readLed? text = some (name, type)) : IsName name ∧ ∀ t ∈ type, t ⊆ text := by
  unfold readLed? at h
  cases read : readType? text with
  | none => simp [read] at h
  | some result =>
    obtain ⟨lead, after⟩ := result
    have whole := readType?_parts read
    simp only [read] at h
    split at h
    · obtain ⟨⟨first, own⟩, named, same⟩ := Option.map_eq_some_iff.mp h
      cases same
      obtain ⟨word, inside⟩ := readNamed?_parts named
      refine ⟨word, fun t ht => ?_⟩
      have behind : dropBlanks after ⊆ text :=
        whole ▸ ((List.dropWhile_suffix isBlank).trans (List.suffix_append lead after)).subset
      cases own with
      | none =>
        obtain rfl := Option.mem_some_iff.mp ht
        exact whole ▸ List.subset_append_left lead after
      | some type => exact List.Subset.trans (inside t ht) behind
    · cases h

/-- The name of a property is a word, and its type stands on the line of its member. -/
theorem readProperty?_parts {member : List Char} {p : Property} (hm : '\n' ∉ member)
    (h : readProperty? member = some p) : IsName p.name.toList ∧ '\n' ∉ p.type.toList := by
  have shorter : skipVisibility member ⊆ member := by
    unfold skipVisibility
    split
    · next c rest =>
      split
      · exact ((List.dropWhile_suffix isBlank).trans (List.suffix_cons c rest)).subset
      · exact List.Subset.refl _
    · exact List.Subset.refl _
  obtain ⟨⟨name, type⟩, read, rfl⟩ := Option.map_eq_some_iff.mp h
  have parts : IsName name ∧ ∀ t ∈ type, t ⊆ skipVisibility member := by
    rcases Option.or_eq_some_iff.mp read with led | ⟨-, named⟩
    · exact readLed?_parts led
    · exact readNamed?_parts named
  refine ⟨by rw [String.toList_ofList]; exact parts.1, ?_⟩
  cases type with
  | none =>
    have untyped : '\n' ∉ Property.untypedName.toList := by decide
    exact untyped
  | some t =>
    show '\n' ∉ (String.ofList t).toList
    rw [String.toList_ofList]
    exact fun feed => hm (shorter (parts.2 t rfl feed))

/-! ## Stereotypes and annotations -/

/-- The name in a stereotype is not empty and holds characters of it. -/
theorem stereotypeName_parts {inner : List Char} (h : inner ≠ []) :
    stereotypeName inner ≠ [] ∧ stereotypeName inner ⊆ inner := by
  unfold stereotypeName
  split
  · obtain ⟨front, last, rfl⟩ := List.eq_nil_or_concat inner |>.resolve_left h
    simp
  · next filled =>
    refine ⟨by simpa using filled, ?_⟩
    have start : dropBlanks inner ⊆ inner := (List.dropWhile_suffix isBlank).subset
    intro c hc
    rw [trimBlanks, List.mem_reverse] at hc
    exact start (List.mem_reverse.mp ((List.dropWhile_suffix isBlank).subset hc))

/-- A stereotype of an entry is not empty, holds no angle brackets and stands on one line. -/
theorem entryStereotypes_parts {entry name : List Char} (h : name ∈ entryStereotypes entry) :
    name ≠ [] ∧ '<' ∉ name ∧ '>' ∉ name ∧ '\n' ∉ name := by
  obtain ⟨_, suffix, left, -, read⟩ := exists_of_mem_finds h
  unfold readStereotype? at read
  split at read
  · next rest =>
    dsimp only at read
    split at read
    · split at read
      · cases read
      · next filled =>
        cases read
        have nonempty : rest.takeWhile isStereotypeChar ≠ [] := by simpa using filled
        obtain ⟨named, inside⟩ := stereotypeName_parts nonempty
        have all : ∀ c ∈ rest.takeWhile isStereotypeChar, isStereotypeChar c = true :=
          fun c hc => List.mem_takeWhile_imp hc
        refine ⟨named, fun hc => ?_, fun hc => ?_, fun hc => ?_⟩
        · cases all _ (inside hc)
        · cases all _ (inside hc)
        · cases all _ (inside hc)
    · cases read
  · cases read

/-- The annotation of a line is a word. -/
theorem isName_of_readTagLine? {line : List Char} {tag name : String}
    (h : readTagLine? line = some (tag, name)) : IsName tag.toList := by
  obtain ⟨_, _, _, _, _, word, -⟩ := readTagLine?_eq_some h
  exact isName_of_readWord? word

/-! ## Classes and links -/

/-- A declared class is well formed. -/
theorem wellFormed_classNode {text : List Char} {d : Declaration} (h : d ∈ declarations text) :
    d.classNode.WellFormed where
  name := by
    show IsName (String.ofList d.name).toList
    rw [String.toList_ofList]
    exact isName_of_mem_declarations h
  properties := by
    intro p hp
    obtain ⟨read, -⟩ := List.mem_filter.mp hp
    obtain ⟨member, hm, property⟩ := List.mem_filterMap.mp read
    exact readProperty?_parts (newline_not_mem_bodyMembers (List.mem_filter.mp hm).1) property
  methods := by
    intro m hm
    obtain ⟨member, -, method⟩ := List.mem_filterMap.mp hm
    obtain ⟨name, named, rfl⟩ := Option.map_eq_some_iff.mp method
    rw [String.toList_ofList]
    exact isName_of_methodName? named
  apart := membersApart_classOfBody _ _
  annotations := by
    intro a ha
    obtain ⟨entry, -, member⟩ := List.mem_flatMap.mp ha
    obtain ⟨name, hn, rfl⟩ := List.mem_map.mp member
    obtain ⟨nonempty, inner⟩ := entryStereotypes_parts hn
    rw [String.toList_ofList]
    exact ⟨fun empty => nonempty (by simpa using congrArg String.toList empty), inner⟩

/-- A class of a text is well formed. -/
theorem wellFormed_textClasses (text : List Char) : ∀ c ∈ textClasses text, c.WellFormed := by
  refine textClasses_forall (fun d hd => wellFormed_classNode hd) (fun c d h h' => h.merge h') ?_
  intro c tag ht h
  obtain ⟨line, -, read⟩ := List.mem_filterMap.mp ht
  exact h.annotate (isName_of_readTagLine? read)

/-- A link of a text is well formed. -/
theorem wellFormed_textLinks (text : List Char) : ∀ l ∈ textLinks text, l.WellFormed := by
  intro l hl
  obtain ⟨link, member, rfl⟩ := List.mem_map.mp hl
  obtain ⟨suffix, left, -, read⟩ := exists_of_mem_finds_atWordStart member
  obtain ⟨after, rest, source, marker, -, target⟩ := readLink?_eq_some read
  obtain ⟨behind, word, ending⟩ := readTarget?_eq_some target
  have line : '\n' ∉ link.label.getD [] := by
    rcases ending with ⟨none, -⟩ | ⟨label, -, some, -⟩
    · rw [none]
      exact List.not_mem_nil
    · rw [some]
      exact fun feed => absurd (List.mem_takeWhile_imp feed) (by decide)
  have label : (LinkText.link link).label.toList = trim (link.label.getD []) :=
    String.toList_ofList
  constructor
  · show IsName (String.ofList link.source).toList
    rw [String.toList_ofList]
    exact isName_of_readWord? source
  · show IsName (String.ofList link.target).toList
    rw [String.toList_ofList]
    exact isName_of_readWord? word
  · exact marker
  · exact Link.exists_kind marker
  · rw [label]
    exact (isTrimmed_trim _).trim_eq
  · rw [label]
    exact fun feed => line ((trim_within _).subset feed)

end DiagramDiff.Mermaid

namespace DiagramDiff.Diagram

open Mermaid

/-- Whatever a text is, the diagram read from it is well formed and each of its texts stands on one
line. -/
theorem wellFormed_ofText (text : String) :
    (ofText text).WellFormed ∧ ∀ part ∈ (ofText text).texts, '\n' ∉ part.toList := by
  have formed : (ofText text).WellFormed :=
    ⟨nodup_names_ofChars text.toList, wellFormed_textClasses _, wellFormed_textLinks _⟩
  exact ⟨formed, formed.newline_not_mem⟩

end DiagramDiff.Diagram
