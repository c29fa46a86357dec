import DiagramDiff.Proofs.Comparison.Account
import DiagramDiff.Proofs.Comparison.FindingOrigins
import DiagramDiff.Proofs.Listing.Rows
import DiagramDiff.Proofs.Mermaid.WellFormed

/-!
# The lines of a report

The text of a report on two texts has one line for the verdict, one for each difference and one for
each hint, and nothing that the texts hold can add another one (`compareTexts_render`).

A message is put together from the names and types that its finding carries (`Finding.parts`), so
it stands on one line if they do. Those of a comparison are texts of the two diagrams
(`Diagram.Origin.mem_texts`), and whatever is read from a text has no line feed in any of its texts.
This is no property of reports as such: the message of a difference that is read from a document may
hold any characters.
-/

namespace DiagramDiff

open Text

/-! ## Texts on one line -/

/-- The text has no line feed. -/
def IsLine (text : String) : Prop := '\n' ∉ text.toList

instance (text : String) : Decidable (IsLine text) := inferInstanceAs (Decidable (_ ∉ _))

/-- Two texts in a row are one line if both of them are. -/
theorem isLine_append {text rest : String} : IsLine (text ++ rest) ↔ IsLine text ∧ IsLine rest := by
  simp only [IsLine, String.toList_append, List.mem_append, not_or]

/-- Words with commas between them are one line if each of them is. -/
theorem isLine_listed {words : List String} (h : ∀ word ∈ words, IsLine word) :
    IsLine (Finding.listed words) := by
  have comma : '\n' ∉ ", ".toList := by decide
  rw [IsLine, Finding.listed, String.toList_intercalate]
  induction words with
  | nil => exact List.not_mem_nil
  | cons word words ih =>
    have first : '\n' ∉ word.toList := h word List.mem_cons_self
    have later := ih fun other member => h other (List.mem_cons_of_mem word member)
    cases words with
    | nil => simpa using first
    | cons next words =>
      rw [List.map_cons] at later
      rw [List.map_cons, List.map_cons, List.intercalate_cons_cons]
      simp only [List.mem_append, not_or]
      exact ⟨⟨first, comma⟩, later⟩

/-! ## Messages -/

/-- The names and types that a finding carries. -/
def Finding.parts : Finding → List String
  | .error => []
  | .classesMissing classes | .classesAdded classes => classes
  | .propertiesMissing className properties =>
    className :: properties.flatMap fun p => [p.name, p.type]
  | .methodsMissing className methods => className :: methods
  | .propertyChanged className propertyName oldType newType =>
    [className, propertyName, oldType, newType]
  | .linksMissing links | .linksAdded links => links.flatMap Link.texts

/-- Properties whose names and types are lines are listed on one line. -/
theorem isLine_listed_properties {properties : List Property}
    (h : ∀ part ∈ properties.flatMap (fun p => [p.name, p.type]), IsLine part) :
    IsLine (Finding.listed (properties.map Property.shown)) := by
  refine isLine_listed fun shown member => ?_
  obtain ⟨p, hp, rfl⟩ := List.mem_map.mp member
  have part : ∀ text ∈ [p.name, p.type], IsLine text := fun text inside =>
    h text (List.mem_flatMap.mpr ⟨p, hp, inside⟩)
  rw [Property.shown, isLine_append, isLine_append]
  exact ⟨⟨part p.name (by simp), by decide⟩, part p.type (by simp)⟩

/-- Links whose texts are lines are listed on one line. -/
theorem isLine_listed_links {links : List Link}
    (h : ∀ part ∈ links.flatMap Link.texts, IsLine part) :
    IsLine (Finding.listed (links.map Link.shown)) := by
  refine isLine_listed fun shown member => ?_
  obtain ⟨l, hl, rfl⟩ := List.mem_map.mp member
  have part : ∀ text ∈ l.texts, IsLine text := fun text inside =>
    h text (List.mem_flatMap.mpr ⟨l, hl, inside⟩)
  simp only [Link.shown, isLine_append]
  exact ⟨⟨⟨⟨part l.source (by simp [Link.texts]), by decide⟩, part l.marker (by simp [Link.texts])⟩,
    by decide⟩, part l.target (by simp [Link.texts])⟩

/-- A message is one line if the parts of its finding are. -/
theorem Finding.isLine_message {f : Finding} (h : ∀ part ∈ f.parts, IsLine part) :
    IsLine f.message := by
  cases f with
  | error => decide
  | classesMissing classes =>
    unfold message
    simp only [isLine_append]
    exact ⟨by decide, isLine_listed h⟩
  | classesAdded classes =>
    unfold message
    simp only [isLine_append]
    exact ⟨by decide, isLine_listed h⟩
  | propertiesMissing className properties =>
    obtain ⟨name, listed⟩ := List.forall_mem_cons.mp h
    unfold message
    simp only [isLine_append]
    exact ⟨⟨⟨by decide, name⟩, by decide⟩, isLine_listed_properties listed⟩
  | methodsMissing className methods =>
    obtain ⟨name, listed⟩ := List.forall_mem_cons.mp h
    unfold message
    simp only [isLine_append]
    exact ⟨⟨⟨by decide, name⟩, by decide⟩, isLine_listed listed⟩
  | propertyChanged className propertyName oldType newType =>
    simp only [parts, List.forall_mem_cons] at h
    obtain ⟨name, property, old, new, -⟩ := h
    unfold message
    simp only [isLine_append]
    exact ⟨⟨⟨⟨⟨⟨⟨by decide, property⟩, by decide⟩, name⟩, by decide⟩, old⟩, by decide⟩, new⟩
  | linksMissing links =>
    unfold message
    simp only [isLine_append]
    exact ⟨by decide, isLine_listed_links h⟩
  | linksAdded links =>
    unfold message
    simp only [isLine_append]
    exact ⟨by decide, isLine_listed_links h⟩

/-- A hint is one line if its names are. -/
theorem RenameHint.isLine_message {missing added : String} (hm : IsLine missing) (ha : IsLine added)
    (similarity : Binary64) : IsLine (RenameHint.of missing added similarity).message := by
  unfold RenameHint.of
  simp only [isLine_append]
  exact ⟨⟨⟨⟨by decide, hm⟩, by decide⟩, ha⟩, by decide⟩

/-! ## What a comparison puts into words -/

/-- The parts of a finding about the members of a class are texts of the two classes. -/
theorem ClassNode.MemberOrigin.parts_subset {c other : ClassNode} {f : Finding}
    (h : c.MemberOrigin other f) : ∀ part ∈ f.parts, part ∈ c.texts ∨ part ∈ other.texts := by
  have property : ∀ {d : ClassNode} {p : Property}, p ∈ d.properties →
      p.name ∈ d.texts ∧ p.type ∈ d.texts := by
    intro d p hp
    have inside : ∀ text ∈ [p.name, p.type], text ∈ d.texts := fun text member =>
      List.mem_cons_of_mem _
        (List.mem_append_left _ (List.mem_flatMap.mpr ⟨p, hp, member⟩))
    exact ⟨inside p.name (by simp), inside p.type (by simp)⟩
  cases h with
  | propertiesMissing some_missing =>
    rintro part (_ | ⟨_, member⟩)
    · exact .inl List.mem_cons_self
    · obtain ⟨p, hp, inside⟩ := List.mem_flatMap.mp member
      obtain ⟨name, type⟩ := property (List.mem_filter.mp hp).1
      rcases List.mem_pair.mp inside with rfl | rfl
      · exact .inl name
      · exact .inl type
  | methodsMissing some_missing =>
    rintro part (_ | ⟨_, member⟩)
    · exact .inl List.mem_cons_self
    · have method : part ∈ c.methods := (List.mem_filter.mp member).1
      exact .inl (List.mem_cons_of_mem _
        (List.mem_append_right _ (List.mem_append_left _ method)))
  | @propertyChanged p q member found differs =>
    obtain ⟨name, type⟩ := property member
    obtain ⟨-, other_type⟩ := property (List.mem_of_find?_eq_some found)
    intro part inside
    simp only [Finding.parts, List.mem_cons, List.not_mem_nil, or_false] at inside
    rcases inside with rfl | rfl | rfl | rfl
    · exact .inl List.mem_cons_self
    · exact .inl name
    · exact .inl type
    · exact .inr other_type

namespace Diagram

variable {reference candidate : Diagram}

/-- The texts of a class are texts of its diagram. -/
theorem mem_texts_of_class {d : Diagram} {c : ClassNode} {text : String} (h : c ∈ d.classes)
    (member : text ∈ c.texts) : text ∈ d.texts :=
  List.mem_append_left _ (List.mem_flatMap.mpr ⟨c, h, member⟩)

/-- The name of an absent class is a text of the diagram that has it. -/
theorem mem_texts_of_mem_absentClasses {d other : Diagram} {name : String}
    (h : name ∈ absentClasses d.classes other) : name ∈ d.texts := by
  obtain ⟨c, hc, rfl⟩ := exists_class_of_mem_absentClasses h
  exact mem_texts_of_class hc List.mem_cons_self

/-- The texts of absent links are texts of the diagram that has them. -/
theorem mem_texts_of_mem_absentLinks {d other : Diagram} {text : String}
    (h : text ∈ (absentLinks d.links other).flatMap Link.texts) : text ∈ d.texts := by
  obtain ⟨l, hl, member⟩ := List.mem_flatMap.mp h
  exact List.mem_append_right _
    (List.mem_flatMap.mpr ⟨l, mem_of_mem_absentLinks hl, member⟩)

/-- The parts of a finding are texts of the two diagrams. -/
theorem Origin.mem_texts {f : Finding} (h : Origin reference candidate f) :
    ∀ part ∈ f.parts, part ∈ reference.texts ∨ part ∈ candidate.texts := by
  intro part inside
  cases h with
  | classesMissing some => exact .inl (mem_texts_of_mem_absentClasses inside)
  | classesAdded some => exact .inr (mem_texts_of_mem_absentClasses inside)
  | members first shared told =>
    have known := mem_of_mem_firstOccurrences first
    have own := List.mem_of_find?_eq_some shared
    exact (told.parts_subset part inside).imp (mem_texts_of_class known) (mem_texts_of_class own)
  | linksMissing some => exact .inl (mem_texts_of_mem_absentLinks inside)
  | linksAdded some => exact .inr (mem_texts_of_mem_absentLinks inside)

/-- The texts of a diagram that is read are lines. -/
theorem isLine_of_mem_texts {text : List Char} {part : String} (h : part ∈ (ofChars text).texts) :
    IsLine part :=
  WellFormed.newline_not_mem
    ⟨nodup_names_ofChars text, Mermaid.wellFormed_textClasses _, Mermaid.wellFormed_textLinks _⟩
    part h

end Diagram

/-- A pair of names is one of a missing and a free name. -/
theorem exists_names_of_mem_pairNames {threshold : Binary64} {missing : List String}
    {free : List (String × Nat)} {pair : Nat × RenameHint}
    (h : pair ∈ pairNames threshold missing free) :
    ∃ m ∈ missing, ∃ entry ∈ free, ∃ s, pair.2 = RenameHint.of m entry.1 s := by
  induction missing generalizing free with
  | nil => cases h
  | cons name rest ih =>
    have later : ∀ {left : List (String × Nat)}, left ⊆ free → pair ∈ pairNames threshold rest left →
        ∃ m ∈ name :: rest, ∃ entry ∈ free, ∃ s, pair.2 = RenameHint.of m entry.1 s := by
      intro left fewer member
      obtain ⟨m, hm, entry, he, s, same⟩ := ih member
      exact ⟨m, List.mem_cons_of_mem name hm, entry, fewer he, s, same⟩
    unfold pairNames at h
    split at h
    · exact later (List.Subset.refl free) h
    · next added position s best =>
      split at h
      · rcases List.mem_cons.mp h with rfl | h
        · exact ⟨name, List.mem_cons_self, _, (mem_of_firstBest best).1, s, rfl⟩
        · exact later (List.filter_subset_self _) h
      · exact later (List.Subset.refl free) h

/-- A hint is about a missing and an added name. -/
theorem exists_names_of_mem_renameHints {threshold : Binary64} {missing added : List String}
    {hint : RenameHint} (h : hint ∈ renameHints threshold missing added) :
    ∃ m ∈ missing, ∃ a ∈ added, ∃ s, hint = RenameHint.of m a s := by
  obtain ⟨pair, paired, rfl⟩ := List.mem_map.mp h
  obtain ⟨m, hm, entry, he, s, same⟩ := exists_names_of_mem_pairNames paired
  exact ⟨m, hm, entry.1, (List.mem_zipIdx' he).2 ▸ List.getElem_mem _, s, same⟩

/-! ## Reports on texts -/

namespace Report

/-- A verdict is one of two phrases, the second of them with a number. -/
theorem not_mem_verdict {c : Char} (digit : c.isDigit = false)
    (phrases : c ∉ "identical difference(s)".toList) (r : Report) : c ∉ r.verdict.toList := by
  have both : "identical difference(s)".toList = "identical".toList ++ " difference(s)".toList := by
    decide
  rw [both, List.mem_append, not_or] at phrases
  unfold verdict
  split
  · exact phrases.1
  · rw [String.toList_append, List.mem_append, not_or]
    exact ⟨not_mem_toString digit _, phrases.2⟩

/-- A report whose messages are lines. -/
structure SpeaksInLines (r : Report) : Prop where
  /-- The messages of the differences are lines. -/
  differences : ∀ d ∈ r.differences, IsLine d.message
  /-- The messages of the hints are lines. -/
  hints : ∀ h ∈ r.hints, IsLine h.message

/-- The lines of a report stay apart if its messages are lines. -/
theorem SpeaksInLines.pieces_render {r : Report} (h : r.SpeaksInLines) :
    pieces (r.render false).toList = (r.textLines false).map String.toList ++ [[]] := by
  refine pieces_endedLines fun line member => ?_
  show IsLine line
  rcases List.mem_cons.mp member with rfl | member
  · exact not_mem_verdict (by decide) (by decide) r
  · split at member
    · cases member
    · rcases List.mem_append.mp member with member | member
      · obtain ⟨d, hd, rfl⟩ := List.mem_map.mp member
        rw [differenceLine, paint_false, isLine_append]
        exact ⟨by decide, h.differences d hd⟩
      · obtain ⟨hint, hh, rfl⟩ := List.mem_map.mp member
        rw [hintLine, isLine_append]
        exact ⟨by decide, h.hints hint hh⟩

end Report

/-- The report on two diagrams that are read speaks in lines. -/
theorem Diagram.speaksInLines_compare (options : ComparisonOptions) (r c : List Char) :
    (compare options (ofChars r) (ofChars c)).SpeaksInLines where
  differences := by
    intro d hd
    rw [differences_compare] at hd
    obtain ⟨f, hf, rfl⟩ := List.mem_map.mp hd
    refine Finding.isLine_message fun part inside => ?_
    rcases (mem_findings_iff.mp hf).mem_texts part inside with text | text
    · exact isLine_of_mem_texts text
    · exact isLine_of_mem_texts text
  hints := by
    intro hint member
    change hint ∈ hints options (ofChars r) (ofChars c) at member
    unfold hints at member
    split at member
    · obtain ⟨m, hm, a, ha, s, rfl⟩ := exists_names_of_mem_renameHints member
      exact RenameHint.isLine_message (isLine_of_mem_texts (mem_texts_of_mem_absentClasses hm))
        (isLine_of_mem_texts (mem_texts_of_mem_absentClasses ha)) s
    · cases member

/-- The report on two texts speaks in lines. -/
theorem speaksInLines_compareTexts (options : ComparisonOptions) (reference candidate : String) :
    (compareTexts options reference candidate).SpeaksInLines := by
  unfold compareTexts
  dsimp only
  split
  · refine ⟨fun d hd => ?_, fun _ none => (List.not_mem_nil none).elim⟩
    rw [List.mem_singleton.mp hd]
    exact Finding.isLine_message fun _ none => (List.not_mem_nil none).elim
  · split
    · exact ⟨fun _ none => (List.not_mem_nil none).elim, fun _ none => (List.not_mem_nil none).elim⟩
    · exact Diagram.speaksInLines_compare options _ _

/-- Where a report on two texts finds nothing different it has neither differences nor hints. -/
theorem eq_nil_of_identical_compareTexts {options : ComparisonOptions}
    {reference candidate : String}
    (h : (compareTexts options reference candidate).identical = true) :
    (compareTexts options reference candidate).differences = [] ∧
      (compareTexts options reference candidate).hints = [] := by
  unfold compareTexts at h ⊢
  dsimp only at h ⊢
  split at h
  · cases h
  · next filled =>
    rw [if_neg filled]
    split at h
    · next same =>
      rw [if_pos same]
      exact ⟨rfl, rfl⟩
    · next other =>
      rw [if_neg other]
      have none := Diagram.compare_identical_iff.mp h
      rw [Diagram.differences_compare, none]
      exact ⟨rfl, Diagram.hints_eq_nil none⟩

/-- A report that has nothing to tell where it finds nothing different has a line for everything
that it has to tell. -/
theorem Report.textLines_false {r : Report}
    (h : r.identical = true → r.differences = [] ∧ r.hints = []) :
    r.textLines false = r.verdict :: (r.differences.map (fun d => "  - " ++ d.message) ++
      r.hints.map fun h => "  hint: " ++ h.message) := by
  have told : r.differences.map (differenceLine false) =
      r.differences.map fun d => "  - " ++ d.message :=
    List.map_congr_left fun d _ => by rw [differenceLine, paint_false]
  unfold textLines
  rw [told]
  split
  · next identical =>
    obtain ⟨differences, hints⟩ := h identical
    rw [differences, hints]
    rfl
  · rfl

/-- The report on two texts is one line for the verdict, one for each difference and one for each
hint, whatever the texts hold, and the one line `identical` where it finds nothing different. -/
theorem compareTexts_render (options : ComparisonOptions) (reference candidate : String) :
    let r := compareTexts options reference candidate
    ∃ lines : List String,
      pieces (r.render false).toList = lines.map String.toList ++ [[]] ∧
        lines = r.verdict :: (r.differences.map (fun d => "  - " ++ d.message) ++
          r.hints.map fun h => "  hint: " ++ h.message) ∧
        lines.length = 1 + r.differences.length + r.hints.length ∧
        (r.identical = true → r.render false = "identical\n" ∧ r.hints = []) := by
  intro r
  have told := r.textLines_false eq_nil_of_identical_compareTexts
  refine ⟨r.textLines false, (speaksInLines_compareTexts options _ _).pieces_render, told, ?_, ?_⟩
  · rw [told, List.length_cons, List.length_append, List.length_map, List.length_map]
    omega
  · intro identical
    obtain ⟨-, hints⟩ := eq_nil_of_identical_compareTexts identical
    refine ⟨?_, hints⟩
    rw [Report.render, Report.textLines, if_pos identical, Report.verdict, if_pos identical]
    rfl

/-- A class is misspelt, and then it is not. -/
theorem compareTexts_render_dog :
    (compareTexts .usual "class Dog" "class Dog\n").identical = true ∧
      (compareTexts .usual "class Dog" "class Dog\n").render false = "identical\n" ∧
      (compareTexts .usual "class Dog" "class Dogs").render false =
        "2 difference(s)\n  - Classes missing in user code: Dog\n" ++
          "  - Extra classes in user code: Dogs\n  hint: Did you mean Dog instead of Dogs?\n" := by
  have same : (compareTexts .usual "class Dog" "class Dog\n").identical = true := by
    decide +kernel
  obtain ⟨_, -, -, -, alone⟩ := compareTexts_render .usual "class Dog" "class Dog\n"
  exact ⟨same, (alone same).1, by decide +kernel⟩

end DiagramDiff
