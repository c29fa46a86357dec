import DiagramDiff.Proofs.Attribution.MemberPlaces
import DiagramDiff.Proofs.Attribution.Scopes
import DiagramDiff.Proofs.Comparison.FindingOrigins

/-!
# What the candidate contains stands on its lines

Some differences speak of things that the candidate contains: added classes and links, and the
classes whose members are incomplete. Their names come out of a text that is trimmed and whose
comments and labels are blanked, and they are looked for on the lines of the candidate as they are.

They are found there. The name of a class is a word of the text it is read from, and a word stands
on one line (`exists_line_of_class`); a link is read from one line, with both of its ends
(`exists_line_of_link`). A line that holds the names of one thing matches the difference in any
scope, so some line is attributed to it or to an earlier one (`named_things_located`).

Nothing of the kind holds of the other differences. What is missing need not be named anywhere in
the candidate, and the line of a changed property need not be in the scope of its class.
-/

namespace DiagramDiff

open Text

namespace Mermaid

/-! ## Classes -/

/-- A word in a text stands on one of its lines. -/
theorem exists_line_of_infix {text word : List Char} (one : '\n' ∉ word) (inside : word <:+: text) :
    ∃ (i : Nat) (line : List Char), (pieces text)[i]? = some line ∧ word <:+: line := by
  obtain ⟨before, after, parts⟩ := inside
  have whole : text = before ++ (word ++ after) := by rw [← parts, List.append_assoc]
  obtain ⟨line, here, begins⟩ := exists_line_of_parts whole one
  exact ⟨_, line, here, (List.suffix_append _ word).isInfix.trans begins.isInfix⟩

/-- The name that a declaration gives stands in the text. -/
theorem name_infix_of_mem_declarations {text : List Char} {d : Declaration}
    (h : d ∈ declarations text) : d.name <:+: text := by
  obtain ⟨start, left, behind, read⟩ := exists_of_mem_finds_atWordStart h
  obtain ⟨rest, after, rfl, -, word, -⟩ := readDeclaration?_eq_some read
  have begins : d.name <+: dropBlanks rest := ⟨after, (readWord?_parts word).symm⟩
  have ends : dropBlanks rest <:+ text :=
    (List.dropWhile_suffix isBlank).trans ((List.suffix_append _ rest).trans behind)
  exact begins.isInfix.trans ends.isInfix

/-- The name of a declared class is a word of the text. -/
theorem name_infix_of_mem_declaredClasses {text : List Char} :
    ∀ c ∈ declaredClasses text, IsName c.name.toList ∧ c.name.toList <:+: text := by
  unfold declaredClasses
  apply ClassNode.foldl_declare_forall
  · intro c other hc _
    exact hc
  · intro c none
    cases none
  · intro c hc
    obtain ⟨d, hd, rfl⟩ := List.mem_map.mp hc
    show IsName (String.ofList d.name).toList ∧ (String.ofList d.name).toList <:+: text
    rw [String.toList_ofList]
    exact ⟨isName_of_mem_declarations hd, name_infix_of_mem_declarations hd⟩

/-- The name of a class that is read from a text, once it is trimmed, stands on a line of the
text. -/
theorem exists_line_of_class {text : List Char} {c : ClassNode}
    (h : c ∈ (Diagram.ofChars (trim text)).classes) :
    ∃ line ∈ visibleLines text, c.name.toList <:+: line := by
  have listed : c.name ∈ (Diagram.ofChars (trim text)).classes.map (·.name) :=
    List.mem_map_of_mem h
  rw [Diagram.map_name_ofChars] at listed
  obtain ⟨declared, there, same⟩ := List.mem_map.mp listed
  have shown : declared ∈ declaredClasses (shownText text) :=
    declaredClasses_shownText_trim text ▸ there
  obtain ⟨word, inside⟩ := name_infix_of_mem_declaredClasses declared shown
  rw [same] at word inside
  obtain ⟨i, line, here, onLine⟩ := exists_line_of_infix (word.not_mem (by decide)) inside
  obtain ⟨seen, present, named⟩ := exists_seen_of_word word here onLine
  exact ⟨seen, List.mem_of_getElem? present, named⟩

/-! ## Links -/

/-- A link is read from one line. -/
theorem exists_line_of_mem_textLinks {text : List Char} {l : Link} (h : l ∈ textLinks text) :
    ∃ line ∈ pieces text, l ∈ textLinks line := by
  induction text using lines_induction with
  | last text ht =>
    rw [pieces_of_not_mem ht]
    exact ⟨text, List.mem_singleton_self text, h⟩
  | line first rest hf ih =>
    rw [pieces_line, pieces_of_not_mem hf]
    rw [textLinks_line] at h
    rcases List.mem_append.mp h with here | later
    · exact ⟨first, List.mem_cons_self, here⟩
    · obtain ⟨line, member, inside⟩ := ih later
      exact ⟨line, List.mem_cons_of_mem first member, inside⟩

/-- The target that is read stands in the text. -/
theorem target_infix_of_readTarget? {text target left : List Char} {label : Option (List Char)}
    (h : readTarget? text = some (target, label, left)) : target <:+: text := by
  obtain ⟨after, word, -⟩ := readTarget?_eq_some h
  have begins : target <+: skipCardinality (dropBlanks text) := ⟨after, (readWord?_parts word).symm⟩
  have ends : skipCardinality (dropBlanks text) <:+ text :=
    (skipCardinality_suffix _).trans (List.dropWhile_suffix isBlank)
  exact begins.isInfix.trans ends.isInfix

/-- Both ends of a link stand in the text that it is read from. -/
theorem ends_infix_of_mem_textLinks {text : List Char} {l : Link} (h : l ∈ textLinks text) :
    l.source.toList <:+: text ∧ l.target.toList <:+: text := by
  obtain ⟨link, member, rfl⟩ := List.mem_map.mp h
  obtain ⟨start, left, behind, read⟩ := exists_of_mem_finds_atWordStart member
  obtain ⟨after, rest, word, -, parts, target⟩ := readLink?_eq_some read
  show (String.ofList link.source).toList <:+: text ∧ (String.ofList link.target).toList <:+: text
  rw [String.toList_ofList, String.toList_ofList]
  have begins : link.source <+: start := ⟨after, (readWord?_parts word).symm⟩
  have marked : rest <:+ skipCardinality (dropBlanks after) := ⟨link.marker.toList, parts⟩
  have passed : skipCardinality (dropBlanks after) <:+ after :=
    (skipCardinality_suffix _).trans (List.dropWhile_suffix isBlank)
  have ends : rest <:+ start := marked.trans (passed.trans (readWord?_suffix word))
  exact ⟨begins.isInfix.trans behind.isInfix,
    (target_infix_of_readTarget? target).trans (ends.trans behind).isInfix⟩

/-- The ends of a link that is read from a text, once it is trimmed, stand on one line of the
text. -/
theorem exists_line_of_link {text : List Char} {l : Link}
    (h : l ∈ (Diagram.ofChars (trim text)).links) :
    ∃ line ∈ visibleLines text, l.source.toList <:+: line ∧ l.target.toList <:+: line := by
  rw [Diagram.links_ofChars, textLinks_congr (map_trim_spokenLines_trim text)] at h
  obtain ⟨source, target⟩ : IsName l.source.toList ∧ IsName l.target.toList := by
    have formed := wellFormed_textLinks _ l h
    exact ⟨formed.source, formed.target⟩
  obtain ⟨line, member, read⟩ := exists_line_of_mem_textLinks h
  obtain ⟨fromLine, toLine⟩ := ends_infix_of_mem_textLinks read
  rw [pieces_stripComments] at member
  obtain ⟨own, there, shown⟩ := List.mem_map.mp member
  have solid : line ≠ [] := by
    rintro rfl
    exact source.1 (List.infix_nil.mp fromLine)
  -- The line is no comment, since comments are emptied.
  obtain ⟨-, rfl⟩ := emptyComment_eq shown solid
  obtain ⟨i, here⟩ := List.mem_iff_getElem?.mp there
  obtain ⟨seen, present, rfl | rfl⟩ := exists_visibleLine here solid
  · exact ⟨_, List.mem_of_getElem? present, fromLine, toLine⟩
  · exact ⟨_, List.mem_of_getElem? present, infix_dropReturn source fromLine,
      infix_dropReturn target toLine⟩

end Mermaid

/-! ## Differences that name things of the candidate -/

/-- The kinds of findings that speak of things that the candidate contains. -/
def FindingKind.ofContained : List FindingKind :=
  [.classesAdded, .linksAdded, .propertiesMissing, .methodsMissing]

/-- The names of the things of the candidate of which a finding speaks, those of one thing
together. -/
def Finding.containedNames : Finding → List (List String)
  | .classesAdded classes => classes.map fun name => [name]
  | .linksAdded links => links.map fun l => [l.source, l.target]
  | .propertiesMissing className _ | .methodsMissing className _ => [[className]]
  | _ => []

/-- A line that holds the names of one thing matches the finding in any scope. -/
theorem Finding.matchesLine_of_contained {f : Finding} {names : List String}
    (listed : names ∈ f.containedNames) {line : List Char}
    (held : ∀ name ∈ names, name.toList <:+: line) (scope : Option (List Char)) :
    f.matchesLine line scope = true := by
  have mention : ∀ name ∈ names, mentions line name = true := by
    intro name hn
    exact occursIn_iff.mpr (held name hn)
  cases f with
  | classesAdded classes =>
    obtain ⟨name, hn, rfl⟩ := List.mem_map.mp listed
    exact List.any_eq_true.mpr ⟨name, hn, mention name List.mem_cons_self⟩
  | linksAdded links =>
    obtain ⟨l, hl, rfl⟩ := List.mem_map.mp listed
    refine List.any_eq_true.mpr ⟨l, hl, ?_⟩
    rw [mention l.source (by simp), mention l.target (by simp)]
    rfl
  | propertiesMissing className properties =>
    obtain rfl := List.mem_singleton.mp listed
    exact mention className List.mem_cons_self
  | methodsMissing className methods =>
    obtain rfl := List.mem_singleton.mp listed
    exact mention className List.mem_cons_self
  | error => cases listed
  | classesMissing classes => cases listed
  | propertyChanged className propertyName oldType newType => cases listed
  | linksMissing links => cases listed

section contained

variable {reference : Diagram} {candidate : List Char} {f : Finding}

/-- A finding that speaks of things of the candidate names one. -/
theorem Diagram.Origin.containedNames_ne_nil {reference candidate : Diagram}
    (origin : Origin reference candidate f) (contained : f.kind ∈ FindingKind.ofContained) :
    f.containedNames ≠ [] := by
  cases origin with
  | classesAdded some_added =>
    intro none
    exact some_added (List.map_eq_nil_iff.mp none)
  | linksAdded some_added =>
    intro none
    exact some_added (List.map_eq_nil_iff.mp none)
  | members first shared told =>
    cases told with
    | propertiesMissing some_missing => exact List.cons_ne_nil _ _
    | methodsMissing some_missing => exact List.cons_ne_nil _ _
    | propertyChanged member found differs =>
      exact absurd contained (by decide : FindingKind.propertyChanged ∉ FindingKind.ofContained)
  | classesMissing some_missing =>
    exact absurd contained (by decide : FindingKind.classesMissing ∉ FindingKind.ofContained)
  | linksMissing some_missing =>
    exact absurd contained (by decide : FindingKind.linksMissing ∉ FindingKind.ofContained)

/-- The names of a thing of the candidate stand together on one of its lines. -/
theorem Diagram.Origin.exists_line (origin : Origin reference (.ofChars (trim candidate)) f)
    {names : List String} (listed : names ∈ f.containedNames) :
    ∃ line ∈ visibleLines candidate, ∀ name ∈ names, name.toList <:+: line := by
  -- A class that both diagrams have is one of the candidate's, under the same name.
  have shared_line : ∀ {c other : ClassNode},
      (Diagram.ofChars (trim candidate)).class? c.name = some other →
        ∃ line ∈ visibleLines candidate, ∀ name ∈ [c.name], name.toList <:+: line := by
    intro c other shared
    have same : other.name = c.name := by simpa using List.find?_some shared
    obtain ⟨line, seen, inside⟩ :=
      Mermaid.exists_line_of_class (List.mem_of_find?_eq_some shared)
    refine ⟨line, seen, ?_⟩
    intro name hn
    obtain rfl := List.mem_singleton.mp hn
    exact same ▸ inside
  cases origin with
  | classesAdded some_added =>
    obtain ⟨added, ha, rfl⟩ := List.mem_map.mp listed
    obtain ⟨c, hc, rfl⟩ := Diagram.exists_class_of_mem_absentClasses ha
    obtain ⟨line, seen, inside⟩ := Mermaid.exists_line_of_class hc
    refine ⟨line, seen, ?_⟩
    intro name hn
    obtain rfl := List.mem_singleton.mp hn
    exact inside
  | linksAdded some_added =>
    obtain ⟨l, hl, rfl⟩ := List.mem_map.mp listed
    obtain ⟨line, seen, source, target⟩ :=
      Mermaid.exists_line_of_link (Diagram.mem_of_mem_absentLinks hl)
    refine ⟨line, seen, ?_⟩
    intro name hn
    rcases List.mem_cons.mp hn with rfl | hn
    · exact source
    · obtain rfl := List.mem_singleton.mp hn
      exact target
  | members first shared told =>
    cases told with
    | propertiesMissing some_missing =>
      obtain rfl := List.mem_singleton.mp listed
      exact shared_line shared
    | methodsMissing some_missing =>
      obtain rfl := List.mem_singleton.mp listed
      exact shared_line shared
    | propertyChanged member found differs => cases listed
  | classesMissing some_missing => cases listed
  | linksMissing some_missing => cases listed

end contained

/-- The names of whatever a difference says that the candidate contains stand on its lines, those of
one thing on one line, and some line is attributed to the difference or to an earlier one. -/
theorem named_things_located {options : ComparisonOptions} {reference candidate : String} {i : Nat}
    {d : Difference} (listed : (compareTexts options reference candidate).differences[i]? = some d)
    (contained : d.kind ∈ FindingKind.ofContained) :
    (∀ names ∈ d.finding.containedNames, ∃ line ∈ visibleLines candidate.toList,
        ∀ name ∈ names, name.toList <:+: line) ∧
      ∃ marked ∈ (compareTexts options reference candidate).markLines candidate,
        ∃ j ≤ i, marked.difference = some j := by
  have told : d.kind ≠ .error := by
    intro refused
    rw [refused] at contained
    exact absurd contained (by decide)
  have origin := Diagram.mem_findings_iff.mp
    (mem_findings_of_mem_compareTexts (List.mem_of_getElem? listed) told)
  have located : ∀ names ∈ d.finding.containedNames, ∃ line ∈ visibleLines candidate.toList,
      ∀ name ∈ names, name.toList <:+: line := by
    intro names hn
    exact origin.exists_line hn
  obtain ⟨names, hn⟩ := List.exists_mem_of_ne_nil _ (origin.containedNames_ne_nil contained)
  obtain ⟨line, seen, held⟩ := located names hn
  obtain ⟨k, here⟩ := List.mem_iff_getElem?.mp seen
  obtain ⟨marked, present, attributed⟩ := Report.exists_attributed here listed
    (Finding.matchesLine_of_contained hn held _)
  exact ⟨located, marked, List.mem_of_getElem? present, attributed⟩

/-- A candidate with a link that the reference has not, in a comment and on a line with a label. -/
def barnText : String := "class Cow\n%% Cow --> Barn\nCow \"1\" --> Barn : Horse --> Barn\n"

/-- The line of the link names both of its ends, and some line is attributed to it or to an earlier
difference. -/
theorem named_things_located_barn :
    let report := compareTexts .usual "class Cow" barnText
    report.differences[0]? =
        some (Finding.linksAdded [⟨"Cow", "Barn", "-->", "Horse --> Barn"⟩]).difference ∧
      (∃ line ∈ visibleLines barnText.toList, ∀ name ∈ ["Cow", "Barn"], name.toList <:+: line) ∧
      ∃ marked ∈ report.markLines barnText, ∃ j ≤ 0, marked.difference = some j := by
  intro report
  have listed : report.differences[0]? =
      some (Finding.linksAdded [⟨"Cow", "Barn", "-->", "Horse --> Barn"⟩]).difference := by
    decide +kernel
  obtain ⟨located, attributed⟩ := named_things_located listed (by decide)
  exact ⟨listed, located ["Cow", "Barn"] (by decide), attributed⟩

end DiagramDiff
