import DiagramDiff.Proofs.Comparison.Selections

/-!
# Where findings come from

A finding of a comparison has one of a few origins: a list of things that one of the diagrams has
not, or a class that both have. What is said of an origin is said of every finding
(`Diagram.mem_findings_iff`), so nothing about a report needs to go through the loops that collect
it.

A report on two texts has findings of this kind only, apart from the one about a blank text
(`mem_findings_of_mem_compareTexts`). Texts that agree once trimmed give no finding at all.
-/

namespace DiagramDiff

/-- A finding about a list of things is the finding about all of them, and there are some. -/
theorem mem_findingOf_iff {α : Type} {finding : List α → Finding} {things : List α} {f : Finding} :
    f ∈ findingOf finding things ↔ things ≠ [] ∧ f = finding things := by
  unfold findingOf
  cases things with
  | nil => simp
  | cons first rest => simp

/-- Where a finding about the members of a class comes from. -/
inductive ClassNode.MemberOrigin (c other : ClassNode) : Finding → Prop where
  /-- The other class lacks properties. -/
  | propertiesMissing (some_missing : c.missingProperties other ≠ []) :
      MemberOrigin c other (.propertiesMissing c.name (c.missingProperties other))
  /-- The other class lacks methods. -/
  | methodsMissing (some_missing : c.missingMethods other ≠ []) :
      MemberOrigin c other (.methodsMissing c.name (c.missingMethods other))
  /-- The other class has a property with another type. -/
  | propertyChanged {p q : Property} (member : p ∈ c.properties)
      (found : other.property? p.name = some q) (differs : q.type ≠ p.type) :
      MemberOrigin c other (.propertyChanged c.name p.name p.type q.type)

/-- The findings about the members of a class are those with an origin there. -/
theorem ClassNode.mem_memberFindings_iff {c other : ClassNode} {f : Finding} :
    f ∈ c.memberFindings other ↔ c.MemberOrigin other f := by
  unfold memberFindings
  rw [List.mem_append, List.mem_append, mem_findingOf_iff, mem_findingOf_iff, List.mem_filterMap]
  constructor
  · rintro (⟨some_missing, rfl⟩ | ⟨some_missing, rfl⟩ | ⟨p, member, changed⟩)
    · exact .propertiesMissing some_missing
    · exact .methodsMissing some_missing
    · unfold changedProperty? at changed
      split at changed
      · cases changed
      · next q found =>
        split at changed
        · cases changed
        · next differs =>
          cases changed
          exact .propertyChanged member found differs
  · intro origin
    cases origin with
    | propertiesMissing some_missing => exact .inl ⟨some_missing, rfl⟩
    | methodsMissing some_missing => exact .inr (.inl ⟨some_missing, rfl⟩)
    | @propertyChanged p q member found differs =>
      refine .inr (.inr ⟨p, member, ?_⟩)
      unfold changedProperty?
      rw [found]
      exact if_neg differs

/-- Where a finding of a comparison comes from. -/
inductive Diagram.Origin (reference candidate : Diagram) : Finding → Prop where
  /-- The candidate lacks classes. -/
  | classesMissing (some_missing : absentClasses reference.classes candidate ≠ []) :
      Origin reference candidate (.classesMissing (absentClasses reference.classes candidate))
  /-- The reference lacks classes. -/
  | classesAdded (some_added : absentClasses candidate.classes reference ≠ []) :
      Origin reference candidate (.classesAdded (absentClasses candidate.classes reference))
  /-- A class that both have differs in its members. -/
  | members {c other : ClassNode} {f : Finding} (first : c ∈ reference.firstClasses)
      (shared : candidate.class? c.name = some other) (told : c.MemberOrigin other f) :
      Origin reference candidate f
  /-- The candidate lacks links. -/
  | linksMissing (some_missing : absentLinks reference.links candidate ≠ []) :
      Origin reference candidate (.linksMissing (absentLinks reference.links candidate))
  /-- The reference lacks links. -/
  | linksAdded (some_added : absentLinks candidate.links reference ≠ []) :
      Origin reference candidate (.linksAdded (absentLinks candidate.links reference))

namespace Diagram

section origins

variable {reference candidate : Diagram} {f : Finding}

/-- The findings about shared classes are those about the members of one of them. -/
theorem mem_sharedFindings_iff :
    f ∈ sharedFindings reference candidate ↔
      ∃ c other, c ∈ reference.firstClasses ∧ candidate.class? c.name = some other ∧
        c.MemberOrigin other f := by
  unfold sharedFindings
  rw [List.mem_flatMap]
  constructor
  · rintro ⟨c, first, told⟩
    split at told
    · cases told
    · next other shared =>
      exact ⟨c, other, first, shared, ClassNode.mem_memberFindings_iff.mp told⟩
  · rintro ⟨c, other, first, shared, told⟩
    refine ⟨c, first, ?_⟩
    rw [shared]
    exact ClassNode.mem_memberFindings_iff.mpr told

/-- The findings of a comparison are those with an origin. -/
theorem mem_findings_iff : f ∈ findings reference candidate ↔ Origin reference candidate f := by
  unfold findings
  simp only [List.mem_append, mem_findingOf_iff, mem_sharedFindings_iff]
  constructor
  · rintro (⟨some, rfl⟩ | ⟨some, rfl⟩ | ⟨c, other, first, shared, told⟩ | ⟨some, rfl⟩ | ⟨some, rfl⟩)
    · exact .classesMissing some
    · exact .classesAdded some
    · exact .members first shared told
    · exact .linksMissing some
    · exact .linksAdded some
  · intro origin
    cases origin with
    | classesMissing some => exact .inl ⟨some, rfl⟩
    | classesAdded some => exact .inr (.inl ⟨some, rfl⟩)
    | members first shared told => exact .inr (.inr (.inl ⟨_, _, first, shared, told⟩))
    | linksMissing some => exact .inr (.inr (.inr (.inl ⟨some, rfl⟩)))
    | linksAdded some => exact .inr (.inr (.inr (.inr ⟨some, rfl⟩)))

/-- A property that is found changed is the first of its name in the candidate's class, with the
type to which it was changed. -/
theorem exists_property?_of_mem_findings {className propertyName oldType newType : String}
    (h : .propertyChanged className propertyName oldType newType ∈
      findings reference candidate) :
    ∃ other, candidate.class? className = some other ∧
      other.property? propertyName = some ⟨propertyName, newType⟩ := by
  cases mem_findings_iff.mp h with
  | @members c other _ first shared told =>
    cases told with
    | @propertyChanged p q member found differs =>
      have named : q.name = p.name := by simpa using List.find?_some found
      exact ⟨other, shared, named ▸ found⟩

/-- An added class is a class of the candidate. -/
theorem exists_class_of_mem_absentClasses {classes : List ClassNode} {name : String}
    (h : name ∈ absentClasses classes reference) : ∃ c ∈ classes, c.name = name := by
  have listed := (List.mem_filter.mp (mem_firstOccurrences.mp h)).1
  exact List.mem_map.mp listed

/-- An added link is a link of the candidate. -/
theorem mem_of_mem_absentLinks {links : List Link} {l : Link}
    (h : l ∈ absentLinks links reference) : l ∈ links := by
  unfold absentLinks at h
  exact (List.mem_filter.mp (mem_of_mem_firstOccurrences h)).1

/-- The differences of a comparison are its findings with their messages. -/
theorem differences_compare (options : ComparisonOptions) (reference candidate : Diagram) :
    (compare options reference candidate).differences =
      (findings reference candidate).map Finding.difference := rfl

end origins

end Diagram

/-! ## Reports on texts -/

/-- A difference between texts comes from a finding about the diagrams that they hold once trimmed,
unless a text is blank. -/
theorem mem_findings_of_mem_compareTexts {options : ComparisonOptions}
    {reference candidate : String} {d : Difference}
    (listed : d ∈ (compareTexts options reference candidate).differences)
    (told : d.kind ≠ .error) :
    d.finding ∈ Diagram.findings (.ofChars (Text.trim reference.toList))
      (.ofChars (Text.trim candidate.toList)) := by
  unfold compareTexts at listed
  simp only at listed
  split at listed
  · obtain rfl := List.mem_singleton.mp listed
    exact (told rfl).elim
  · split at listed
    · cases listed
    · rw [Diagram.differences_compare] at listed
      obtain ⟨f, found, rfl⟩ := List.mem_map.mp listed
      exact found

end DiagramDiff
