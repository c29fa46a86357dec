import DiagramDiff.Proofs.Comparison.Account
import DiagramDiff.Proofs.Mermaid.ReadClasses

/-!
# The verdict

A comparison finds nothing exactly where the two diagrams agree (`findings_eq_nil_iff`). Agreement
is not symmetric: the candidate may have further members, and what the reference has as a property
it may have as a method. For that reason it is not transitive either, unless the last diagram keeps
properties and methods apart (`Agrees.trans`): a property of the first diagram that is a method of
the second one is a method of the third, where a property of that name might have any type. What is
read from a text keeps them apart, so the verdict on texts is transitive
(`compareTexts_identical_trans`).
-/

namespace DiagramDiff

/-- A class is covered by another one that has its methods and, as properties of the same type or as
methods, its properties. -/
structure ClassNode.CoveredBy (c other : ClassNode) : Prop where
  /-- Every property is a property or a method of the other class. -/
  properties : ∀ p ∈ c.properties, other.property? p.name = none → p.name ∈ other.methods
  /-- The first property of its name in the other class has its type. -/
  types : ∀ p ∈ c.properties, ∀ q, other.property? p.name = some q → q.type = p.type
  /-- Every method is a method of the other class. -/
  methods : ∀ m ∈ c.methods, m ∈ other.methods

/-- Two diagrams agree if they have the same classes and links and the first classes of a name are
covered. -/
structure Diagram.Agrees (reference candidate : Diagram) : Prop where
  /-- They have classes of the same names. -/
  classes : ∀ name, reference.hasClass name = true ↔ candidate.hasClass name = true
  /-- The members of a class are covered. -/
  members : ∀ name c other, reference.class? name = some c → candidate.class? name = some other →
    c.CoveredBy other
  /-- They have links of the same ends and markers. -/
  links : ∀ l, reference.hasLink l = true ↔ candidate.hasLink l = true

/-! ## No findings -/

/-- Where there are first occurrences there are elements. -/
theorem firstOccurrences_eq_nil_iff {α : Type} {same : α → α → Bool} {l : List α} :
    firstOccurrences same l = [] ↔ l = [] := by
  cases l <;> simp [firstOccurrences]

/-- No class is absent if all names are names of the other diagram. -/
theorem absentClasses_eq_nil_iff {d other : Diagram} :
    absentClasses d.classes other = [] ↔
      ∀ name, d.hasClass name = true → other.hasClass name = true := by
  rw [absentClasses, firstOccurrences_eq_nil_iff, List.filter_eq_nil_iff]
  simp only [hasClass_iff, Diagram.classNames, Bool.not_eq_true', ← Bool.not_eq_true, not_not]

/-- No link is absent if all links are links of the other diagram. -/
theorem absentLinks_eq_nil_iff {d other : Diagram} :
    absentLinks d.links other = [] ↔
      ∀ l, d.hasLink l = true → other.hasLink l = true := by
  rw [absentLinks, firstOccurrences_eq_nil_iff, List.filter_eq_nil_iff]
  simp only [Bool.not_eq_true', Bool.not_eq_false, hasLink_iff]
  constructor
  · intro h l member
    obtain ⟨m, hm, same⟩ := List.mem_map.mp member
    rw [← same]
    exact h m hm
  · intro h l hl
    exact h l (List.mem_map_of_mem hl)

/-- A class is covered if there is nothing to find about its members. -/
theorem memberFindings_eq_nil_iff {c other : ClassNode} :
    c.memberFindings other = [] ↔ c.CoveredBy other := by
  have missing : c.missingProperties other = [] ↔
      ∀ p ∈ c.properties, other.property? p.name = none → p.name ∈ other.methods := by
    rw [ClassNode.missingProperties, List.filter_eq_nil_iff]
    refine forall₂_congr fun p _ => ?_
    rw [ClassNode.hasProperty_eq_isSome]
    cases other.property? p.name <;> simp [ClassNode.hasMethod]
  have methods : c.missingMethods other = [] ↔ ∀ m ∈ c.methods, m ∈ other.methods := by
    rw [ClassNode.missingMethods, List.filter_eq_nil_iff]
    refine forall₂_congr fun m _ => ?_
    simp [ClassNode.hasMethod]
  have types : c.properties.filterMap (c.changedProperty? other) = [] ↔
      ∀ p ∈ c.properties, ∀ q, other.property? p.name = some q → q.type = p.type := by
    rw [List.filterMap_eq_nil_iff]
    refine forall₂_congr fun p _ => ?_
    unfold ClassNode.changedProperty?
    cases other.property? p.name <;> simp
  rw [ClassNode.memberFindings, List.append_eq_nil_iff, List.append_eq_nil_iff,
    findingOf_eq_nil_iff, findingOf_eq_nil_iff, missing, methods, types]
  constructor
  · rintro ⟨properties, methods, types⟩
    exact ⟨properties, types, methods⟩
  · intro h
    exact ⟨h.properties, h.methods, h.types⟩

/-- The class found under a name is a first class. -/
theorem mem_firstClasses_of_class? {d : Diagram} {name : String} {c : ClassNode}
    (h : d.class? name = some c) : c ∈ d.firstClasses := by
  have first := class?_eq_some_iff.mp h
  obtain rfl : c.name = name := first.mem.2
  exact mem_firstClasses_iff.mpr h

/-- Shared classes give no findings if each of them is covered. -/
theorem sharedFindings_eq_nil_iff {reference candidate : Diagram} :
    Diagram.sharedFindings reference candidate = [] ↔
      ∀ name c other, reference.class? name = some c → candidate.class? name = some other →
        c.CoveredBy other := by
  rw [Diagram.sharedFindings, List.flatMap_eq_nil_iff]
  constructor
  · intro h name c other hc ho
    have none := h c (mem_firstClasses_of_class? hc)
    obtain rfl : c.name = name := (class?_eq_some_iff.mp hc).mem.2
    rw [ho] at none
    exact memberFindings_eq_nil_iff.mp none
  · intro h c hc
    cases found : candidate.class? c.name with
    | none => rfl
    | some other =>
      exact memberFindings_eq_nil_iff.mpr (h c.name c other (mem_firstClasses_iff.mp hc) found)

/-- A comparison finds nothing exactly where the diagrams agree. -/
theorem findings_eq_nil_iff {reference candidate : Diagram} :
    Diagram.findings reference candidate = [] ↔ reference.Agrees candidate := by
  rw [findings_eq_nil_iff_parts, absentClasses_eq_nil_iff, absentClasses_eq_nil_iff,
    sharedFindings_eq_nil_iff, absentLinks_eq_nil_iff, absentLinks_eq_nil_iff]
  constructor
  · rintro ⟨missing, added, members, missingLinks, addedLinks⟩
    exact ⟨fun name => ⟨missing name, added name⟩, members,
      fun l => ⟨missingLinks l, addedLinks l⟩⟩
  · intro h
    exact ⟨fun name => (h.classes name).mp, fun name => (h.classes name).mpr, h.members,
      fun l => (h.links l).mp, fun l => (h.links l).mpr⟩

/-! ## Transitivity -/

namespace ClassNode.CoveredBy

variable {c d e : ClassNode}

/-- Covering is transitive where the last class keeps properties and methods apart. -/
theorem trans (h : c.CoveredBy d) (h' : d.CoveredBy e) (apart : e.MembersApart) :
    c.CoveredBy e := by
  -- A property of the first class that is a method of the second one is a method of the third.
  have method : ∀ p ∈ c.properties, d.property? p.name = none → p.name ∈ e.methods := by
    intro p hp none
    exact h'.methods p.name (h.properties p hp none)
  refine ⟨?_, ?_, fun m hm => h'.methods m (h.methods m hm)⟩
  · intro p hp absent
    cases found : d.property? p.name with
    | none => exact method p hp found
    | some q =>
      obtain ⟨member, name⟩ := (property?_eq_some_iff.mp found).mem
      rw [← name] at absent ⊢
      exact h'.properties q member absent
  · intro p hp r last
    cases found : d.property? p.name with
    | none =>
      obtain ⟨member, name⟩ := (property?_eq_some_iff.mp last).mem
      have taken : p.name ∈ e.methods := method p hp found
      rw [← name] at taken
      exact absurd taken (apart r member)
    | some q =>
      obtain ⟨member, name⟩ := (property?_eq_some_iff.mp found).mem
      rw [← name] at last
      exact (h'.types q member r last).trans (h.types p hp q found)

end ClassNode.CoveredBy

namespace Diagram

/-- Agreement is transitive where the last diagram keeps properties and methods apart. -/
theorem Agrees.trans {r c d : Diagram} (h : r.Agrees c) (h' : c.Agrees d)
    (apart : ∀ e ∈ d.classes, e.MembersApart) : r.Agrees d := by
  refine ⟨?_, ?_, ?_⟩
  · intro name
    exact (h.classes name).trans (h'.classes name)
  · intro name first last hf hl
    have known : c.hasClass name = true := by
      rw [← h.classes name, hasClass_eq_isSome, hf]
      rfl
    rw [hasClass_eq_isSome, Option.isSome_iff_exists] at known
    obtain ⟨middle, hm⟩ := known
    have apart := apart last (class?_eq_some_iff.mp hl).mem.1
    exact (h.members name first middle hf hm).trans (h'.members name middle last hm hl) apart
  · intro l
    exact (h.links l).trans (h'.links l)

end Diagram

/-! ## Texts -/

/-- Texts are identical if neither is blank and they agree once trimmed or as diagrams. -/
theorem compareTexts_identical_iff {options : ComparisonOptions} {reference candidate : String} :
    (compareTexts options reference candidate).identical = true ↔
      (Text.trim reference.toList ≠ [] ∧ Text.trim candidate.toList ≠ []) ∧
        (Text.trim reference.toList = Text.trim candidate.toList ∨
          (Diagram.ofChars (Text.trim reference.toList)).Agrees
            (Diagram.ofChars (Text.trim candidate.toList))) := by
  unfold compareTexts
  by_cases blank : Text.trim reference.toList = [] ∨ Text.trim candidate.toList = []
  · have refused : ((Text.trim reference.toList).isEmpty ||
        (Text.trim candidate.toList).isEmpty) = true := by simpa using blank
    simp only [refused, if_true]
    constructor
    · intro h
      cases h
    · rintro ⟨⟨filled, filled'⟩, -⟩
      exact absurd blank (by simp [filled, filled'])
  · have filled := not_or.mp blank
    have accepted : ((Text.trim reference.toList).isEmpty ||
        (Text.trim candidate.toList).isEmpty) = false := by simpa using filled
    simp only [accepted, Bool.false_eq_true, if_false, filled, ne_eq, not_false_eq_true, and_self,
      true_and]
    by_cases same : Text.trim reference.toList = Text.trim candidate.toList
    · rw [if_pos same]
      exact ⟨fun _ => .inl same, fun _ => rfl⟩
    · rw [if_neg same, Diagram.compare_identical_iff, findings_eq_nil_iff]
      exact ⟨.inr, fun h => h.resolve_left same⟩

/-- The verdict on texts is transitive, whatever the options of each comparison and whether or not
the texts were read for it. -/
theorem compareTexts_identical_trans {options options' : ComparisonOptions} {r c d : String}
    (h : (compareTexts options r c).identical = true)
    (h' : (compareTexts options' c d).identical = true) (options'' : ComparisonOptions) :
    (compareTexts options'' r d).identical = true := by
  rw [compareTexts_identical_iff] at h h' ⊢
  obtain ⟨⟨filled, -⟩, agree⟩ := h
  obtain ⟨⟨-, filled'⟩, agree'⟩ := h'
  refine ⟨⟨filled, filled'⟩, ?_⟩
  rcases agree with same | agree
  · rw [same]
    exact agree'
  · rcases agree' with same | agree'
    · rw [← same]
      exact .inr agree
    · exact .inr (agree.trans agree' (Diagram.membersApart_ofChars _))

/-- Three texts in a chain: a property becomes a method, and then a property is added. -/
theorem compareTexts_identical_trans_method :
    (compareTexts .usual "class A \x7b\n+x: int\n\x7d" "class A \x7b\n+x()\n\x7d").identical =
        true ∧
      (compareTexts .usual "class A \x7b\n+x()\n\x7d"
        "class A \x7b\n+x()\n+y: int\n\x7d").identical = true ∧
      (compareTexts .usual "class A \x7b\n+x: int\n\x7d"
        "class A \x7b\n+x()\n+y: int\n\x7d").identical = true := by
  have first : (compareTexts .usual "class A \x7b\n+x: int\n\x7d"
      "class A \x7b\n+x()\n\x7d").identical = true := by decide +kernel
  have second : (compareTexts .usual "class A \x7b\n+x()\n\x7d"
      "class A \x7b\n+x()\n+y: int\n\x7d").identical = true := by decide +kernel
  exact ⟨first, second, compareTexts_identical_trans first second .usual⟩

end DiagramDiff
