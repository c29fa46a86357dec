import DiagramDiff.Proofs.Comparison.Selections
import Mathlib.Data.List.Forall2

/-!
# What a comparison has to tell

An `Account` of two diagrams says what a comparison has to report, part by part and without loops:
which classes, members, types and links, in which order and how often. Every part is determined, so
all accounts of two diagrams tell the same findings (`Account.findings_eq`), and there is one for
any two diagrams (`exists_account`). A comparison therefore reports everything that there is to
tell and nothing else, whatever names the diagrams repeat (`compare_tells`).
-/

namespace DiagramDiff

/-! ## Accounts -/

/-- The finding about a list of things; about no things there is none. -/
def record {α : Type} (finding : List α → Finding) : List α → List Finding
  | [] => []
  | a :: rest => [finding (a :: rest)]

/-- What identifies a link: its ends and its marker, not its label. -/
def Link.ends (l : Link) : String × String × String := (l.source, l.target, l.marker)

/-- `changes` lists the properties to which the first property of that name in the other class gives
another type, each with that type. -/
inductive ListsChanges (other : ClassNode) : List Property → List (Property × String) → Prop where
  /-- Nothing has changed of nothing. -/
  | nil : ListsChanges other [] []
  /-- The other class has the property with another type. -/
  | changed {p q : Property} {properties : List Property} {changes : List (Property × String)}
      (found : IsFirst (·.name = p.name) other.properties q) (differs : q.type ≠ p.type)
      (rest : ListsChanges other properties changes) :
      ListsChanges other (p :: properties) ((p, q.type) :: changes)
  /-- The other class has the property with the same type, or it has no such property. -/
  | unchanged {p : Property} {properties : List Property} {changes : List (Property × String)}
      (same : ∀ q, IsFirst (·.name = p.name) other.properties q → q.type = p.type)
      (rest : ListsChanges other properties changes) :
      ListsChanges other (p :: properties) changes

/-- What there is to tell about the members of a class, given the class it is compared with. -/
structure MemberAccount (c other : ClassNode) where
  /-- The missing properties. -/
  properties : List Property
  /-- The missing methods. -/
  methods : List String
  /-- The properties with another type, and that type. -/
  changes : List (Property × String)
  /-- A property is missing if the other class has its name neither as a property nor as a
  method. -/
  properties_selected :
    Selects (fun p => (∀ q ∈ other.properties, q.name ≠ p.name) ∧ p.name ∉ other.methods)
      c.properties properties
  /-- A method is missing if the other class has it not. -/
  methods_selected : Selects (fun m => m ∉ other.methods) c.methods methods
  /-- The changes are all changes. -/
  changes_listed : ListsChanges other c.properties changes

/-- The findings of an account of members. -/
def MemberAccount.findings {c other : ClassNode} (a : MemberAccount c other) : List Finding :=
  record (.propertiesMissing c.name) a.properties ++
    (record (.methodsMissing c.name) a.methods ++
      a.changes.map fun (p, type) => .propertyChanged c.name p.name p.type type)

/-- `told` is what there is to tell about the classes of a name: the first one on either side is
compared. -/
def TellsMembers (reference candidate : Diagram) (name : String) (told : List Finding) : Prop :=
  ∃ c other, IsFirst (·.name = name) reference.classes c ∧
    IsFirst (·.name = name) candidate.classes other ∧
      ∃ a : MemberAccount c other, a.findings = told

/-- The names of the classes of a diagram. -/
def Diagram.classNames (d : Diagram) : List String := d.classes.map (·.name)

/-- What there is to tell about a candidate diagram. -/
structure Account (reference candidate : Diagram) where
  /-- The names of the missing classes. -/
  missing : List String
  /-- The names of the added classes. -/
  added : List String
  /-- The names of the classes that are compared. -/
  shared : List String
  /-- What is told about each of them. -/
  members : List (List Finding)
  /-- The missing links. -/
  linksMissing : List Link
  /-- The added links. -/
  linksAdded : List Link
  /-- A class is missing if the candidate has none of its name. -/
  missing_listed :
    ListsFirsts (· = ·) (· ∉ candidate.classNames) reference.classNames missing
  /-- A class is added if the reference has none of its name. -/
  added_listed :
    ListsFirsts (· = ·) (· ∉ reference.classNames) candidate.classNames added
  /-- A class is compared if the candidate has one of its name. -/
  shared_listed :
    ListsFirsts (· = ·) (· ∈ candidate.classNames) reference.classNames shared
  /-- About each of them everything is told. -/
  members_told : List.Forall₂ (TellsMembers reference candidate) shared members
  /-- A link is missing if no link of the candidate has its ends and its marker. -/
  linksMissing_listed :
    ListsFirsts (fun l m => l.ends = m.ends) (fun l => l.ends ∉ candidate.links.map Link.ends)
      reference.links linksMissing
  /-- A link is added if no link of the reference has its ends and its marker. -/
  linksAdded_listed :
    ListsFirsts (fun l m => l.ends = m.ends) (fun l => l.ends ∉ reference.links.map Link.ends)
      candidate.links linksAdded

/-- The findings of an account. -/
def Account.findings {reference candidate : Diagram} (a : Account reference candidate) :
    List Finding :=
  record .classesMissing a.missing ++
    (record .classesAdded a.added ++
      (a.members.flatten ++
        (record .linksMissing a.linksMissing ++ record .linksAdded a.linksAdded)))

/-! ## Searching and listing as they are computed -/

/-- A list of things is reported as it is told. -/
theorem findingOf_eq_record {α : Type} (finding : List α → Finding) (things : List α) :
    findingOf finding things = record finding things := by
  cases things with
  | nil => rfl
  | cons a rest => rfl

/-- Nothing is reported about no things. -/
theorem findingOf_eq_nil_iff {α : Type} {finding : List α → Finding} {things : List α} :
    findingOf finding things = [] ↔ things = [] := by
  rw [findingOf_eq_record]
  cases things <;> simp [record]

/-- Looking up a class finds the first of its name. -/
theorem class?_eq_some_iff {d : Diagram} {name : String} {c : ClassNode} :
    d.class? name = some c ↔ IsFirst (·.name = name) d.classes c := by
  simp only [Diagram.class?, find?_eq_some_iff_isFirst, beq_iff_eq]

/-- Looking up a property finds the first of its name. -/
theorem property?_eq_some_iff {c : ClassNode} {name : String} {p : Property} :
    c.property? name = some p ↔ IsFirst (·.name = name) c.properties p := by
  simp only [ClassNode.property?, find?_eq_some_iff_isFirst, beq_iff_eq]

/-- A diagram has a class if its name is among the names. -/
theorem hasClass_iff {d : Diagram} {name : String} :
    d.hasClass name = true ↔ name ∈ d.classNames := by
  simp [Diagram.hasClass, Diagram.classNames]

/-- Links are the same if their ends and markers are. -/
theorem sameAs_iff_ends {l m : Link} : l.sameAs m = true ↔ l.ends = m.ends := by
  simp [Link.sameAs_iff, Link.ends]

/-- A diagram has a link if its ends and its marker are among those of its links. -/
theorem hasLink_iff {d : Diagram} {l : Link} :
    d.hasLink l = true ↔ l.ends ∈ d.links.map Link.ends := by
  simp only [Diagram.hasLink, List.any_eq_true, sameAs_iff_ends, List.mem_map]

/-- Names are listed once each by their first occurrences. -/
theorem listsFirsts_names_iff {wanted : String → Prop} {p : String → Bool}
    (hp : ∀ name, p name = true ↔ wanted name) {source listed : List String} :
    ListsFirsts (· = ·) wanted source listed ↔
      listed = firstOccurrences (· == ·) (source.filter p) := by
  apply listsFirsts_iff eq_equivalence (fun _ _ => beq_iff_eq) hp
  intro a b same
  rw [same]

/-- Absent classes are listed as an account lists them. -/
theorem listsFirsts_absentClasses_iff {d other : Diagram} {listed : List String} :
    ListsFirsts (· = ·) (· ∉ other.classNames) d.classNames listed ↔
      listed = absentClasses d.classes other := by
  apply listsFirsts_names_iff
  intro name
  rw [Bool.not_eq_true', ← hasClass_iff, Bool.not_eq_true]

/-- Having the same ends and the same marker is an equivalence. -/
theorem equivalence_ends : Equivalence fun l m : Link => l.ends = m.ends :=
  ⟨fun _ => rfl, Eq.symm, Eq.trans⟩

/-- Absent links are listed as an account lists them. -/
theorem listsFirsts_absentLinks_iff {d other : Diagram} {listed : List Link} :
    ListsFirsts (fun l m => l.ends = m.ends) (fun l => l.ends ∉ other.links.map Link.ends)
        d.links listed ↔
      listed = absentLinks d.links other := by
  apply listsFirsts_iff equivalence_ends fun _ _ => sameAs_iff_ends
  · intro l
    rw [Bool.not_eq_true', ← hasLink_iff, Bool.not_eq_true]
  · intro l m same
    rw [same]

/-! ## The members of a class -/

section members

variable {c other : ClassNode}

/-- Missing properties are selected as an account selects them. -/
theorem selects_missingProperties_iff {listed : List Property} :
    Selects (fun p => (∀ q ∈ other.properties, q.name ≠ p.name) ∧ p.name ∉ other.methods)
        c.properties listed ↔
      listed = c.missingProperties other := by
  refine selects_iff fun p => ?_
  simp [ClassNode.hasProperty, ClassNode.hasMethod]

/-- Missing methods are selected as an account selects them. -/
theorem selects_missingMethods_iff {listed : List String} :
    Selects (fun m => m ∉ other.methods) c.methods listed ↔ listed = c.missingMethods other := by
  refine selects_iff fun m => ?_
  simp [ClassNode.hasMethod]

/-- The finding about a property is the one about its change. -/
theorem filterMap_changedProperty? {properties : List Property}
    {changes : List (Property × String)} (h : ListsChanges other properties changes) :
    properties.filterMap (c.changedProperty? other) =
      changes.map fun (p, type) => .propertyChanged c.name p.name p.type type := by
  induction h with
  | nil => rfl
  | changed found differs rest ih =>
    have finding := property?_eq_some_iff.mpr found
    rw [List.filterMap_cons, ClassNode.changedProperty?, finding, List.map_cons, ← ih]
    simp only [if_neg differs]
  | @unchanged p properties changes same rest ih =>
    have none : c.changedProperty? other p = none := by
      unfold ClassNode.changedProperty?
      cases finding : other.property? p.name with
      | none => rfl
      | some q =>
        have agree : q.type = p.type := same q (property?_eq_some_iff.mp finding)
        simp only [if_pos agree]
    rw [List.filterMap_cons, none, ← ih]

/-- The changes of any properties can be listed. -/
theorem exists_listsChanges (other : ClassNode) (properties : List Property) :
    ∃ changes, ListsChanges other properties changes := by
  induction properties with
  | nil => exact ⟨[], .nil⟩
  | cons p properties ih =>
    obtain ⟨changes, rest⟩ := ih
    cases finding : other.property? p.name with
    | none =>
      refine ⟨changes, .unchanged (fun q found => ?_) rest⟩
      rw [property?_eq_some_iff.mpr found] at finding
      cases finding
    | some q =>
      have found := property?_eq_some_iff.mp finding
      by_cases agree : q.type = p.type
      · refine ⟨changes, .unchanged (fun r found' => ?_) rest⟩
        rw [found'.unique found, agree]
      · exact ⟨(p, q.type) :: changes, .changed found agree rest⟩

/-- Every account of members tells what a comparison reports. -/
theorem MemberAccount.findings_eq (a : MemberAccount c other) :
    a.findings = c.memberFindings other := by
  rw [findings, selects_missingProperties_iff.mp a.properties_selected,
    selects_missingMethods_iff.mp a.methods_selected, ← filterMap_changedProperty? a.changes_listed]
  simp only [ClassNode.memberFindings, findingOf_eq_record]

/-- Of any two classes there is an account. -/
theorem exists_memberAccount (c other : ClassNode) : Nonempty (MemberAccount c other) := by
  obtain ⟨changes, listed⟩ := exists_listsChanges other c.properties
  exact ⟨⟨_, _, changes, selects_missingProperties_iff.mpr rfl, selects_missingMethods_iff.mpr rfl,
    listed⟩⟩

end members

/-! ## The classes that are compared -/

section classes

variable {reference candidate : Diagram}

/-- What is told about the classes of a name is what is reported about them. -/
theorem tellsMembers_iff {name : String} {told : List Finding} :
    TellsMembers reference candidate name told ↔
      ∃ c other, reference.class? name = some c ∧ candidate.class? name = some other ∧
        c.memberFindings other = told := by
  constructor
  · rintro ⟨c, other, hc, ho, a, rfl⟩
    exact ⟨c, other, class?_eq_some_iff.mpr hc, class?_eq_some_iff.mpr ho, a.findings_eq.symm⟩
  · rintro ⟨c, other, hc, ho, rfl⟩
    obtain ⟨a⟩ := exists_memberAccount c other
    exact ⟨c, other, class?_eq_some_iff.mp hc, class?_eq_some_iff.mp ho, a, a.findings_eq⟩

/-- About the classes of a name there is only one thing to tell. -/
theorem rightUnique_tellsMembers : Relator.RightUnique (TellsMembers reference candidate) := by
  intro name told other h h'
  obtain ⟨c, d, hc, hd, rfl⟩ := tellsMembers_iff.mp h
  obtain ⟨c', d', hc', hd', rfl⟩ := tellsMembers_iff.mp h'
  obtain rfl : c = c' := Option.some.inj (hc.symm.trans hc')
  obtain rfl : d = d' := Option.some.inj (hd.symm.trans hd')
  rfl

/-- The first classes of the reference of whose name the candidate has one, too. -/
def sharedClasses (reference candidate : Diagram) : List ClassNode :=
  reference.firstClasses.filter fun c => candidate.hasClass c.name

/-- The findings about a class of the reference. -/
def classFindings (candidate : Diagram) (c : ClassNode) : List Finding :=
  match candidate.class? c.name with
  | none => []
  | some other => c.memberFindings other

/-- Shared classes are listed as an account lists them. -/
theorem listsFirsts_shared_iff {listed : List String} :
    ListsFirsts (· = ·) (· ∈ candidate.classNames) reference.classNames listed ↔
      listed = (sharedClasses reference candidate).map (·.name) := by
  have names : (sharedClasses reference candidate).map (·.name) =
      firstOccurrences (· == ·) (reference.classNames.filter candidate.hasClass) := by
    have kind : ∀ a b : String, (a == b) = true → candidate.hasClass b = candidate.hasClass a := by
      intro a b same
      rw [beq_iff_eq.mp same]
    rw [firstOccurrences_filter kind, Diagram.classNames, firstOccurrences_map, List.filter_map]
    rfl
  rw [names]
  exact listsFirsts_names_iff fun name => hasClass_iff

/-- Having the same name is an equivalence. -/
theorem equivalence_name : Equivalence fun c d : ClassNode => c.name = d.name :=
  ⟨fun _ => rfl, Eq.symm, Eq.trans⟩

/-- The first classes are the classes that are found under their names. -/
theorem mem_firstClasses_iff {d : Diagram} {c : ClassNode} :
    c ∈ d.firstClasses ↔ d.class? c.name = some c := by
  have swap : (fun e : ClassNode => e.name = c.name) = fun e => c.name = e.name :=
    funext fun e => propext eq_comm
  rw [class?_eq_some_iff, swap]
  exact mem_firstOccurrences_iff equivalence_name fun _ _ => beq_iff_eq

/-- About shared classes is told what is reported. -/
theorem forall₂_tellsMembers_iff {told : List (List Finding)} :
    List.Forall₂ (TellsMembers reference candidate)
        ((sharedClasses reference candidate).map (·.name)) told ↔
      told = (sharedClasses reference candidate).map (classFindings candidate) := by
  have tells : List.Forall₂ (TellsMembers reference candidate)
      ((sharedClasses reference candidate).map (·.name))
      ((sharedClasses reference candidate).map (classFindings candidate)) := by
    rw [List.forall₂_map_left_iff, List.forall₂_map_right_iff, List.forall₂_same]
    intro c hc
    obtain ⟨first, shared⟩ := List.mem_filter.mp hc
    rw [Diagram.hasClass_eq_isSome, Option.isSome_iff_exists] at shared
    obtain ⟨other, found⟩ := shared
    refine tellsMembers_iff.mpr ⟨c, other, mem_firstClasses_iff.mp first, found, ?_⟩
    simp only [classFindings, found]
  constructor
  · intro h
    exact List.right_unique_forall₂' rightUnique_tellsMembers h tells
  · rintro rfl
    exact tells

/-- The findings about shared classes are those of all first classes, since there are none about
the others. -/
theorem flatten_classFindings :
    ((sharedClasses reference candidate).map (classFindings candidate)).flatten =
      Diagram.sharedFindings reference candidate := by
  have none : ∀ c, ¬ candidate.hasClass c.name = true → classFindings candidate c = [] := by
    intro c absent
    rw [Diagram.hasClass_eq_isSome, Bool.not_eq_true, Option.isSome_eq_false_iff,
      Option.isNone_iff_eq_none] at absent
    simp only [classFindings, absent]
  show _ = reference.firstClasses.flatMap (classFindings candidate)
  rw [sharedClasses, ← List.flatMap_def]
  induction reference.firstClasses with
  | nil => rfl
  | cons c classes ih =>
    by_cases shared : candidate.hasClass c.name = true
    · rw [List.filter_cons, if_pos shared, List.flatMap_cons, ih, List.flatMap_cons]
    · rw [List.filter_cons, if_neg shared, ih, List.flatMap_cons, none c shared, List.nil_append]

end classes

/-! ## The findings of a comparison -/

section findings

variable {reference candidate : Diagram}

/-- Every account tells the findings of a comparison. -/
theorem Account.findings_eq (a : Account reference candidate) :
    a.findings = Diagram.findings reference candidate := by
  have told := a.members_told
  rw [listsFirsts_shared_iff.mp a.shared_listed, forall₂_tellsMembers_iff] at told
  rw [findings, listsFirsts_absentClasses_iff.mp a.missing_listed,
    listsFirsts_absentClasses_iff.mp a.added_listed, told, flatten_classFindings,
    listsFirsts_absentLinks_iff.mp a.linksMissing_listed,
    listsFirsts_absentLinks_iff.mp a.linksAdded_listed]
  simp only [Diagram.findings, findingOf_eq_record]

/-- Of any two diagrams there is an account. -/
theorem exists_account (reference candidate : Diagram) : Nonempty (Account reference candidate) :=
  ⟨{ missing := absentClasses reference.classes candidate
     added := absentClasses candidate.classes reference
     shared := (sharedClasses reference candidate).map (·.name)
     members := (sharedClasses reference candidate).map (classFindings candidate)
     linksMissing := absentLinks reference.links candidate
     linksAdded := absentLinks candidate.links reference
     missing_listed := listsFirsts_absentClasses_iff.mpr rfl
     added_listed := listsFirsts_absentClasses_iff.mpr rfl
     shared_listed := listsFirsts_shared_iff.mpr rfl
     members_told := forall₂_tellsMembers_iff.mpr rfl
     linksMissing_listed := listsFirsts_absentLinks_iff.mpr rfl
     linksAdded_listed := listsFirsts_absentLinks_iff.mpr rfl }⟩

/-- Nothing is found if nothing is missing, nothing was added and shared classes agree. -/
theorem findings_eq_nil_iff_parts :
    Diagram.findings reference candidate = [] ↔
      absentClasses reference.classes candidate = [] ∧
        absentClasses candidate.classes reference = [] ∧
          Diagram.sharedFindings reference candidate = [] ∧
            absentLinks reference.links candidate = [] ∧
              absentLinks candidate.links reference = [] := by
  simp only [Diagram.findings, List.append_eq_nil_iff, findingOf_eq_nil_iff]

end findings

namespace Diagram

/-- A comparison finds nothing different where it has no findings. -/
theorem compare_identical_iff {options : ComparisonOptions} {reference candidate : Diagram} :
    (compare options reference candidate).identical = true ↔ findings reference candidate = [] := by
  simp only [compare, Report.ofDifferences, List.isEmpty_iff, List.map_eq_nil_iff]

/-- Without findings there are no hints. -/
theorem hints_eq_nil {options : ComparisonOptions} {reference candidate : Diagram}
    (h : findings reference candidate = []) : hints options reference candidate = [] := by
  obtain ⟨missing, added, -⟩ := findings_eq_nil_iff_parts.mp h
  unfold hints
  rw [missing, added]
  split <;> rfl

/-- A comparison reports what there is to tell, in its order and with its messages, and nothing
else. The verdict says whether that is nothing; hints and the options that govern them do not touch
it, and where nothing differs there are none. -/
theorem compare_tells (options : ComparisonOptions) (reference candidate : Diagram) :
    Nonempty (Account reference candidate) ∧
      (∀ account : Account reference candidate,
        (compare options reference candidate).differences =
          account.findings.map Finding.difference) ∧
      ((compare options reference candidate).identical = true ↔
        (compare options reference candidate).differences = []) ∧
      ((compare options reference candidate).identical = true →
        (compare options reference candidate).hints = []) ∧
      ∀ other : ComparisonOptions,
        (compare other reference candidate).differences =
            (compare options reference candidate).differences ∧
          (compare other reference candidate).identical =
            (compare options reference candidate).identical := by
  refine ⟨exists_account reference candidate, ?_, ?_, ?_, ?_⟩
  · intro account
    rw [account.findings_eq]
    rfl
  · show List.isEmpty _ = true ↔ _
    rw [List.isEmpty_iff]
    rfl
  · intro identical
    exact hints_eq_nil (compare_identical_iff.mp identical)
  · intro other
    exact ⟨rfl, rfl⟩

end Diagram

end DiagramDiff
