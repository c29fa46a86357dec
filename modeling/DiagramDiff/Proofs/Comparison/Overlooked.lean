import DiagramDiff.Proofs.Comparison.Account
import Mathlib.Logic.Relation

/-!
# What a comparison overlooks

A comparison looks at a candidate with the eyes of its reference. Of the candidate's classes it
sees the names, of its links everything, and of the members of a class only those that the first
class of that name in the reference names. Two candidates that look alike in this way
(`Diagram.LooksAlike`) get the same report, with its messages and its hints.

So whatever the reference does not name may be edited (`Diagram.OverlookedEdit`): annotations, the
members of classes that the reference has not, those of later classes of a name, and the other
members of the classes it has. One such edit gives a candidate that looks alike, and looking alike
is an equivalence, so any number of edits leaves the report as it is (`compare_overlooks`).

A name counts for both kinds of member: a property of the reference may be a method of the
candidate, so a method of that name is looked at as well.
-/

namespace DiagramDiff

/-! ## Candidates that look alike -/

/-- A class names its properties and its methods. -/
def ClassNode.names (c : ClassNode) (name : String) : Bool := c.hasProperty name || c.hasMethod name

/-- Two classes that agree on everything that a class names. -/
def ClassNode.LooksAlike (c d e : ClassNode) : Prop :=
  ∀ name, c.names name = true →
    d.property? name = e.property? name ∧ d.hasMethod name = e.hasMethod name

/-- Two candidates between which a reference cannot tell a difference. -/
structure Diagram.LooksAlike (reference d e : Diagram) : Prop where
  /-- Their classes have the same names, in the same order. -/
  classNames : d.classNames = e.classNames
  /-- Their links are the same. -/
  links : d.links = e.links
  /-- The first classes of a name agree on what the first class of that name in the reference
  names. -/
  members : ∀ name c d' e', reference.class? name = some c → d.class? name = some d' →
    e.class? name = some e' → c.LooksAlike d' e'

/-! ### Members -/

namespace ClassNode

variable {c d e f : ClassNode}

/-- A class looks like itself. -/
theorem LooksAlike.refl (c d : ClassNode) : c.LooksAlike d d := fun _ _ => ⟨rfl, rfl⟩

/-- Looking alike is transitive. -/
theorem LooksAlike.trans (h : c.LooksAlike d e) (h' : c.LooksAlike e f) : c.LooksAlike d f :=
  fun name named =>
    ⟨(h name named).1.trans (h' name named).1, (h name named).2.trans (h' name named).2⟩

/-- A class names its properties. -/
theorem names_of_mem_properties {p : Property} (h : p ∈ c.properties) : c.names p.name = true := by
  have has : c.hasProperty p.name = true := List.any_eq_true.mpr ⟨p, h, beq_self_eq_true p.name⟩
  rw [names, has, Bool.true_or]

/-- A class names its methods. -/
theorem names_of_mem_methods {m : String} (h : m ∈ c.methods) : c.names m = true := by
  have has : c.hasMethod m = true := List.contains_iff_mem.mpr h
  rw [names, has, Bool.or_true]

/-- Nothing else is found about the members of classes that look alike. -/
theorem LooksAlike.memberFindings_eq (h : c.LooksAlike d e) :
    c.memberFindings d = c.memberFindings e := by
  have properties : c.missingProperties d = c.missingProperties e := by
    refine List.filter_congr fun p hp => ?_
    obtain ⟨property, method⟩ := h p.name (names_of_mem_properties hp)
    rw [hasProperty_eq_isSome, hasProperty_eq_isSome, property, method]
  have methods : c.missingMethods d = c.missingMethods e := by
    refine List.filter_congr fun m hm => ?_
    rw [(h m (names_of_mem_methods hm)).2]
  have changes : c.properties.filterMap (c.changedProperty? d) =
      c.properties.filterMap (c.changedProperty? e) := by
    refine List.filterMap_congr fun p hp => ?_
    rw [changedProperty?, (h p.name (names_of_mem_properties hp)).1, changedProperty?]
  rw [memberFindings, properties, methods, changes, memberFindings]

end ClassNode

/-! ### Diagrams -/

namespace Diagram

variable {reference d e f : Diagram}

/-- A class is found under a name if the diagram has one. -/
theorem exists_class?_of_mem_classNames {name : String} (h : name ∈ d.classNames) :
    ∃ c, d.class? name = some c := by
  rw [← hasClass_iff, hasClass_eq_isSome] at h
  exact Option.isSome_iff_exists.mp h

/-- What is found under a name is a class of the diagram. -/
theorem mem_classNames_of_class? {name : String} {c : ClassNode} (h : d.class? name = some c) :
    name ∈ d.classNames := by
  rw [← hasClass_iff, hasClass_eq_isSome, h]
  rfl

namespace LooksAlike

/-- A candidate looks like itself. -/
theorem refl (reference d : Diagram) : reference.LooksAlike d d where
  classNames := rfl
  links := rfl
  members := by
    intro name c d' e' _ found found'
    obtain rfl := Option.some.inj (found.symm.trans found')
    exact .refl c d'

/-- Looking alike is transitive: the candidate in between has every class that the others have. -/
theorem trans (h : reference.LooksAlike d e) (h' : reference.LooksAlike e f) :
    reference.LooksAlike d f where
  classNames := h.classNames.trans h'.classNames
  links := h.links.trans h'.links
  members := by
    intro name c d' f' known found found'
    obtain ⟨e', between⟩ :=
      exists_class?_of_mem_classNames (h.classNames ▸ mem_classNames_of_class? found)
    exact (h.members name c d' e' known found between).trans
      (h'.members name c e' f' known between found')

/-- Candidates that look alike have the same classes. -/
theorem hasClass_eq (h : reference.LooksAlike d e) (name : String) :
    d.hasClass name = e.hasClass name := by
  rw [Bool.eq_iff_iff, hasClass_iff, hasClass_iff, h.classNames]

/-- They lack the same classes. -/
theorem absentClasses_eq (h : reference.LooksAlike d e) (classes : List ClassNode) :
    absentClasses classes d = absentClasses classes e := by
  simp only [absentClasses, h.hasClass_eq]

/-- The same of their classes are absent elsewhere. -/
theorem absentClasses_eq_of (h : reference.LooksAlike d e) (other : Diagram) :
    absentClasses d.classes other = absentClasses e.classes other := by
  have names : d.classes.map (·.name) = e.classes.map (·.name) := h.classNames
  rw [absentClasses, names, absentClasses]

/-- They lack the same links. -/
theorem absentLinks_eq (h : reference.LooksAlike d e) (links : List Link) :
    absentLinks links d = absentLinks links e := by
  simp only [absentLinks, hasLink, h.links]

/-- About the classes that they share with the reference the same is found. -/
theorem sharedFindings_eq (h : reference.LooksAlike d e) :
    sharedFindings reference d = sharedFindings reference e := by
  refine List.flatMap_congr fun c hc => ?_
  have known : reference.class? c.name = some c := mem_firstClasses_iff.mp hc
  have both : (d.class? c.name).isSome = (e.class? c.name).isSome := by
    rw [← hasClass_eq_isSome, ← hasClass_eq_isSome, h.hasClass_eq]
  cases found : d.class? c.name with
  | none =>
    rw [found, Option.isSome_none] at both
    have absent : e.class? c.name = none :=
      Option.not_isSome_iff_eq_none.mp (by rw [← both]; exact Bool.false_ne_true)
    rw [absent]
  | some d' =>
    rw [found, Option.isSome_some] at both
    obtain ⟨e', found'⟩ := Option.isSome_iff_exists.mp both.symm
    rw [found']
    exact (h.members c.name c d' e' known found found').memberFindings_eq

/-- Candidates that look alike get the same findings. -/
theorem findings_eq (h : reference.LooksAlike d e) :
    findings reference d = findings reference e := by
  rw [findings, h.absentClasses_eq, h.absentClasses_eq_of, h.sharedFindings_eq, h.absentLinks_eq,
    h.links, findings]

/-- Candidates that look alike get the same report. -/
theorem compare_eq (h : reference.LooksAlike d e) (options : ComparisonOptions) :
    compare options reference d = compare options reference e := by
  have hints : hints options reference d = hints options reference e := by
    rw [Diagram.hints, h.absentClasses_eq, h.absentClasses_eq_of, Diagram.hints]
  rw [compare, h.findings_eq, hints, compare]

end LooksAlike

end Diagram

/-! ## Edits that are overlooked -/

/-- A class behind some others is edited where the reference does not look. -/
inductive Diagram.Overlooks (reference : Diagram) (before : List ClassNode) :
    ClassNode → ClassNode → Prop where
  /-- Annotations do not count. -/
  | annotations (c : ClassNode) (annotations : List String) :
      Overlooks reference before c { c with annotations := annotations }
  /-- The reference has no class of the name. -/
  | unknown {c c' : ClassNode} (absent : c.name ∉ reference.classNames) :
      Overlooks reference before c c'
  /-- An earlier class of the candidate has the name. -/
  | later {c c' : ClassNode} (earlier : c.name ∈ before.map (·.name)) :
      Overlooks reference before c c'
  /-- The members that the reference names are the same. Others may be more, fewer or elsewhere. -/
  | others {c c' r : ClassNode} (known : reference.class? c.name = some r)
      (properties : c.properties.filter (fun p => r.names p.name) =
        c'.properties.filter fun p => r.names p.name)
      (methods : c.methods.filter r.names = c'.methods.filter r.names) :
      Overlooks reference before c c'

/-- One class of a candidate is edited where the reference does not look. -/
inductive Diagram.OverlookedEdit (reference : Diagram) : Diagram → Diagram → Prop where
  /-- The class keeps its name and its place. -/
  | at (before after : List ClassNode) {c c' : ClassNode} {links : List Link}
      (name : c.name = c'.name) (unseen : reference.Overlooks before c c') :
      OverlookedEdit reference ⟨before ++ c :: after, links⟩ ⟨before ++ c' :: after, links⟩

namespace ClassNode

variable {r c c' : ClassNode}

/-- Classes look alike if they differ in members only that are not named. -/
theorem looksAlike_of_filter
    (properties : c.properties.filter (fun p => r.names p.name) =
      c'.properties.filter fun p => r.names p.name)
    (methods : c.methods.filter r.names = c'.methods.filter r.names) : r.LooksAlike c c' := by
  intro name named
  -- A lookup of a name that is named passes over the other members.
  have property : ∀ d : ClassNode, d.property? name =
      (d.properties.filter fun p => r.names p.name).find? (·.name == name) := by
    intro d
    rw [property?, List.find?_filter]
    refine congrFun (congrArg List.find? (funext fun p => ?_)) d.properties
    by_cases same : p.name = name
    · simp [same, named]
    · simp [same]
  have method : ∀ d : ClassNode, d.hasMethod name = (d.methods.filter r.names).contains name := by
    intro d
    rw [hasMethod, Bool.eq_iff_iff, List.contains_iff_mem, List.contains_iff_mem, List.mem_filter]
    exact ⟨fun member => ⟨member, named⟩, And.left⟩
  rw [property c, property c', method c, method c', properties, methods]
  exact ⟨rfl, rfl⟩

end ClassNode

namespace Diagram

variable {reference d e : Diagram}

/-- Under the name of a class either it is found or an earlier class of the name. -/
theorem class?_at {before after : List ClassNode} {c : ClassNode} {links : List Link}
    {name : String} (h : c.name = name) :
    class? ⟨before ++ c :: after, links⟩ name =
      some ((before.find? (·.name == name)).getD c) := by
  simp only [class?, List.find?_append, List.find?_cons, beq_iff_eq.mpr h]
  cases before.find? (·.name == name) <;> rfl

/-- Where a class of another name is replaced, the same class is found under a name. -/
theorem class?_replace_of_ne {before after : List ClassNode} {c c' : ClassNode} {links : List Link}
    {name : String} (h : c.name ≠ name) (h' : c'.name ≠ name) :
    class? ⟨before ++ c :: after, links⟩ name = class? ⟨before ++ c' :: after, links⟩ name := by
  simp only [class?, List.find?_append, List.find?_cons, beq_eq_false_iff_ne.mpr h,
    beq_eq_false_iff_ne.mpr h']

/-- An edit that the reference overlooks gives a candidate that looks alike. -/
theorem OverlookedEdit.looksAlike (h : reference.OverlookedEdit d e) :
    reference.LooksAlike d e := by
  obtain ⟨before, after, name, unseen⟩ := h
  rename_i c c' links
  refine ⟨by simp [classNames, name], rfl, ?_⟩
  intro looked r d' e' known found found'
  by_cases here : c.name = looked
  · subst here
    rw [class?_at rfl] at found
    rw [class?_at name.symm] at found'
    obtain rfl := Option.some.inj found
    obtain rfl := Option.some.inj found'
    cases earlier : before.find? (·.name == c.name) with
    | some first => exact .refl r first
    | none =>
      cases unseen with
      | annotations annotations => exact fun _ _ => ⟨rfl, rfl⟩
      | unknown absent => exact absurd (mem_classNames_of_class? known) absent
      | later again =>
        obtain ⟨first, member, same⟩ := List.mem_map.mp again
        exact absurd (beq_iff_eq.mpr same) (List.find?_eq_none.mp earlier first member)
      | others known' properties methods =>
        obtain rfl := Option.some.inj (known.symm.trans known')
        exact ClassNode.looksAlike_of_filter properties methods
  · rw [class?_replace_of_ne here (name ▸ here), found'] at found
    obtain rfl := Option.some.inj found
    exact .refl r _

/-- After any number of such edits the candidate still looks alike. -/
theorem looksAlike_of_overlookedEdits (h : Relation.ReflTransGen reference.OverlookedEdit d e) :
    reference.LooksAlike d e := by
  induction h with
  | refl => exact .refl reference d
  | tail _ edit ih => exact ih.trans edit.looksAlike

/-- A report does not depend on what the reference does not name: candidates that agree on the rest
get the same report, and so does a candidate after any edits that the reference overlooks. -/
theorem compare_overlooks (options : ComparisonOptions) (reference : Diagram) :
    (∀ d e, reference.LooksAlike d e → compare options reference d = compare options reference e) ∧
      ∀ d e, Relation.ReflTransGen reference.OverlookedEdit d e →
        compare options reference d = compare options reference e := by
  constructor
  · intro d e alike
    exact alike.compare_eq options
  · intro d e edits
    exact (looksAlike_of_overlookedEdits edits).compare_eq options

/-- A dog lacks a method and has a property of another type, and the candidate is edited in three
places: a class that the reference has not, a property that it does not name and a second dog. -/
theorem compare_overlooks_dog :
    let reference : Diagram := ⟨[⟨"Dog", [⟨"age", "int"⟩], ["bark"], []⟩], []⟩
    let candidate : Diagram :=
      ⟨[⟨"Cat", [], [], []⟩, ⟨"Dog", [⟨"name", "String"⟩, ⟨"age", "String"⟩], [], []⟩,
        ⟨"Dog", [], ["bark"], []⟩], []⟩
    let edited : Diagram :=
      ⟨[⟨"Cat", [], ["purr"], ["interface"]⟩, ⟨"Dog", [⟨"age", "String"⟩], [], []⟩,
        ⟨"Dog", [], [], []⟩], []⟩
    (reference.LooksAlike candidate edited ∧
        compare .usual reference candidate = compare .usual reference edited) ∧
      Relation.ReflTransGen reference.OverlookedEdit candidate edited ∧
        compare .usual reference candidate = compare .usual reference edited := by
  intro reference candidate edited
  let fullDog : ClassNode := ⟨"Dog", [⟨"name", "String"⟩, ⟨"age", "String"⟩], [], []⟩
  let dog : ClassNode := ⟨"Dog", [⟨"age", "String"⟩], [], []⟩
  let barkingDog : ClassNode := ⟨"Dog", [], ["bark"], []⟩
  let cat : ClassNode := ⟨"Cat", [], ["purr"], ["interface"]⟩
  have unknown : reference.OverlookedEdit candidate ⟨[cat, fullDog, barkingDog], []⟩ :=
    .at [] [fullDog, barkingDog] rfl (.unknown (by decide))
  have other : reference.OverlookedEdit ⟨[cat, fullDog, barkingDog], []⟩
      ⟨[cat, dog, barkingDog], []⟩ :=
    .at [cat] [barkingDog] rfl
      (.others (r := ⟨"Dog", [⟨"age", "int"⟩], ["bark"], []⟩) rfl rfl rfl)
  have later : reference.OverlookedEdit ⟨[cat, dog, barkingDog], []⟩ edited :=
    .at [cat, dog] [] rfl (.later (by decide))
  have edits : Relation.ReflTransGen reference.OverlookedEdit candidate edited :=
    .tail (.tail (.single unknown) other) later
  have alike := looksAlike_of_overlookedEdits edits
  exact ⟨⟨alike, (compare_overlooks .usual reference).1 _ _ alike⟩, edits,
    (compare_overlooks .usual reference).2 _ _ edits⟩

end Diagram

end DiagramDiff
