import DiagramDiff.Proofs.Comparison.Verdict

/-!
# A diagram compared with itself

A comparison looks a property up by its name and takes the first one. A class that gives two types
to one property therefore differs from itself, and a body is allowed to do that: its properties are
not checked against each other. Merging does not: a later declaration adds a property only under a
new name, and it removes one by using its name for a method. So the types of a name in a merged
class are those in its first declaration, or there are none (`typedOnce_foldl_merge_iff`).

A text compared with itself is identical exactly if no first declaration of a class is left with a
property of two types (`compare_ofText_self_iff`). The comparison of texts does not notice, because
it does not read texts that agree.
-/

namespace DiagramDiff

/-! ## Types of a property -/

/-- The properties of a name have one type. -/
def TypedOnce (name : String) (properties : List Property) : Prop :=
  ∀ p ∈ properties, ∀ q ∈ properties, p.name = name → q.name = name → p.type = q.type

/-- A diagram agrees with itself if its classes give one type to each property. -/
theorem agrees_self_iff {d : Diagram} :
    d.Agrees d ↔ ∀ name c, d.class? name = some c → ∀ member, TypedOnce member c.properties := by
  constructor
  · intro h name c hc member p hp q hq pName qName
    have covered := h.members name c c hc hc
    cases found : c.property? member with
    | none =>
      exact absurd (beq_iff_eq.mpr pName) (List.find?_eq_none.mp found p hp)
    | some first =>
      rw [← covered.types p hp first (pName ▸ found), ← covered.types q hq first (qName ▸ found)]
  · intro h
    refine ⟨fun _ => Iff.rfl, ?_, fun _ => Iff.rfl⟩
    intro name c other hc ho
    obtain rfl : c = other := Option.some.inj (hc.symm.trans ho)
    refine ⟨?_, ?_, fun m hm => hm⟩
    · intro p hp none
      exact absurd (beq_self_eq_true p.name) (List.find?_eq_none.mp none p hp)
    · intro p hp q found
      obtain ⟨member, same⟩ := (property?_eq_some_iff.mp found).mem
      exact h name c hc p.name q member p hp same rfl

/-! ## Types of a property in a merged class -/

/-- Adding properties under free names gives no second type. -/
theorem TypedOnce.appendProperties {name : String} {methods : List String}
    {known added : List Property} (h : TypedOnce name known) :
    TypedOnce name (ClassNode.appendProperties methods known added) := by
  induction added generalizing known with
  | nil => exact h
  | cons p added ih =>
    rw [ClassNode.appendProperties_cons]
    apply ih
    split
    · exact h
    · next free =>
      simp only [Bool.or_eq_true, List.any_eq_true, beq_iff_eq, not_or, not_exists, not_and] at free
      intro q hq r hr qName rName
      rcases List.mem_append.mp hq with known | new
      · rcases List.mem_append.mp hr with known' | new'
        · exact h q known r known' qName rName
        · obtain rfl := List.mem_singleton.mp new'
          exact absurd (qName.trans rName.symm) (free.1 q known)
      · obtain rfl := List.mem_singleton.mp new
        rcases List.mem_append.mp hr with known' | new'
        · exact absurd (rName.trans qName.symm) (free.1 r known')
        · rw [List.mem_singleton.mp new']

/-- Known properties stay when others are added. -/
theorem mem_appendProperties_of_mem {methods : List String} {known added : List Property}
    {p : Property} (h : p ∈ known) : p ∈ ClassNode.appendProperties methods known added := by
  induction added generalizing known with
  | nil => exact h
  | cons q added ih =>
    rw [ClassNode.appendProperties_cons]
    apply ih
    split
    · exact h
    · exact List.mem_append_left [q] h

/-- Merging keeps the types of a property, unless it makes it a method. -/
theorem typedOnce_merge_iff {name : String} {c d : ClassNode} :
    TypedOnce name (c.merge d).properties ↔ TypedOnce name c.properties ∨ name ∈ d.methods := by
  constructor
  · intro h
    by_cases method : name ∈ d.methods
    · exact .inr method
    · have kept : ∀ p ∈ c.properties, p.name = name → p ∈ (c.merge d).properties := by
        intro p hp pName
        apply mem_appendProperties_of_mem
        refine List.mem_filter.mpr ⟨hp, ?_⟩
        simpa [pName] using method
      refine .inl fun p hp q hq pName qName => ?_
      exact h p (kept p hp pName) q (kept q hq qName) pName qName
  · rintro (h | method)
    · apply TypedOnce.appendProperties
      intro p hp q hq
      exact h p (List.mem_filter.mp hp).1 q (List.mem_filter.mp hq).1
    · intro p hp q hq pName
      rcases ClassNode.mem_of_mem_appendProperties hp with kept | ⟨-, free⟩
      · have own := (List.mem_filter.mp kept).2
        simp [pName, method] at own
      · exact absurd (mem_appendNew.mpr (.inr method)) (pName ▸ free)

/-- Merging many declarations keeps the types of a property, unless one of them makes it a
method. -/
theorem typedOnce_foldl_merge_iff {name : String} {c : ClassNode} {later : List ClassNode} :
    TypedOnce name (later.foldl ClassNode.merge c).properties ↔
      TypedOnce name c.properties ∨ ∃ d ∈ later, name ∈ d.methods := by
  induction later generalizing c with
  | nil => simp
  | cons d later ih =>
    rw [List.foldl_cons, ih, typedOnce_merge_iff, or_assoc]
    simp

/-! ## Texts -/

/-- In its first declaration every class gives one type to each property, those excepted that some
declaration of the class makes methods. -/
def Settled (declared : List ClassNode) : Prop :=
  ∀ c, IsFirst (·.name = c.name) declared c → ∀ p ∈ c.properties, ∀ q ∈ c.properties,
    p.name = q.name → p.type ≠ q.type → ∃ d ∈ declared, d.name = c.name ∧ p.name ∈ d.methods

/-- The first of a name heads the list of all of that name. -/
theorem isFirst_name_iff {declared : List ClassNode} {name : String} {c : ClassNode} :
    IsFirst (·.name = name) declared c ↔
      ∃ later, declared.filter (·.name == name) = c :: later := by
  have same : IsFirst (·.name = name) declared c ↔
      IsFirst (fun d : ClassNode => (d.name == name) = true) declared c := by
    simp only [beq_iff_eq]
  rw [same, ← find?_eq_some_iff_isFirst, ← List.head?_filter, List.head?_eq_some_iff]

/-- Merged classes give one type to each property if the declarations are settled. -/
theorem typedOnce_foldl_declare_iff {declared : List ClassNode}
    (apart : ∀ c ∈ declared, c.MembersApart) :
    (∀ c ∈ declared.foldl ClassNode.declare [], ∀ member, TypedOnce member c.properties) ↔
      Settled declared := by
  constructor
  · intro h c hc p hp q hq same differ
    obtain ⟨later, parts⟩ := isFirst_name_iff.mp hc
    have merged : later.foldl ClassNode.merge c ∈ declared.foldl ClassNode.declare [] := by
      apply ClassNode.mem_foldl_declare_iff.mpr
      rw [ClassNode.name_foldl_merge]
      exact ⟨c, later, parts, rfl⟩
    rcases typedOnce_foldl_merge_iff.mp (h _ merged p.name) with once | ⟨d, hd, method⟩
    · exact absurd (once p hp q hq rfl same.symm) differ
    · have member : d ∈ declared.filter (·.name == c.name) := parts ▸ List.mem_cons_of_mem c hd
      obtain ⟨hd, own⟩ := List.mem_filter.mp member
      exact ⟨d, hd, beq_iff_eq.mp own, method⟩
  · intro h c hc member
    obtain ⟨first, later, parts, merged⟩ := ClassNode.mem_foldl_declare_iff.mp hc
    have own : c.name = first.name := by rw [merged, ClassNode.name_foldl_merge]
    have hf : IsFirst (·.name = first.name) declared first :=
      isFirst_name_iff.mpr ⟨later, own ▸ parts⟩
    rw [merged, typedOnce_foldl_merge_iff]
    by_contra both
    obtain ⟨twice, none⟩ := not_or.mp both
    apply twice
    intro p hp q hq pName qName
    by_contra differ
    obtain ⟨d, hd, same, method⟩ := h first hf p hp q hq (pName.trans qName.symm) differ
    have listed : d ∈ declared.filter (·.name == c.name) := by
      refine List.mem_filter.mpr ⟨hd, ?_⟩
      rw [beq_iff_eq]
      exact same.trans own.symm
    rw [parts] at listed
    rcases List.mem_cons.mp listed with rfl | hd
    · exact apart d hf.mem.1 p hp method
    · exact none ⟨d, hd, pName ▸ method⟩

namespace Diagram

open Mermaid

/-- Comparing gives the report on equal texts exactly where it has no findings. -/
theorem compare_eq_same_iff {options : ComparisonOptions} {reference candidate : Diagram} :
    compare options reference candidate = Report.same ↔ findings reference candidate = [] := by
  constructor
  · intro h
    apply compare_identical_iff.mp
    rw [h]
    rfl
  · intro h
    rw [compare, hints_eq_nil h, h]
    rfl

/-- The classes that a list of characters declares, before repetitions are merged. -/
def declaredIn (text : List Char) : List ClassNode :=
  declaredNodes (blankLabels (stripComments text))

/-- What is read from a text is identical to itself exactly if the declarations of the text are
settled. -/
theorem compare_ofChars_self_iff (options : ComparisonOptions) (text : List Char) :
    compare options (ofChars text) (ofChars text) = Report.same ↔ Settled (declaredIn text) := by
  have apart : ∀ c ∈ declaredIn text, c.MembersApart := by
    intro c hc
    obtain ⟨declaration, -, rfl⟩ := List.mem_map.mp hc
    exact membersApart_classOfBody _ _
  have properties : (ofChars text).classes.map (·.properties) =
      ((declaredIn text).foldl ClassNode.declare []).map (·.properties) :=
    map_annotateClasses (fun _ _ => rfl) _ _
  rw [compare_eq_same_iff, findings_eq_nil_iff, agrees_self_iff,
    ← typedOnce_foldl_declare_iff apart]
  constructor
  · intro h c hc member
    have listed : c.properties ∈ (ofChars text).classes.map (·.properties) :=
      properties ▸ List.mem_map_of_mem hc
    obtain ⟨d, hd, same⟩ := List.mem_map.mp listed
    have found : (ofChars text).class? d.name = some d :=
      ClassNode.find?_name_of_mem (nodup_names_ofChars text) hd
    rw [← same]
    exact h d.name d found member
  · intro h name c hc member
    have listed :
        c.properties ∈ ((declaredIn text).foldl ClassNode.declare []).map (·.properties) :=
      properties ▸ List.mem_map_of_mem (List.mem_of_find?_eq_some hc)
    obtain ⟨d, hd, same⟩ := List.mem_map.mp listed
    rw [← same]
    exact h d hd member

/-- A text read twice is identical exactly if its declarations are settled. -/
theorem compare_ofText_self_iff (options : ComparisonOptions) (text : String) :
    compare options (ofText text) (ofText text) = Report.same ↔
      Settled (declaredIn text.toList) :=
  compare_ofChars_self_iff options text.toList

/-- A body with two types for one property. -/
def unsettled : String := "class A \x7b\n  +x: int\n  +x: String\n\x7d"

/-- It differs from itself once it is read. -/
theorem compare_unsettled :
    Text.trim unsettled.toList ≠ [] ∧
      compare .usual (ofText unsettled) (ofText unsettled) =
        ⟨false, [Finding.difference (.propertyChanged "A" "x" "String" "int")], []⟩ := by
  decide +kernel

end Diagram

/-- Texts that agree once trimmed are given the verdict that reading them would give exactly if
their declarations are settled. -/
theorem compareTexts_eq_compare_iff {options : ComparisonOptions} {reference candidate : String}
    (filled : Text.trim reference.toList ≠ [])
    (same : Text.trim reference.toList = Text.trim candidate.toList) :
    compareTexts options reference candidate =
        Diagram.compare options (.ofChars (Text.trim reference.toList))
          (.ofChars (Text.trim candidate.toList)) ↔
      Settled (Diagram.declaredIn (Text.trim reference.toList)) := by
  have unread : compareTexts options reference candidate = Report.same := by
    have accepted : (Text.trim candidate.toList).isEmpty = false := by
      simpa [← same] using filled
    simp only [compareTexts, same, accepted, Bool.or_self, Bool.false_eq_true, if_false, if_true]
  rw [unread, ← same, eq_comm, Diagram.compare_ofChars_self_iff]

end DiagramDiff
