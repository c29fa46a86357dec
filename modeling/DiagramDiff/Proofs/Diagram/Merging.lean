import DiagramDiff.Proofs.Diagram.Declaring
import Mathlib.Data.List.Induction

/-!
# The law of repeated declarations

However many declarations a class has, what becomes of a name is settled by a law that does not
mention the order of the merges (`foldl_merge_members`): a method is a method of some declaration, a
property is the first one of its name unless some declaration uses the name for a method, and the
annotations are those of all declarations.

What one merge does to a name is said by `hasMethod_merge` and `property?_merge`; the law follows by
induction on the later declarations. Only the first declaration is required to keep its properties
and methods apart, because merging restores this for the others (`MembersApart.merge`).

Merging is associative on the nose, order and repetitions included (`merge_assoc`), although each
merge takes properties away as well as adding them. A property that is taken away by a later
declaration would not be added again, so it may as well be added under the methods of all
declarations from the start (`appendProperties_filter`, `appendProperties_appendProperties`).
-/

namespace DiagramDiff

/-! ## Extending lists by new elements -/

section appendNew

variable {α : Type} [BEq α]

/-- The last element is added if it is new. -/
theorem appendNew_concat (known added : List α) (a : α) :
    appendNew known (added ++ [a]) =
      if (appendNew known added).contains a then appendNew known added
      else appendNew known added ++ [a] := List.foldl_append

/-- Elements that are known are not added. -/
theorem appendNew_eq_self [LawfulBEq α] {known added : List α}
    (h : ∀ a ∈ added, a ∈ known) : appendNew known added = known := by
  induction added with
  | nil => rfl
  | cons a added ih =>
    obtain ⟨first, later⟩ := List.forall_mem_cons.mp h
    rw [appendNew_cons, if_pos (by simpa using first), ih later]

/-- It does not matter how extensions are grouped. -/
theorem appendNew_assoc [LawfulBEq α] (known added more : List α) :
    appendNew (appendNew known added) more = appendNew known (appendNew added more) := by
  induction more using List.reverseRecOn with
  | nil => rfl
  | append_singleton more a ih =>
    rw [appendNew_concat, appendNew_concat, ih]
    by_cases ha : a ∈ appendNew added more
    · -- What the second list holds already is held by the whole.
      have whole : a ∈ appendNew known (appendNew added more) := mem_appendNew.mpr (.inr ha)
      rw [if_pos (by simpa using whole), if_pos (by simpa using ha)]
    · have fresh : ¬ (appendNew added more).contains a = true := by simpa using ha
      rw [if_neg fresh, appendNew_concat]

end appendNew

namespace ClassNode

/-! ## Extending properties -/

variable {methods more : List String} {known added others : List Property}

/-- Properties are added one after the other. -/
theorem appendProperties_append (methods : List String) (known added others : List Property) :
    appendProperties methods known (added ++ others) =
      appendProperties methods (appendProperties methods known added) others := List.foldl_append

/-- A property whose name is known or a method is not added. -/
theorem appendProperties_cons_of_taken {p : Property}
    (h : known.any (·.name == p.name) = true ∨ p.name ∈ methods) :
    appendProperties methods known (p :: added) = appendProperties methods known added := by
  rw [appendProperties_cons, if_pos (by simpa using h)]

/-- A property with a free name is added. -/
theorem appendProperties_cons_of_free {p : Property}
    (known_free : known.any (·.name == p.name) = false) (method_free : p.name ∉ methods) :
    appendProperties methods known (p :: added) =
      appendProperties methods (known ++ [p]) added := by
  rw [appendProperties_cons, if_neg (by simp [known_free, method_free])]

/-- Properties whose names are known or methods are not added. -/
theorem appendProperties_eq_self
    (h : ∀ p ∈ added, known.any (·.name == p.name) = true ∨ p.name ∈ methods) :
    appendProperties methods known added = known := by
  induction added with
  | nil => rfl
  | cons p added ih =>
    obtain ⟨first, later⟩ := List.forall_mem_cons.mp h
    rw [appendProperties_cons_of_taken first, ih later]

/-- Known names stay known, and the names of added properties are known or methods. -/
theorem any_name_appendProperties {p : Property}
    (h : known.any (·.name == p.name) = true ∨ p ∈ added) :
    (appendProperties methods known added).any (·.name == p.name) = true ∨ p.name ∈ methods := by
  induction added generalizing known with
  | nil => exact .inl (h.resolve_right List.not_mem_nil)
  | cons q added ih =>
    rw [appendProperties_cons]
    refine (em (p.name ∈ methods)).symm.imp_left fun free => ?_
    refine (ih ?_).resolve_right free
    rcases h with old | member
    · left
      split
      · exact old
      · rw [List.any_append, old, Bool.true_or]
    · rcases List.mem_cons.mp member with rfl | member
      · left
        split
        · next taken => simpa [free] using taken
        · simp
      · exact .inr member

/-- Taking names away from what was known and from what is added is taking them away afterwards. -/
theorem filter_appendProperties (methods removed : List String) (known added : List Property) :
    (appendProperties methods known added).filter (fun p => !removed.contains p.name) =
      appendProperties methods (known.filter fun p => !removed.contains p.name)
        (added.filter fun p => !removed.contains p.name) := by
  induction added generalizing known with
  | nil => rfl
  | cons p added ih =>
    rw [appendProperties_cons, ih]
    by_cases gone : p.name ∈ removed
    · -- Whether it was added or not, the property is taken away.
      have left : (if known.any (·.name == p.name) || methods.contains p.name then known
          else known ++ [p]).filter (fun p => !removed.contains p.name) =
            known.filter fun p => !removed.contains p.name := by
        split
        · rfl
        · simp [gone]
      rw [left, List.filter_cons_of_neg (by simpa using gone)]
    · have kept : (known.filter fun p => !removed.contains p.name).any (·.name == p.name) =
          known.any (·.name == p.name) := by
        rw [List.any_filter, Bool.eq_iff_iff, List.any_eq_true, List.any_eq_true]
        refine exists_congr fun q => and_congr_right fun _ => ?_
        simp only [Bool.and_eq_true, Bool.not_eq_true', beq_iff_eq]
        refine ⟨And.right, fun same => ⟨?_, same⟩⟩
        simpa [same] using gone
      rw [List.filter_cons_of_pos (by simpa using gone), appendProperties_cons, kept]
      split
      · rfl
      · rw [List.filter_append, List.filter_cons_of_pos (by simpa using gone), List.filter_nil]

/-- Taking names away from what is added is adding under these names as methods. -/
theorem appendProperties_filter (methods removed : List String) (known added : List Property) :
    appendProperties methods known (added.filter fun p => !removed.contains p.name) =
      appendProperties (appendNew methods removed) known added := by
  induction added generalizing known with
  | nil => rfl
  | cons p added ih =>
    by_cases gone : p.name ∈ removed
    · rw [List.filter_cons_of_neg (by simpa using gone), ih,
        appendProperties_cons_of_taken (.inr (mem_appendNew.mpr (.inr gone)))]
    · have same : (appendNew methods removed).contains p.name = methods.contains p.name := by
        rw [Bool.eq_iff_iff, List.contains_iff_mem, List.contains_iff_mem, mem_appendNew]
        exact or_iff_left gone
      rw [List.filter_cons_of_pos (by simpa using gone), appendProperties_cons,
        appendProperties_cons, ih, same]

/-- Properties that a list takes up one by one may be added to another list in its place. -/
theorem appendProperties_appendProperties (h : ∀ name ∈ more, name ∈ methods)
    (known added others : List Property) :
    appendProperties methods known (appendProperties more added others) =
      appendProperties methods known (added ++ others) := by
  induction others generalizing added with
  | nil => rw [List.append_nil]; rfl
  | cons p others ih =>
    have whole : appendProperties methods known (added ++ p :: others) =
        appendProperties methods (appendProperties methods known (added ++ [p])) others := by
      rw [← appendProperties_append, List.append_assoc, List.singleton_append]
    by_cases taken : added.any (·.name == p.name) = true ∨ p.name ∈ more
    · -- A property that the first list does not take up the second one does not take up either.
      rw [appendProperties_cons_of_taken taken, ih, whole, appendProperties_append,
        appendProperties_append]
      congr 1
      refine (appendProperties_eq_self ?_).symm
      intro q hq
      obtain rfl := List.mem_singleton.mp hq
      rcases taken with listed | method
      · obtain ⟨r, hr, same⟩ := List.any_eq_true.mp listed
        have name : r.name = q.name := by simpa using same
        have found := @any_name_appendProperties methods known added r (.inr hr)
        rwa [name] at found
      · exact .inr (h _ method)
    · rw [not_or, Bool.not_eq_true] at taken
      rw [appendProperties_cons_of_free taken.1 taken.2, ih, whole, ← appendProperties_append]

/-! ## One merge -/

/-- A merged class has the methods of both declarations. -/
theorem hasMethod_merge (c d : ClassNode) (name : String) :
    (c.merge d).hasMethod name = (c.hasMethod name || d.hasMethod name) := by
  rw [Bool.eq_iff_iff]
  simp only [hasMethod, Bool.or_eq_true, List.contains_iff_mem]
  exact mem_appendNew

/-- The first property of a name in an extended list. -/
theorem find?_appendProperties (methods : List String) (known added : List Property)
    (name : String) :
    (appendProperties methods known added).find? (·.name == name) =
      (known.find? (·.name == name)).or
        (if name ∈ methods then none else added.find? (·.name == name)) := by
  induction added generalizing known with
  | nil => simp [appendProperties]
  | cons p added ih =>
    by_cases taken : known.any (·.name == p.name) = true ∨ p.name ∈ methods
    · rw [appendProperties_cons_of_taken taken, ih]
      by_cases same : p.name = name
      · subst same
        rcases taken with listed | method
        · rw [← List.isSome_find?] at listed
          rw [Option.or_of_isSome listed, Option.or_of_isSome listed]
        · rw [if_pos method, if_pos method]
      · rw [List.find?_cons_of_neg (by simpa using same)]
    · rw [not_or, Bool.not_eq_true] at taken
      rw [appendProperties_cons_of_free taken.1 taken.2, ih, List.find?_append, Option.or_assoc]
      congr 1
      by_cases same : p.name = name
      · subst same
        simp [taken.2]
      · simp [same]

/-- A class whose members are apart has no property of the name of a method. -/
theorem MembersApart.property?_eq_none {c : ClassNode} (h : c.MembersApart) {name : String}
    (method : c.hasMethod name = true) : c.property? name = none := by
  refine List.find?_eq_none.mpr fun p hp same => ?_
  have name_eq : p.name = name := by simpa using same
  exact h p hp (by simpa [name_eq, hasMethod] using method)

/-- A merged class has the first property of a name, unless the name is one of a method. -/
theorem property?_merge {c : ClassNode} (h : c.MembersApart) (d : ClassNode) (name : String) :
    (c.merge d).property? name =
      if (c.merge d).hasMethod name then none
      else (c.property? name).or (d.property? name) := by
  have found : (c.merge d).property? name = _ := find?_appendProperties _ _ _ name
  cases method : (c.merge d).hasMethod name with
  | true =>
    rw [if_pos rfl]
    exact h.merge.property?_eq_none method
  | false =>
    have free : name ∉ appendNew c.methods d.methods := by
      simpa [hasMethod, merge] using method
    have later : name ∉ d.methods := fun member => free (mem_appendNew.mpr (.inr member))
    have kept : (c.properties.filter fun p => !d.methods.contains p.name).find?
        (·.name == name) = c.property? name := by
      rw [List.find?_filter, property?]
      congr 1
      funext p
      by_cases same : p.name = name
      · simp [same, later]
      · simp [same]
    rw [found, kept, if_neg free, if_neg (by simp)]
    rfl

/-! ## Grouping -/

/-- The properties of a class that is declared three times, added under the methods of all three. -/
theorem properties_merge_merge (a b c : ClassNode) :
    ((a.merge b).merge c).properties =
      appendProperties (appendNew (appendNew a.methods b.methods) c.methods)
        (a.properties.filter fun p => !(appendNew b.methods c.methods).contains p.name)
        (b.properties ++ c.properties) := by
  have kept : (a.properties.filter fun p => !b.methods.contains p.name).filter
      (fun p => !c.methods.contains p.name) =
        a.properties.filter fun p => !(appendNew b.methods c.methods).contains p.name := by
    rw [List.filter_filter]
    refine List.filter_congr fun p _ => ?_
    rw [Bool.eq_iff_iff]
    simp [mem_appendNew, and_comm]
  simp only [merge]
  rw [filter_appendProperties, appendProperties_filter, kept, ← appendProperties_append]

/-- It does not matter how merges are grouped. -/
theorem merge_assoc (a b c : ClassNode) : (a.merge b).merge c = a.merge (b.merge c) := by
  have methods := appendNew_assoc a.methods b.methods c.methods
  have properties : ((a.merge b).merge c).properties = (a.merge (b.merge c)).properties := by
    rw [properties_merge_merge, methods]
    simp only [merge]
    generalize all_eq : appendNew a.methods (appendNew b.methods c.methods) = all
    -- The methods of all three hold those of the second and the third.
    have outer : ∀ name ∈ appendNew b.methods c.methods, name ∈ all :=
      fun _ hbc => all_eq ▸ mem_appendNew.mpr (.inr hbc)
    have inner : appendNew all c.methods = all :=
      appendNew_eq_self fun _ hc => outer _ (mem_appendNew.mpr (.inr hc))
    rw [appendProperties_appendProperties outer, appendProperties_append,
      appendProperties_append, appendProperties_filter, inner]
  have annotations := appendNew_assoc a.annotations b.annotations c.annotations
  simp only [merge] at properties ⊢
  rw [properties, methods, annotations]

/-- A class whose members are apart is not changed by merging it into itself. -/
theorem MembersApart.merge_self {c : ClassNode} (h : c.MembersApart) : c.merge c = c := by
  have properties : c.properties.filter (fun p => !c.methods.contains p.name) = c.properties :=
    List.filter_eq_self.mpr fun p hp => by simpa using h p hp
  have known : appendProperties c.methods c.properties c.properties = c.properties :=
    appendProperties_eq_self fun p hp => .inl (List.any_eq_true.mpr ⟨p, hp, by simp⟩)
  simp only [ClassNode.merge, appendNew_eq_self fun _ h => h, properties, known]

/-! ## Many merges -/

variable {first : ClassNode} {later : List ClassNode}

/-- Merging keeps properties and methods apart, however often it is done. -/
theorem MembersApart.foldl_merge (h : first.MembersApart) :
    (later.foldl ClassNode.merge first).MembersApart := by
  induction later generalizing first with
  | nil => exact h
  | cons d later ih => exact ih h.merge

/-- A class has the methods of all its declarations. -/
theorem hasMethod_foldl_merge (first : ClassNode) (later : List ClassNode) (name : String) :
    (later.foldl merge first).hasMethod name = (first :: later).any (·.hasMethod name) := by
  induction later generalizing first with
  | nil => simp
  | cons d later ih =>
    rw [List.foldl_cons, ih, List.any_cons, hasMethod_merge, List.any_cons, List.any_cons,
      Bool.or_assoc]

/-- A class has the first property of a name among its declarations, unless one of them has a method
of that name. -/
theorem MembersApart.property?_foldl_merge (h : first.MembersApart) (name : String) :
    (later.foldl ClassNode.merge first).property? name =
      if (first :: later).any (·.hasMethod name) then none
      else (first :: later).findSome? (·.property? name) := by
  induction later generalizing first with
  | nil =>
    cases method : first.hasMethod name with
    | true => simp [method, h.property?_eq_none method]
    | false => simp [method]
  | cons d later ih =>
    have methods : (first.merge d :: later).any (·.hasMethod name) =
        (first :: d :: later).any (·.hasMethod name) := by
      simp only [List.any_cons, hasMethod_merge, Bool.or_assoc]
    rw [List.foldl_cons, ih h.merge, methods]
    split
    · rfl
    · next free =>
      rw [← methods, List.any_cons, Bool.or_eq_true, not_or] at free
      rw [List.findSome?_cons, property?_merge h, if_neg free.1, List.findSome?_cons,
        List.findSome?_cons]
      cases first.property? name <;> rfl

/-- A class has the annotations of all its declarations. -/
theorem mem_annotations_foldl_merge (first : ClassNode) (later : List ClassNode) (tag : String) :
    tag ∈ (later.foldl merge first).annotations ↔ ∃ d ∈ first :: later, tag ∈ d.annotations := by
  induction later generalizing first with
  | nil => simp
  | cons d later ih =>
    rw [List.foldl_cons, ih, List.exists_mem_cons_iff, List.exists_mem_cons_iff,
      List.exists_mem_cons_iff, ← or_assoc]
    exact or_congr_left mem_appendNew

/-- What becomes of a name in a class with many declarations, the first of which keeps its
properties and methods apart, is settled by a law that does not depend on how the merges are
grouped. -/
theorem foldl_merge_members (h : first.MembersApart) :
    let merged := later.foldl merge first
    (∀ name, merged.hasMethod name = true ↔ ∃ d ∈ first :: later, d.hasMethod name = true) ∧
      (∀ name, merged.property? name =
        if (first :: later).any (·.hasMethod name) then none
        else (first :: later).findSome? (·.property? name)) ∧
      (∀ tag, tag ∈ merged.annotations ↔ ∃ d ∈ first :: later, tag ∈ d.annotations) ∧
      (∀ a b c : ClassNode, (a.merge b).merge c = a.merge (b.merge c)) ∧
      merged.merge merged = merged := by
  intro merged
  refine ⟨fun name => ?_, h.property?_foldl_merge, mem_annotations_foldl_merge first later,
    merge_assoc, h.foldl_merge.merge_self⟩
  rw [hasMethod_foldl_merge, List.any_eq_true]

/-- Two declarations after the first one: one property becomes a method, another keeps its type. -/
def repeatedDog : List ClassNode :=
  [⟨"Dog", [⟨"breed", "int"⟩], ["bark"], ["pet"]⟩, ⟨"Dog", [], [], []⟩]

/-- A later declaration turns one property into a method and does not change the type of another. -/
theorem foldl_merge_members_dog :
    let dog : ClassNode := ⟨"Dog", [⟨"breed", "String"⟩, ⟨"bark", "Sound"⟩], [], []⟩
    let merged := repeatedDog.foldl merge dog
    dog.MembersApart ∧ merged.hasMethod "bark" = true ∧ merged.property? "bark" = none ∧
      merged.property? "breed" = some ⟨"breed", "String"⟩ ∧ "pet" ∈ merged.annotations ∧
        merged.merge merged = merged := by
  intro dog merged
  have apart : dog.MembersApart := fun _ _ => List.not_mem_nil
  obtain ⟨methods, properties, tags, -, again⟩ := @foldl_merge_members dog repeatedDog apart
  exact ⟨apart, (methods "bark").mpr (by decide), (properties "bark").trans (by decide),
    (properties "breed").trans (by decide), (tags "pet").mpr (by decide), again⟩

end ClassNode

end DiagramDiff
