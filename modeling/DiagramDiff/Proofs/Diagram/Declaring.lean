import DiagramDiff.Diagram.Merge
import Mathlib.Data.List.Basic

/-!
# What repeated declarations preserve

Classes reach a diagram in three ways: by a declaration that is the first of its name, by merging a
later one into it and by an annotation. `declare_forall` and `changeFirst_forall` reduce a statement
about all classes of a diagram to these three.

Two such statements are made here. The names of the classes are pairwise distinct
(`nodup_names_declare`), and no class has a property and a method of one name
(`ClassNode.MembersApart`, `MembersApart.merge`). The second is why merging removes properties as
well as adding them: a later declaration may turn a property into a method.
-/

namespace DiagramDiff

namespace ClassNode

/-! ## Members -/

/-- No property of the class bears the name of one of its methods. -/
def MembersApart (c : ClassNode) : Prop := ∀ p ∈ c.properties, p.name ∉ c.methods

/-- A property of an extended list was known, or it was added under a free name. -/
theorem mem_of_mem_appendProperties {methods : List String} {known added : List Property}
    {p : Property} (h : p ∈ appendProperties methods known added) :
    p ∈ known ∨ (p ∈ added ∧ p.name ∉ methods) := by
  induction added generalizing known with
  | nil => exact .inl h
  | cons q rest ih =>
    rw [appendProperties_cons] at h
    rcases ih h with old | ⟨new, free⟩
    · split at old
      · exact .inl old
      · next taken =>
        rcases List.mem_append.mp old with old | new
        · exact .inl old
        · obtain rfl := List.mem_singleton.mp new
          simp only [Bool.or_eq_true, List.contains_iff_mem, not_or] at taken
          exact .inr ⟨List.mem_cons_self, taken.2⟩
    · exact .inr ⟨List.mem_cons_of_mem q new, free⟩

/-- Merging keeps properties and methods apart. -/
theorem MembersApart.merge {c other : ClassNode} (h : c.MembersApart) :
    (c.merge other).MembersApart := by
  intro p hp method
  rcases mem_of_mem_appendProperties hp with kept | ⟨-, free⟩
  · obtain ⟨own, others⟩ := List.mem_filter.mp kept
    rcases mem_appendNew.mp method with method | method
    · exact h p own method
    · simp [method] at others
  · exact free method

/-! ## Classes -/

/-- A class without a namesake among the known ones is added at the end. -/
theorem declare_of_not_mem {known : List ClassNode} {c : ClassNode}
    (h : c.name ∉ known.map (·.name)) : declare known c = known ++ [c] := by
  induction known with
  | nil => rfl
  | cons d known ih =>
    simp only [List.map_cons, List.mem_cons, not_or] at h
    rw [declare, if_neg (Ne.symm h.1), ih h.2, List.cons_append]

/-- Classes of pairwise distinct names are declared as they are. -/
theorem foldl_declare_of_nodup {classes known : List ClassNode}
    (h : ((known ++ classes).map (·.name)).Nodup) :
    classes.foldl declare known = known ++ classes := by
  induction classes generalizing known with
  | nil => simp
  | cons c classes ih =>
    have fresh : c.name ∉ known.map (·.name) := by
      rw [List.map_append, List.nodup_append] at h
      exact fun member => h.2.2 c.name member c.name List.mem_cons_self rfl
    have shape : known ++ c :: classes = known ++ [c] ++ classes := by simp
    rw [shape] at h
    rw [List.foldl_cons, declare_of_not_mem fresh, ih h, shape]

/-- Classes whose names are apart from the known ones are declared behind them. -/
theorem foldl_declare_append {classes known more : List ClassNode}
    (h : ∀ c ∈ classes, c.name ∉ known.map (·.name)) :
    classes.foldl declare (known ++ more) = known ++ classes.foldl declare more := by
  have one : ∀ (c : ClassNode) (more : List ClassNode), c.name ∉ known.map (·.name) →
      declare (known ++ more) c = known ++ declare more c := by
    intro c more
    induction known with
    | nil => exact fun _ => rfl
    | cons d known ih =>
      intro apart
      rw [List.map_cons, List.mem_cons, not_or] at apart
      rw [List.cons_append, declare, if_neg (Ne.symm apart.1), ih ?_ apart.2, List.cons_append]
      exact fun c hc member => h c hc (List.mem_cons_of_mem _ member)
  induction classes generalizing more with
  | nil => rfl
  | cons c classes ih =>
    obtain ⟨first, later⟩ := List.forall_mem_cons.mp h
    rw [List.foldl_cons, one c more first, ih later, List.foldl_cons]

/-- The names after a declaration are the names before it, the new one included. -/
theorem names_declare (known : List ClassNode) (c : ClassNode) :
    (declare known c).map (·.name) =
      if c.name ∈ known.map (·.name) then known.map (·.name)
      else known.map (·.name) ++ [c.name] := by
  induction known with
  | nil => rfl
  | cons d known ih =>
    by_cases same : d.name = c.name
    · simp [declare, same]
    · have other : c.name ≠ d.name := Ne.symm same
      simp only [declare, if_neg same, List.map_cons, ih, List.mem_cons, other, false_or]
      split <;> simp

/-- A declaration keeps the names pairwise distinct. -/
theorem nodup_names_declare {known : List ClassNode} (h : (known.map (·.name)).Nodup)
    (c : ClassNode) : ((declare known c).map (·.name)).Nodup := by
  rw [names_declare]
  split
  · exact h
  · next fresh =>
    refine List.nodup_append.mpr ⟨h, by simp, fun a ha b hb same => ?_⟩
    rw [List.mem_singleton] at hb
    exact fresh (hb ▸ same ▸ ha)

/-- Declarations keep the names pairwise distinct. -/
theorem nodup_names_foldl_declare {known : List ClassNode} (h : (known.map (·.name)).Nodup)
    (classes : List ClassNode) : ((classes.foldl declare known).map (·.name)).Nodup := by
  induction classes generalizing known with
  | nil => exact h
  | cons c classes ih => exact ih (nodup_names_declare h c)

/-- Every declared name is among the names, with those that were there before. -/
theorem mem_names_foldl_declare {classes known : List ClassNode} {name : String}
    (h : name ∈ known.map (·.name) ∨ name ∈ classes.map (·.name)) :
    name ∈ (classes.foldl declare known).map (·.name) := by
  induction classes generalizing known with
  | nil => simpa using h
  | cons c classes ih =>
    refine ih ?_
    rw [names_declare]
    simp only [List.map_cons, List.mem_cons] at h
    rcases h with known | rfl | later
    · left
      split
      · exact known
      · exact List.mem_append_left _ known
    · left
      split
      · assumption
      · simp
    · exact .inr later

/-! ### The class of a name -/

/-- The class found under a name after a further declaration of it. -/
def mergeInto (found : Option ClassNode) (c : ClassNode) : Option ClassNode :=
  match found with
  | none => some c
  | some d => some (d.merge c)

/-- A declaration is seen under its own name only. -/
theorem find?_declare (known : List ClassNode) (c : ClassNode) (name : String) :
    (declare known c).find? (·.name == name) =
      if c.name = name then mergeInto (known.find? (·.name == name)) c
      else known.find? (·.name == name) := by
  induction known with
  | nil =>
    by_cases own : c.name = name
    · simp [declare, mergeInto, own]
    · simp [declare, own]
  | cons d known ih =>
    by_cases same : d.name = c.name
    · rw [declare, if_pos same]
      by_cases own : c.name = name
      · simp [same, own, mergeInto]
      · simp [same, own]
    · rw [declare, if_neg same]
      by_cases here : d.name = name
      · have other : ¬ c.name = name := fun own => same (here.trans own.symm)
        simp [here, other]
      · rw [List.find?_cons_of_neg (by simpa using here), ih,
          List.find?_cons_of_neg (by simpa using here)]

/-- The class of a name is its first declaration with the later ones merged into it. -/
theorem find?_foldl_declare (known classes : List ClassNode) (name : String) :
    (classes.foldl declare known).find? (·.name == name) =
      (classes.filter (·.name == name)).foldl mergeInto (known.find? (·.name == name)) := by
  induction classes generalizing known with
  | nil => rfl
  | cons c classes ih =>
    rw [List.foldl_cons, ih, find?_declare]
    by_cases own : c.name = name
    · have kept : (c.name == name) = true := by simpa using own
      rw [if_pos own, List.filter_cons, if_pos kept, List.foldl_cons]
    · have left : ¬ (c.name == name) = true := by simpa using own
      rw [if_neg own, List.filter_cons, if_neg left]

/-- Merging many declarations keeps the name. -/
theorem name_foldl_merge (c : ClassNode) (later : List ClassNode) :
    (later.foldl merge c).name = c.name := by
  induction later generalizing c with
  | nil => rfl
  | cons d later ih => exact ih (c.merge d)

/-- Among distinct names, a class is what is found under its name. -/
theorem find?_name_of_mem {classes : List ClassNode} (h : (classes.map (·.name)).Nodup)
    {c : ClassNode} (hc : c ∈ classes) : classes.find? (·.name == c.name) = some c := by
  induction classes with
  | nil => cases hc
  | cons d classes ih =>
    rw [List.map_cons, List.nodup_cons] at h
    rcases List.mem_cons.mp hc with rfl | hc
    · simp
    · have other : ¬ d.name = c.name := fun same => h.1 (same ▸ List.mem_map_of_mem hc)
      rw [List.find?_cons_of_neg (by simpa using other)]
      exact ih h.2 hc

/-- Among distinct names, a class is found under its name in any order. -/
theorem find?_name_perm {classes others : List ClassNode} (h : classes.Perm others)
    (distinct : (classes.map (·.name)).Nodup) (name : String) :
    classes.find? (·.name == name) = others.find? (·.name == name) := by
  have found : ∀ {l : List ClassNode}, (l.map (·.name)).Nodup → ∀ c,
      l.find? (·.name == name) = some c ↔ c ∈ l ∧ c.name = name := by
    intro l hl c
    constructor
    · intro some
      exact ⟨List.mem_of_find?_eq_some some, by simpa using List.find?_some some⟩
    · rintro ⟨member, rfl⟩
      exact find?_name_of_mem hl member
  refine Option.ext fun c => ?_
  rw [found distinct, found ((h.map _).nodup_iff.mp distinct), h.mem_iff]

/-- A declared class is the first declaration of its name with the later ones merged into it. -/
theorem mem_foldl_declare_iff {classes : List ClassNode} {c : ClassNode} :
    c ∈ classes.foldl declare [] ↔
      ∃ first later, classes.filter (·.name == c.name) = first :: later ∧
        c = later.foldl merge first := by
  have merged : ∀ (d : ClassNode) (later : List ClassNode),
      later.foldl mergeInto (some d) = some (later.foldl merge d) := by
    intro d later
    induction later generalizing d with
    | nil => rfl
    | cons e later ih => exact ih (d.merge e)
  have found : (classes.foldl declare []).find? (·.name == c.name) = some c ↔
      ∃ first later, classes.filter (·.name == c.name) = first :: later ∧
        c = later.foldl merge first := by
    rw [find?_foldl_declare]
    cases classes.filter (·.name == c.name) with
    | nil => simp
    | cons first later =>
      rw [List.foldl_cons, List.find?_nil, mergeInto, merged, Option.some.injEq]
      constructor
      · intro same
        exact ⟨first, later, rfl, same.symm⟩
      · rintro ⟨other, rest, parts, same⟩
        obtain ⟨rfl, rfl⟩ := List.cons.inj parts
        exact same.symm
  have none : (([] : List ClassNode).map (·.name)).Nodup := List.nodup_nil
  rw [← found]
  constructor
  · exact find?_name_of_mem (nodup_names_foldl_declare none classes)
  · exact List.mem_of_find?_eq_some

/-! ### Preservation -/

/-- What holds of the known classes and of a declared one, and is preserved by merging, holds
afterwards. -/
theorem declare_forall {P : ClassNode → Prop} (merge : ∀ c d, P c → P d → P (c.merge d))
    {known : List ClassNode} (hk : ∀ c ∈ known, P c) {c : ClassNode} (hc : P c) :
    ∀ d ∈ declare known c, P d := by
  induction known with
  | nil =>
    intro d hd
    obtain rfl := List.mem_singleton.mp hd
    exact hc
  | cons e known ih =>
    have he : P e := hk e List.mem_cons_self
    have rest : ∀ d ∈ known, P d := fun d hd => hk d (List.mem_cons_of_mem e hd)
    intro d hd
    rw [declare] at hd
    split at hd
    · rcases List.mem_cons.mp hd with rfl | hd
      · exact merge e c he hc
      · exact rest d hd
    · rcases List.mem_cons.mp hd with rfl | hd
      · exact he
      · exact ih rest d hd

/-- What holds of every declared class, and is preserved by merging, holds of every class. -/
theorem foldl_declare_forall {P : ClassNode → Prop} (merge : ∀ c d, P c → P d → P (c.merge d))
    {classes known : List ClassNode} (hk : ∀ c ∈ known, P c) (hc : ∀ c ∈ classes, P c) :
    ∀ d ∈ classes.foldl declare known, P d := by
  induction classes generalizing known with
  | nil => exact hk
  | cons c classes ih =>
    have first : ∀ d ∈ declare known c, P d := declare_forall merge hk (hc c List.mem_cons_self)
    exact ih first fun d hd => hc d (List.mem_cons_of_mem c hd)

end ClassNode

namespace Diagram

/-- What holds of every class, and is preserved by a change, holds after the change. -/
theorem changeFirst_forall {P : ClassNode → Prop} {f : ClassNode → ClassNode}
    (change : ∀ c, P c → P (f c)) (name : String) {classes : List ClassNode}
    (h : ∀ c ∈ classes, P c) : ∀ d ∈ changeFirst name f classes, P d := by
  induction classes with
  | nil => exact h
  | cons c classes ih =>
    have hc : P c := h c List.mem_cons_self
    have rest : ∀ d ∈ classes, P d := fun d hd => h d (List.mem_cons_of_mem c hd)
    intro d hd
    rw [changeFirst] at hd
    split at hd
    · rcases List.mem_cons.mp hd with rfl | hd
      · exact change c hc
      · exact rest d hd
    · rcases List.mem_cons.mp hd with rfl | hd
      · exact hc
      · exact ih rest d hd

/-- A change of something else is not seen. -/
theorem map_changeFirst {β : Type} {f : ClassNode → ClassNode} {g : ClassNode → β}
    (h : ∀ c, g (f c) = g c) (name : String) (classes : List ClassNode) :
    (changeFirst name f classes).map g = classes.map g := by
  induction classes with
  | nil => rfl
  | cons c classes ih =>
    rw [changeFirst]
    split
    · rw [List.map_cons, h, List.map_cons]
    · rw [List.map_cons, ih, List.map_cons]

/-- Changing a class that is not there changes nothing. -/
theorem changeFirst_of_not_mem {name : String} {f : ClassNode → ClassNode}
    {classes : List ClassNode} (h : classes.any (·.name == name) = false) :
    changeFirst name f classes = classes := by
  induction classes with
  | nil => rfl
  | cons c classes ih =>
    rw [List.any_cons, Bool.or_eq_false_iff] at h
    rw [changeFirst, if_neg (by simpa using h.1), ih h.2]

/-- Classes of the same names are found alike. -/
theorem any_name_congr {classes others : List ClassNode}
    (h : classes.map (·.name) = others.map (·.name)) (name : String) :
    classes.any (·.name == name) = others.any (·.name == name) := by
  have through : ∀ cs : List ClassNode,
      cs.any (·.name == name) = (cs.map (·.name)).any (· == name) := by
    intro cs
    rw [List.any_map]
    rfl
  rw [through, h, ← through]

end Diagram

end DiagramDiff
