import DiagramDiff.Proofs.Comparison.Account
import DiagramDiff.Proofs.Comparison.FindingOrigins
import DiagramDiff.Proofs.Mermaid.Concatenation

/-!
# Candidates in another order

What a comparison finds depends on the order of the reference, and on that of the candidate only in
the two lists of what was added (`findings_rearranged`). The classes of the candidate may be
rearranged because their names are distinct, so that a lookup finds the same class, and its links
because a comparison asks only whether there is one; annotations do not count.

Two closed blocks that share no class are, in either order, rearrangements of one another, and so
declarations may be reordered (`compare_inOrder`).
-/

namespace DiagramDiff

/-! ## Rearranged diagrams -/

/-- Two diagrams of the same classes and links in any order. Annotations and labels do not count. -/
structure Diagram.Rearranged (d e : Diagram) : Prop where
  /-- The classes are the same up to their order and their annotations. -/
  classes : (d.classes.map ClassNode.unannotated).Perm (e.classes.map ClassNode.unannotated)
  /-- The names of the classes are pairwise distinct. -/
  distinct : d.classNames.Nodup
  /-- The links are the same up to their order and their labels. -/
  links : (d.links.map Link.ends).Perm (e.links.map Link.ends)

/-- Two findings that are the same but for the order in which they list what was added. -/
inductive Finding.UpToOrder : Finding → Finding → Prop where
  /-- The findings are the same. -/
  | same (f : Finding) : UpToOrder f f
  /-- The same classes were added. -/
  | classesAdded {names names' : List String} (h : names.Perm names') :
      UpToOrder (.classesAdded names) (.classesAdded names')
  /-- Links of the same ends and markers were added. -/
  | linksAdded {links links' : List Link} (h : (links.map Link.ends).Perm (links'.map Link.ends)) :
      UpToOrder (.linksAdded links) (.linksAdded links')

/-- A comparison does not look at annotations. -/
theorem ClassNode.memberFindings_unannotated (c other : ClassNode) :
    c.memberFindings other.unannotated = c.memberFindings other := rfl

/-- The first occurrences of a list are distinct. -/
theorem nodup_firstOccurrences {α : Type} [BEq α] [LawfulBEq α] (l : List α) :
    (firstOccurrences (· == ·) l).Nodup :=
  nodup_of_precedes (pairwise_firstOccurrences eq_equivalence (fun _ _ => beq_iff_eq) l)

/-- The first occurrences of a rearranged list are rearranged. -/
theorem firstOccurrences_perm {α : Type} [BEq α] [LawfulBEq α] {l l' : List α} (h : l.Perm l') :
    (firstOccurrences (· == ·) l).Perm (firstOccurrences (· == ·) l') := by
  rw [List.perm_ext_iff_of_nodup (nodup_firstOccurrences l) (nodup_firstOccurrences l')]
  intro a
  rw [mem_firstOccurrences, mem_firstOccurrences, h.mem_iff]

/-- The ends of absent links are the ends that the other diagram has not, each once. -/
theorem map_ends_absentLinks (links : List Link) (other : Diagram) :
    (absentLinks links other).map Link.ends =
      firstOccurrences (· == ·)
        ((links.map Link.ends).filter fun ends => !(other.links.map Link.ends).contains ends) := by
  have same : Link.sameAs = fun l m => l.ends == m.ends := by
    funext l m
    rw [Bool.eq_iff_iff, sameAs_iff_ends, beq_iff_eq]
  have absent : ∀ l, (!other.hasLink l) = !(other.links.map Link.ends).contains l.ends := by
    intro l
    rw [Bool.eq_iff_iff, Bool.not_eq_true', Bool.not_eq_true', ← Bool.not_eq_true, hasLink_iff,
      ← Bool.not_eq_true, List.contains_iff_mem]
  rw [absentLinks, same, List.filter_map, firstOccurrences_map]
  simp only [absent, Function.comp_def]

namespace Diagram.Rearranged

variable {d e : Diagram}

/-- The names of the classes are rearranged. -/
theorem classNames (h : d.Rearranged e) : d.classNames.Perm e.classNames := by
  have names := h.classes.map ClassNode.name
  rwa [List.map_map, List.map_map] at names

/-- Both diagrams have the same classes. -/
theorem hasClass_eq (h : d.Rearranged e) (name : String) : d.hasClass name = e.hasClass name := by
  rw [Bool.eq_iff_iff, hasClass_iff, hasClass_iff, h.classNames.mem_iff]

/-- Both diagrams have the same links. -/
theorem hasLink_eq (h : d.Rearranged e) (l : Link) : d.hasLink l = e.hasLink l := by
  rw [Bool.eq_iff_iff, hasLink_iff, hasLink_iff, h.links.mem_iff]

/-- Under a name both diagrams have the same class, up to its annotations. -/
theorem class?_eq (h : d.Rearranged e) (name : String) :
    (d.class? name).map ClassNode.unannotated = (e.class? name).map ClassNode.unannotated := by
  have through : ∀ f : Diagram, (f.class? name).map ClassNode.unannotated =
      (f.classes.map ClassNode.unannotated).find? (·.name == name) := by
    intro f
    rw [List.find?_map]
    rfl
  have distinct : ((d.classes.map ClassNode.unannotated).map (·.name)).Nodup := by
    rw [List.map_map]
    exact h.distinct
  rw [through, through, ClassNode.find?_name_perm h.classes distinct]

/-- The classes of another diagram that are absent are the same. -/
theorem absentClasses_eq (h : d.Rearranged e) (classes : List ClassNode) :
    absentClasses classes d = absentClasses classes e := by
  simp only [absentClasses, h.hasClass_eq]

/-- The links of another diagram that are absent are the same. -/
theorem absentLinks_eq (h : d.Rearranged e) (links : List Link) :
    absentLinks links d = absentLinks links e := by
  simp only [absentLinks, h.hasLink_eq]

/-- The classes that another diagram has not are rearranged. -/
theorem absentClasses_perm (h : d.Rearranged e) (other : Diagram) :
    (absentClasses d.classes other).Perm (absentClasses e.classes other) :=
  firstOccurrences_perm (h.classNames.filter _)

/-- The links that another diagram has not are rearranged. -/
theorem absentLinks_perm (h : d.Rearranged e) (other : Diagram) :
    ((absentLinks d.links other).map Link.ends).Perm
      ((absentLinks e.links other).map Link.ends) := by
  rw [map_ends_absentLinks, map_ends_absentLinks]
  exact firstOccurrences_perm (h.links.filter _)

/-- The findings about shared classes are the same. -/
theorem sharedFindings_eq (h : d.Rearranged e) (reference : Diagram) :
    sharedFindings reference d = sharedFindings reference e := by
  refine List.flatMap_congr fun c _ => ?_
  have same := h.class?_eq c.name
  cases found : d.class? c.name with
  | none =>
    rw [found] at same
    rw [Option.map_eq_none_iff.mp same.symm]
  | some other =>
    rw [found] at same
    obtain ⟨other', found', unannotated⟩ := Option.map_eq_some_iff.mp same.symm
    rw [found']
    show c.memberFindings other = c.memberFindings other'
    rw [← c.memberFindings_unannotated other, ← unannotated, c.memberFindings_unannotated]

end Diagram.Rearranged

/-! ## The findings -/

/-- Findings about lists correspond if the lists are empty together. -/
theorem forall₂_findingOf {α : Type} {R : Finding → Finding → Prop} {finding : List α → Finding}
    {things things' : List α} (empty : things.length = things'.length)
    (both : R (finding things) (finding things')) :
    List.Forall₂ R (findingOf finding things) (findingOf finding things') := by
  cases things with
  | nil =>
    obtain rfl : things' = [] := List.length_eq_zero_iff.mp empty.symm
    exact .nil
  | cons a things =>
    cases things' with
    | nil => cases empty
    | cons b things' => exact .cons both .nil

/-- Lists that correspond are empty together. -/
theorem isEmpty_eq_of_forall₂ {α β : Type} {R : α → β → Prop} {l : List α} {l' : List β}
    (h : List.Forall₂ R l l') : l.isEmpty = l'.isEmpty := by
  cases h <;> rfl

namespace Diagram

/-- What is found about a candidate in another order is the same, in the same order, but for the
order of what was added. -/
theorem findings_rearranged {d e : Diagram} (h : d.Rearranged e) (reference : Diagram) :
    List.Forall₂ Finding.UpToOrder (findings reference d) (findings reference e) := by
  have same : ∀ fs : List Finding, List.Forall₂ Finding.UpToOrder fs fs :=
    fun fs => List.forall₂_same.mpr fun f _ => .same f
  have classes := h.absentClasses_perm reference
  have links := h.absentLinks_perm reference
  have count : (absentLinks d.links reference).length = (absentLinks e.links reference).length := by
    simpa only [List.length_map] using links.length_eq
  unfold findings
  rw [h.absentClasses_eq, h.absentLinks_eq, h.sharedFindings_eq]
  exact List.rel_append (same _) (List.rel_append
    (forall₂_findingOf classes.length_eq (.classesAdded classes))
    (List.rel_append (same _) (List.rel_append (same _)
      (forall₂_findingOf count (.linksAdded links)))))

/-- The verdict says whether there are findings. -/
theorem identical_compare (options : ComparisonOptions) (reference candidate : Diagram) :
    (compare options reference candidate).identical = (findings reference candidate).isEmpty :=
  List.isEmpty_map

/-- Two closed blocks that share no class may change places. What is reported is the same, in the
same order and with messages that follow, but for the order of the classes and links that were
added. -/
theorem compare_inOrder (options : ComparisonOptions) (reference first second : String)
    (hf : Closed first) (hs : Closed second)
    (apart : ∀ name ∈ (ofText first).classNames, name ∉ (ofText second).classNames) :
    List.Forall₂
        (fun d d' => d.finding.UpToOrder d'.finding ∧ d.message = d.finding.message ∧
          d'.message = d'.finding.message)
        (compare options (ofText reference) (ofText (inOrder first second))).differences
        (compare options (ofText reference) (ofText (inOrder second first))).differences ∧
      (compare options (ofText reference) (ofText (inOrder first second))).identical =
        (compare options (ofText reference) (ofText (inOrder second first))).identical := by
  have apart' : ∀ name ∈ (ofText second).classNames, name ∉ (ofText first).classNames :=
    fun name member other => apart name other member
  have rearranged : (ofText (inOrder first second)).Rearranged (ofText (inOrder second first)) := by
    refine ⟨?_, nodup_names_ofChars _, ?_⟩
    · rw [map_unannotated_inOrder hf hs apart, map_unannotated_inOrder hs hf apart']
      exact List.perm_append_comm
    · rw [links_inOrder, links_inOrder, List.map_append, List.map_append]
      exact List.perm_append_comm
  have found := findings_rearranged rearranged (ofText reference)
  constructor
  · rw [differences_compare, differences_compare, List.forall₂_map_left_iff,
      List.forall₂_map_right_iff]
    exact found.imp fun f f' same => ⟨same, rfl, rfl⟩
  · rw [identical_compare, identical_compare]
    exact isEmpty_eq_of_forall₂ found

/-- A block with a body, a label that opens a brace and a comment that does. -/
def dogBlock : String := "%% \x7b\nclass Dog\n\x7b\n  +name: String\n\x7d\nDog --> Cat : \x7b"

/-- A block with an annotation for the other one. -/
def catBlock : String := "class Cat\nclass Bird\nBird ..> Dog\n<<tame>> Dog\n"

/-- The two blocks may change places. -/
theorem compare_inOrder_blocks :
    Closed dogBlock ∧ Closed catBlock ∧
      (∀ name ∈ (ofText dogBlock).classNames, name ∉ (ofText catBlock).classNames) ∧
      List.Forall₂
        (fun d d' => d.finding.UpToOrder d'.finding ∧ d.message = d.finding.message ∧
          d'.message = d'.finding.message)
        (compare .usual (ofText "class Cat") (ofText (inOrder dogBlock catBlock))).differences
        (compare .usual (ofText "class Cat") (ofText (inOrder catBlock dogBlock))).differences := by
  have hd : Closed dogBlock := by decide +kernel
  have hc : Closed catBlock := by decide +kernel
  have apart : ∀ name ∈ (ofText dogBlock).classNames, name ∉ (ofText catBlock).classNames := by
    decide +kernel
  exact ⟨hd, hc, apart, (compare_inOrder .usual "class Cat" dogBlock catBlock hd hc apart).1⟩

end Diagram

end DiagramDiff
