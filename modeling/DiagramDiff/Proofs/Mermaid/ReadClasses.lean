import DiagramDiff.Mermaid.Reader
import DiagramDiff.Proofs.Diagram.Declaring

/-!
# The classes that are read from a text

Whatever a text is, the classes read from it are built by reading bodies, merging declarations and
adding annotations. What holds of a class that was read from a body and is preserved by the other
two holds of all of them (`textClasses_forall`). In this way no class that is read has a property
and a method of one name (`membersApart_ofChars`), and their names are pairwise distinct
(`nodup_names_ofChars`).
-/

namespace DiagramDiff.Mermaid

/-- The names of the methods of a body are kept out of its properties. -/
theorem membersApart_classOfBody (name : String) (body : List Char) :
    (classOfBody name body).MembersApart := by
  intro p hp
  show p.name ∉ bodyMethods body
  simpa using (List.mem_filter.mp hp).2

/-- The classes that a text declares, one after the other and before repetitions are merged. -/
def declaredNodes (text : List Char) : List ClassNode :=
  (declarations text).map Declaration.classNode

/-- What holds of every class that a text declares, and is preserved by merging and by the
annotations of the text, holds of every class of the text. -/
theorem textClasses_forall {P : ClassNode → Prop} {text : List Char}
    (node : ∀ d ∈ declarations text, P d.classNode)
    (merge : ∀ c d, P c → P d → P (c.merge d))
    (annotate : ∀ c, ∀ tag ∈ tagLines text, P c → P (c.annotate tag.1)) :
    ∀ c ∈ textClasses text, P c := by
  have declared : ∀ c ∈ declaredClasses text, P c := by
    refine ClassNode.foldl_declare_forall merge (fun _ h => absurd h List.not_mem_nil) ?_
    intro c hc
    obtain ⟨declaration, member, rfl⟩ := List.mem_map.mp hc
    exact node declaration member
  unfold textClasses
  generalize declaredClasses text = classes at declared
  generalize tagLines text = tags at annotate
  induction tags generalizing classes with
  | nil => exact declared
  | cons tag tags ih =>
    have later : ∀ c, ∀ other ∈ tags, P c → P (c.annotate other.1) :=
      fun c other ho => annotate c other (List.mem_cons_of_mem tag ho)
    refine ih _ ?_ later
    exact Diagram.changeFirst_forall (fun c => annotate c tag List.mem_cons_self) tag.2 declared

/-- An annotation is added before those that follow it. -/
theorem annotateClasses_cons (classes : List ClassNode) (tag : String × String)
    (tags : List (String × String)) :
    annotateClasses classes (tag :: tags) =
      annotateClasses (Diagram.changeFirst tag.2 (·.annotate tag.1) classes) tags := rfl

/-- Annotations are added one after the other. -/
theorem annotateClasses_append (classes : List ClassNode) (tags more : List (String × String)) :
    annotateClasses classes (tags ++ more) =
      annotateClasses (annotateClasses classes tags) more := List.foldl_append

/-- Annotations change nothing about a class but its annotations. -/
theorem map_annotateClasses {β : Type} {f : ClassNode → β}
    (h : ∀ c tag, f (c.annotate tag) = f c) (classes : List ClassNode)
    (tags : List (String × String)) : (annotateClasses classes tags).map f = classes.map f := by
  induction tags generalizing classes with
  | nil => rfl
  | cons tag tags ih =>
    rw [annotateClasses_cons, ih]
    exact Diagram.map_changeFirst (fun c => h c tag.1) tag.2 classes

end DiagramDiff.Mermaid

namespace DiagramDiff

/-- A class without its annotations. -/
def ClassNode.unannotated (c : ClassNode) : ClassNode := { c with annotations := [] }

end DiagramDiff

namespace DiagramDiff.Diagram

open Mermaid

/-- The links are read from the text without comments. -/
theorem links_ofChars (text : List Char) : (ofChars text).links = textLinks (stripComments text) :=
  rfl

/-- The classes are read from the same text with its labels blanked. -/
theorem classes_ofChars (text : List Char) :
    (ofChars text).classes = annotateClasses (declaredClasses (blankLabels (stripComments text)))
      (tagLines (blankLabels (stripComments text))) := rfl

/-- Up to annotations, the classes are those that are declared. -/
theorem map_unannotated_ofChars (text : List Char) :
    (ofChars text).classes.map ClassNode.unannotated =
      (declaredClasses (blankLabels (stripComments text))).map ClassNode.unannotated :=
  map_annotateClasses (fun _ _ => rfl) _ _

/-- The names of the classes are those of the classes that are declared. -/
theorem map_name_ofChars (text : List Char) :
    (ofChars text).classes.map (·.name) =
      (declaredClasses (blankLabels (stripComments text))).map (·.name) :=
  map_annotateClasses (fun _ _ => rfl) _ _

/-- No class that is read has a property and a method of one name. -/
theorem membersApart_ofChars (text : List Char) : ∀ c ∈ (ofChars text).classes, c.MembersApart :=
  textClasses_forall (fun _ _ => membersApart_classOfBody _ _) (fun _ _ h _ => h.merge)
    fun _ _ _ h => h

/-- The names of the classes that are read are pairwise distinct. -/
theorem nodup_names_ofChars (text : List Char) :
    ((ofChars text).classes.map (·.name)).Nodup := by
  have none : (([] : List ClassNode).map (·.name)).Nodup := List.nodup_nil
  rw [map_name_ofChars]
  exact ClassNode.nodup_names_foldl_declare none _

end DiagramDiff.Diagram
