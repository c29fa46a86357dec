import DiagramDiff.Diagram.Basic

/-!
# Repeated declarations

A class may be declared several times. Later declarations fold into the first one: methods and
annotations accumulate without repetition, the first declaration of a property decides its type,
and a name that some declaration uses for a method is never a property.
-/

namespace DiagramDiff

/-- A list extended by those elements of another that it does not hold yet, one by one. -/
def appendNew {α : Type} [BEq α] (known added : List α) : List α :=
  added.foldl (fun acc a => if acc.contains a then acc else acc ++ [a]) known

/-- The first of some elements is added if it is new. -/
theorem appendNew_cons {α : Type} [BEq α] (known added : List α) (a : α) :
    appendNew known (a :: added) =
      appendNew (if known.contains a then known else known ++ [a]) added := rfl

/-- Extending a list by new elements gives the elements of both. -/
theorem mem_appendNew {α : Type} [BEq α] [LawfulBEq α] {known added : List α} {a : α} :
    a ∈ appendNew known added ↔ a ∈ known ∨ a ∈ added := by
  induction added generalizing known with
  | nil => simp [appendNew]
  | cons b rest ih =>
    rw [appendNew_cons, ih]
    by_cases hb : b ∈ known
    · have kept : (if known.contains b then known else known ++ [b]) = known := by simp [hb]
      rw [kept]
      constructor
      · rintro (h | h)
        · exact .inl h
        · exact .inr (List.mem_cons_of_mem b h)
      · rintro (h | h)
        · exact .inl h
        · rcases List.mem_cons.mp h with rfl | h
          · exact .inl hb
          · exact .inr h
    · have grown : (if known.contains b then known else known ++ [b]) = known ++ [b] := by
        simp [hb]
      rw [grown]
      simp only [List.mem_append, List.mem_cons, List.not_mem_nil, or_false, or_assoc]

namespace ClassNode

/-- A list of properties extended by those of another whose names are free. -/
def appendProperties (methods : List String) (known added : List Property) : List Property :=
  added.foldl
    (fun acc p =>
      if acc.any (·.name == p.name) || methods.contains p.name then acc else acc ++ [p])
    known

/-- The first of some properties is added if its name is free. -/
theorem appendProperties_cons (methods : List String) (known added : List Property)
    (p : Property) :
    appendProperties methods known (p :: added) =
      appendProperties methods
        (if known.any (·.name == p.name) || methods.contains p.name then known else known ++ [p])
        added := rfl

/-- The first of two declarations of a class, extended by the second. -/
def merge (c other : ClassNode) : ClassNode :=
  let methods := appendNew c.methods other.methods
  { name := c.name
    properties :=
      appendProperties methods (c.properties.filter fun p => !other.methods.contains p.name)
        other.properties
    methods := methods
    annotations := appendNew c.annotations other.annotations }

/-- A list of classes extended by one more declaration: merged into the first class of its name,
or added at the end. -/
def declare : List ClassNode → ClassNode → List ClassNode
  | [], c => [c]
  | d :: rest, c => if d.name = c.name then d.merge c :: rest else d :: declare rest c

/-- Merging keeps the name. -/
@[simp] theorem merge_name (c other : ClassNode) : (c.merge other).name = c.name := rfl

end ClassNode

end DiagramDiff
