/-!
# Class diagrams

A diagram is a list of classes and a list of links between class names, both in the order in
which they were written. Nothing here requires names to be distinct or links to point at declared
classes: half-written diagrams are diagrams too, and a lookup by name always means the first
entry of that name.
-/

namespace DiagramDiff

/-! ## Members -/

/-- A property of a class: a name and the text of its type. -/
structure Property where
  /-- The name of the property. -/
  name : String
  /-- The type as it is written, `any` where the notation gives none. -/
  type : String
  deriving DecidableEq, Repr

namespace Property

/-- The type of a property that declares none. -/
def untypedName : String := "any"

/-- A property without a declared type. -/
def untyped (name : String) : Property := ⟨name, untypedName⟩

/-- How a property is shown in messages. -/
def shown (p : Property) : String := p.name ++ ": " ++ p.type

end Property

/-! ## Links -/

/-- A link between two classes, written with a relation marker and possibly labelled. -/
structure Link where
  /-- The class name before the marker. -/
  source : String
  /-- The class name after the marker. -/
  target : String
  /-- The relation marker. -/
  marker : String
  /-- The label, empty when there is none. -/
  label : String
  deriving DecidableEq, Repr

namespace Link

/-- A link without a label. -/
def plain (source marker target : String) : Link := ⟨source, target, marker, ""⟩

/-- Two links are the same for a comparison when ends and marker agree; labels do not count. -/
def sameAs (l m : Link) : Bool :=
  l.source == m.source && l.target == m.target && l.marker == m.marker

/-- How a link is shown in messages and written in a diagram. -/
def shown (l : Link) : String := l.source ++ " " ++ l.marker ++ " " ++ l.target

/-- Agreement of links is agreement of ends and marker. -/
theorem sameAs_iff {l m : Link} :
    l.sameAs m = true ↔ l.source = m.source ∧ l.target = m.target ∧ l.marker = m.marker := by
  simp [sameAs, and_assoc]

end Link

/-! ## Classes -/

/-- A class of a diagram with its members in the order of their declaration. -/
structure ClassNode where
  /-- The name of the class. -/
  name : String
  /-- The properties. -/
  properties : List Property := []
  /-- The names of the methods. -/
  methods : List String := []
  /-- The stereotypes, such as `interface`. A comparison ignores them. -/
  annotations : List String := []
  deriving DecidableEq, Repr

namespace ClassNode

/-- The first property of a name. -/
def property? (c : ClassNode) (name : String) : Option Property :=
  c.properties.find? (·.name == name)

/-- Whether the class has a property of a name. -/
def hasProperty (c : ClassNode) (name : String) : Bool := c.properties.any (·.name == name)

/-- Whether the class has a method of a name. -/
def hasMethod (c : ClassNode) (name : String) : Bool := c.methods.contains name

/-- The class with one more property. -/
def addProperty (c : ClassNode) (p : Property) : ClassNode :=
  { c with properties := c.properties ++ [p] }

/-- The class with one more method. -/
def addMethod (c : ClassNode) (name : String) : ClassNode :=
  { c with methods := c.methods ++ [name] }

/-- The class with one more annotation. -/
def annotate (c : ClassNode) (name : String) : ClassNode :=
  { c with annotations := c.annotations ++ [name] }

/-- Having a property is finding one. -/
theorem hasProperty_eq_isSome (c : ClassNode) (name : String) :
    c.hasProperty name = (c.property? name).isSome := by
  rw [Bool.eq_iff_iff]
  simp [hasProperty, property?]

end ClassNode

/-! ## Diagrams -/

/-- A class diagram. -/
structure Diagram where
  /-- The classes. -/
  classes : List ClassNode := []
  /-- The links. -/
  links : List Link := []
  deriving DecidableEq, Repr

namespace Diagram

/-- The first class of a name. -/
def class? (d : Diagram) (name : String) : Option ClassNode := d.classes.find? (·.name == name)

/-- Whether the diagram has a class of a name. -/
def hasClass (d : Diagram) (name : String) : Bool := d.classes.any (·.name == name)

/-- Whether the diagram has a link with the ends and the marker of the given one. -/
def hasLink (d : Diagram) (l : Link) : Bool := d.links.any (·.sameAs l)

/-- Whether the diagram has neither classes nor links. -/
def isEmpty (d : Diagram) : Bool := d.classes.isEmpty && d.links.isEmpty

/-- The diagram with one more class, after the others. -/
def addClass (d : Diagram) (c : ClassNode) : Diagram := { d with classes := d.classes ++ [c] }

/-- The diagram with one more link, after the others. -/
def addLink (d : Diagram) (l : Link) : Diagram := { d with links := d.links ++ [l] }

/-- The diagram without the classes of a name. -/
def removeClass (d : Diagram) (name : String) : Diagram :=
  { d with classes := d.classes.filter (·.name != name) }

/-- The classes with the first one of a name changed. -/
def changeFirst (name : String) (f : ClassNode → ClassNode) : List ClassNode → List ClassNode
  | [] => []
  | c :: rest => if c.name = name then f c :: rest else c :: changeFirst name f rest

/-- The diagram with its first class of a name changed; without one, there is no answer. -/
def changeClass? (d : Diagram) (name : String) (f : ClassNode → ClassNode) : Option Diagram :=
  if d.hasClass name then some { d with classes := changeFirst name f d.classes } else none

/-- Having a class is finding one. -/
theorem hasClass_eq_isSome (d : Diagram) (name : String) :
    d.hasClass name = (d.class? name).isSome := by
  rw [Bool.eq_iff_iff]
  simp [hasClass, class?]

end Diagram

end DiagramDiff
