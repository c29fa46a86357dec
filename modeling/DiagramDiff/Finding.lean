import DiagramDiff.Diagram.Basic

/-!
# Findings

A finding is one classified discrepancy between a reference diagram and a candidate, with the
names that a reader needs to find it. Every finding has a message; a `Difference` carries the two
together, because a difference that comes from a document brings its own wording.
-/

namespace DiagramDiff

/-! ## Kinds -/

/-- The kind of a finding. -/
inductive FindingKind where
  /-- The comparison was refused. -/
  | error
  /-- Classes of the reference that the candidate has not. -/
  | classesMissing
  /-- Classes of the candidate that the reference has not. -/
  | classesAdded
  /-- Properties of a class that its candidate has not. -/
  | propertiesMissing
  /-- Methods of a class that its candidate has not. -/
  | methodsMissing
  /-- A property whose type differs. -/
  | propertyChanged
  /-- Links of the reference that the candidate has not. -/
  | linksMissing
  /-- Links of the candidate that the reference has not. -/
  | linksAdded
  deriving DecidableEq, Repr

namespace FindingKind

/-- The name of a kind. -/
def name : FindingKind → String
  | .error => "error"
  | .classesMissing => "classes_missing"
  | .classesAdded => "classes_added"
  | .propertiesMissing => "properties_missing"
  | .methodsMissing => "methods_missing"
  | .propertyChanged => "property_changed"
  | .linksMissing => "relationships_missing"
  | .linksAdded => "relationships_added"

/-- Every kind. -/
def all : List FindingKind :=
  [.error, .classesMissing, .classesAdded, .propertiesMissing, .methodsMissing, .propertyChanged,
    .linksMissing, .linksAdded]

/-- The kind of a name. -/
def ofName? (s : String) : Option FindingKind := all.find? (·.name == s)

/-- Whether findings of the kind speak of something that the candidate should contain. -/
def isMissing : FindingKind → Bool
  | .classesMissing | .propertiesMissing | .methodsMissing | .linksMissing => true
  | _ => false

/-- A kind is read back from its name. -/
@[simp] theorem ofName?_name (k : FindingKind) : ofName? k.name = some k := by
  cases k <;> decide

end FindingKind

/-! ## Findings and differences -/

/-- A discrepancy with the names it concerns. -/
inductive Finding where
  /-- One of the texts is blank, so there is nothing to compare. -/
  | error
  /-- Classes that the candidate has not. -/
  | classesMissing (classes : List String)
  /-- Classes that the reference has not. -/
  | classesAdded (classes : List String)
  /-- Properties that the candidate's class has not. -/
  | propertiesMissing (className : String) (properties : List Property)
  /-- Methods that the candidate's class has not. -/
  | methodsMissing (className : String) (methods : List String)
  /-- A property that the candidate's class has with another type. -/
  | propertyChanged (className propertyName oldType newType : String)
  /-- Links that the candidate has not. -/
  | linksMissing (links : List Link)
  /-- Links that the reference has not. -/
  | linksAdded (links : List Link)
  deriving DecidableEq, Repr

namespace Finding

/-- The kind of a finding. -/
def kind : Finding → FindingKind
  | .error => .error
  | .classesMissing _ => .classesMissing
  | .classesAdded _ => .classesAdded
  | .propertiesMissing _ _ => .propertiesMissing
  | .methodsMissing _ _ => .methodsMissing
  | .propertyChanged _ _ _ _ => .propertyChanged
  | .linksMissing _ => .linksMissing
  | .linksAdded _ => .linksAdded

/-- Words in a row, with commas between them. -/
def listed (words : List String) : String := ", ".intercalate words

/-- The message of a finding. -/
def message : Finding → String
  | .error => "one or both codes are empty"
  | .classesMissing classes => "Classes missing in user code: " ++ listed classes
  | .classesAdded classes => "Extra classes in user code: " ++ listed classes
  | .propertiesMissing className properties =>
    "Properties missing in class " ++ className ++ ": " ++ listed (properties.map Property.shown)
  | .methodsMissing className methods =>
    "Methods missing in class " ++ className ++ ": " ++ listed methods
  | .propertyChanged className propertyName oldType newType =>
    "Property " ++ propertyName ++ " in class " ++ className ++ " changed from " ++ oldType ++
      " to " ++ newType
  | .linksMissing links => "Relationships missing in user code: " ++ listed (links.map Link.shown)
  | .linksAdded links => "Extra relationships in user code: " ++ listed (links.map Link.shown)

end Finding

/-- A finding with the message that is shown for it. -/
structure Difference where
  /-- What was found. -/
  finding : Finding
  /-- How it is put into words. -/
  message : String
  deriving DecidableEq, Repr

/-- The difference that puts a finding into the words of this library. -/
def Finding.difference (f : Finding) : Difference := ⟨f, f.message⟩

/-- The kind of a difference. -/
def Difference.kind (d : Difference) : FindingKind := d.finding.kind

end DiagramDiff
