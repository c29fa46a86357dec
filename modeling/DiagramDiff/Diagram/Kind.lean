import DiagramDiff.Diagram.Basic

/-!
# Relation markers and their kinds

A link is written with one of fourteen markers. The list is in the order in which a reader tries
them: a marker that begins with another one comes first, so the longest marker that fits the text
is the one that is read.
-/

namespace DiagramDiff

/-- What a link between two classes means. -/
inductive LinkKind where
  /-- One class knows the other. -/
  | association
  /-- One class extends the other. -/
  | inheritance
  /-- One class is a part of the other and does not outlive it. -/
  | composition
  /-- One class is a part of the other. -/
  | aggregation
  /-- One class uses the other. -/
  | dependency
  /-- The classes are connected, and no more is said. -/
  | link
  /-- One class implements the other. -/
  | realization
  deriving DecidableEq, Repr

namespace LinkKind

/-- The name of a kind. -/
def name : LinkKind → String
  | .association => "association"
  | .inheritance => "inheritance"
  | .composition => "composition"
  | .aggregation => "aggregation"
  | .dependency => "dependency"
  | .link => "link"
  | .realization => "realization"

/-- Every kind. -/
def all : List LinkKind :=
  [.association, .inheritance, .composition, .aggregation, .dependency, .link, .realization]

/-- The kind of a name. -/
def ofName? (s : String) : Option LinkKind := all.find? (·.name == s)

/-- A kind is read back from its name. -/
@[simp] theorem ofName?_name (k : LinkKind) : ofName? k.name = some k := by
  cases k <;> decide

/-- The markers with their kinds, in the order in which a reader tries them. -/
def markerTable : List (String × LinkKind) :=
  [("<|--", .inheritance), ("--|>", .inheritance), ("<|..", .realization), ("..|>", .realization),
    ("*--", .composition), ("--*", .composition), ("o--", .aggregation), ("--o", .aggregation),
    ("-->", .association), ("<--", .association), ("..>", .dependency), ("<..", .dependency),
    ("--", .link), ("..", .link)]

/-- The kind that a marker stands for. -/
def ofMarker? (marker : String) : Option LinkKind := markerTable.lookup marker

end LinkKind

namespace Link

/-- The markers, in the order in which a reader tries them. -/
def markers : List String := LinkKind.markerTable.map (·.1)

/-- The kind of a link, if its marker is one of the fourteen. -/
def kind? (l : Link) : Option LinkKind := LinkKind.ofMarker? l.marker

end Link

end DiagramDiff
