import DiagramDiff.Diagram.Basic
import DiagramDiff.Json.Record

/-!
# Diagrams in JSON

The JSON form of properties, links, classes and diagrams. The list of annotations is left out when
it is empty and may be absent, and a label may be absent on reading.
-/

namespace DiagramDiff

open Json (required defaulted fields?)

namespace Property

/-- A property as JSON. -/
def toJson (p : Property) : Json := .object [("name", .string p.name), ("type", .string p.type)]

/-- The property that a value describes. -/
def ofJson? (j : Json) : Option Property := do
  let fields ← fields? ["name", "type"] 2 j
  let name ← required fields "name" Json.string?
  let type ← required fields "type" Json.string?
  return ⟨name, type⟩

end Property

namespace Link

/-- A link as JSON. -/
def toJson (l : Link) : Json :=
  .object [("from", .string l.source), ("to", .string l.target), ("type", .string l.marker),
    ("label", .string l.label)]

/-- The link that a value describes. -/
def ofJson? (j : Json) : Option Link := do
  let fields ← fields? ["from", "to", "type", "label"] 3 j
  let source ← required fields "from" Json.string?
  let target ← required fields "to" Json.string?
  let marker ← required fields "type" Json.string?
  let label ← defaulted fields "label" "" Json.string?
  return ⟨source, target, marker, label⟩

end Link

namespace ClassNode

/-- A class as JSON. -/
def toJson (c : ClassNode) : Json :=
  .object
    ([("name", .string c.name), ("properties", Json.ofList Property.toJson c.properties),
      ("methods", Json.ofList Json.string c.methods)] ++
    if c.annotations.isEmpty then []
    else [("annotations", Json.ofList Json.string c.annotations)])

/-- The class that a value describes. -/
def ofJson? (j : Json) : Option ClassNode := do
  let fields ← fields? ["name", "properties", "methods", "annotations"] 3 j
  let name ← required fields "name" Json.string?
  let properties ← required fields "properties" (Json.list? Property.ofJson?)
  let methods ← required fields "methods" (Json.list? Json.string?)
  let annotations ← defaulted fields "annotations" [] (Json.list? Json.string?)
  return ⟨name, properties, methods, annotations⟩

end ClassNode

namespace Diagram

/-- A diagram as JSON. -/
def toJson (d : Diagram) : Json :=
  .object [("classes", Json.ofList ClassNode.toJson d.classes),
    ("relationships", Json.ofList Link.toJson d.links)]

/-- The diagram that a value describes. -/
def ofJson? (j : Json) : Option Diagram := do
  let fields ← fields? ["classes", "relationships"] 2 j
  let classes ← required fields "classes" (Json.list? ClassNode.ofJson?)
  let links ← required fields "relationships" (Json.list? Link.ofJson?)
  return ⟨classes, links⟩

end Diagram

end DiagramDiff
