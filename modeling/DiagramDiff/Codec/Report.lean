import DiagramDiff.Attribution
import DiagramDiff.Codec.Diagram

/-!
# Reports in JSON

The JSON form of differences, hints, reports and marked lines. A difference names its kind under
the key `type`, before the fields of that kind and the message. Hints are left out when there are
none, and so are the mark and the difference of a line without them.
-/

namespace DiagramDiff

open Json (required defaulted optional fields?)

/-! ## Differences -/

namespace Finding

/-- The fields of a finding beside its kind. -/
def fields : Finding → List (String × Json)
  | .error => []
  | .classesMissing classes | .classesAdded classes =>
    [("classes", Json.ofList Json.string classes)]
  | .propertiesMissing className properties =>
    [("class_name", .string className), ("properties", Json.ofList Property.toJson properties)]
  | .methodsMissing className methods =>
    [("class_name", .string className), ("methods", Json.ofList Json.string methods)]
  | .propertyChanged className propertyName oldType newType =>
    [("class_name", .string className), ("property_name", .string propertyName),
      ("old_type", .string oldType), ("new_type", .string newType)]
  | .linksMissing links | .linksAdded links =>
    [("relationships", Json.ofList Link.toJson links)]

/-- The keys of the fields of a kind, the message last. -/
def keysOf : FindingKind → List String
  | .error => ["message"]
  | .classesMissing | .classesAdded => ["classes", "message"]
  | .propertiesMissing => ["class_name", "properties", "message"]
  | .methodsMissing => ["class_name", "methods", "message"]
  | .propertyChanged => ["class_name", "property_name", "old_type", "new_type", "message"]
  | .linksMissing | .linksAdded => ["relationships", "message"]

/-- The finding of a kind that fields describe. -/
def ofFields? (kind : FindingKind) (fields : List (String × Json)) : Option Finding :=
  match kind with
  | .error => some .error
  | .classesMissing =>
    (required fields "classes" (Json.list? Json.string?)).map .classesMissing
  | .classesAdded => (required fields "classes" (Json.list? Json.string?)).map .classesAdded
  | .propertiesMissing => do
    let className ← required fields "class_name" Json.string?
    let properties ← required fields "properties" (Json.list? Property.ofJson?)
    return .propertiesMissing className properties
  | .methodsMissing => do
    let className ← required fields "class_name" Json.string?
    let methods ← required fields "methods" (Json.list? Json.string?)
    return .methodsMissing className methods
  | .propertyChanged => do
    let className ← required fields "class_name" Json.string?
    let propertyName ← required fields "property_name" Json.string?
    let oldType ← required fields "old_type" Json.string?
    let newType ← required fields "new_type" Json.string?
    return .propertyChanged className propertyName oldType newType
  | .linksMissing =>
    (required fields "relationships" (Json.list? Link.ofJson?)).map .linksMissing
  | .linksAdded => (required fields "relationships" (Json.list? Link.ofJson?)).map .linksAdded

end Finding

namespace Difference

/-- A difference as JSON. -/
def toJson (d : Difference) : Json :=
  .object (("type", .string d.kind.name) :: (d.finding.fields ++ [("message", .string d.message)]))

/-- The name of the kind that a value has under `type`, or first in an array, and the rest of the
value. -/
def tagged? : Json → Option (Json × Json)
  | .object members => (Json.lookup? members "type").map fun tag => (tag, .object members)
  | .array (tag :: items) => some (tag, .array items)
  | _ => none

/-- The difference that a value describes. -/
def ofJson? (j : Json) : Option Difference := do
  let (tag, content) ← tagged? j
  let kind ← tag.string?.bind FindingKind.ofName?
  let keys := Finding.keysOf kind
  let fields ← fields? keys keys.length content
  let finding ← Finding.ofFields? kind fields
  let message ← required fields "message" Json.string?
  return ⟨finding, message⟩

end Difference

/-! ## Hints and reports -/

namespace RenameHint

/-- A hint as JSON. -/
def toJson (h : RenameHint) : Json :=
  .object [("missing", .string h.missing), ("added", .string h.added),
    ("similarity", .float h.similarity), ("message", .string h.message)]

/-- The hint that a value describes. -/
def ofJson? (j : Json) : Option RenameHint := do
  let fields ← fields? ["missing", "added", "similarity", "message"] 4 j
  let missing ← required fields "missing" Json.string?
  let added ← required fields "added" Json.string?
  let similarity ← required fields "similarity" Json.number?
  let message ← required fields "message" Json.string?
  return ⟨missing, added, similarity, message⟩

end RenameHint

namespace Report

/-- A report as JSON. -/
def toJson (r : Report) : Json :=
  .object
    ([("identical", .bool r.identical),
      ("differences", Json.ofList Difference.toJson r.differences)] ++
    if r.hints.isEmpty then [] else [("hints", Json.ofList RenameHint.toJson r.hints)])

/-- The report that a value describes. -/
def ofJson? (j : Json) : Option Report := do
  let fields ← fields? ["identical", "differences", "hints"] 2 j
  let identical ← required fields "identical" Json.bool?
  let differences ← required fields "differences" (Json.list? Difference.ofJson?)
  let hints ← defaulted fields "hints" [] (Json.list? RenameHint.ofJson?)
  return ⟨identical, differences, hints⟩

end Report

/-! ## Marked lines -/

namespace MarkedLine

/-- A marked line as JSON. -/
def toJson (line : MarkedLine) : Json :=
  .object
    ([("line_no", .int line.number), ("text", .string line.text)] ++
      ((line.mark.map fun m => ("category", Json.string m.name)).toList ++
        (line.difference.map fun n => ("difference", Json.int n)).toList))

/-- The marked line that a value describes. -/
def ofJson? (j : Json) : Option MarkedLine := do
  let fields ← fields? ["line_no", "text", "category", "difference"] 4 j
  let number ← required fields "line_no" Json.nat?
  let text ← required fields "text" Json.string?
  let mark ← optional fields "category" (Json.word? Mark.ofName?)
  let difference ← optional fields "difference" Json.nat?
  return ⟨number, text, mark, difference⟩

end MarkedLine

end DiagramDiff
