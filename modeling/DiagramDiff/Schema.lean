import DiagramDiff.Json.Basic

/-!
# The schema of a report

The JSON schema that describes a report as it is printed. The fields of an object are listed by
name, the required ones in the order in which they are printed.
-/

namespace DiagramDiff.Schema

/-! ## Building blocks -/

/-- The schema of a value of a named basic type. -/
def ofType (type : String) : Json := .object [("type", .string type)]

/-- The schema of a text. -/
def text : Json := ofType "string"

/-- The schema of an array. -/
def arrayOf (items : Json) : Json := .object [("type", .string "array"), ("items", items)]

/-- The schema of a value that is defined under a name. -/
def defined (name : String) : Json := .object [("$ref", .string ("#/$defs/" ++ name))]

/-- The members that describe an object with the given fields, all of them or some required. -/
def objectMembers (fields : List (String × Json)) (required : List String) :
    List (String × Json) :=
  [("type", .string "object"), ("properties", .object fields),
    ("required", .array (required.map .string))]

/-- The schema of an object. -/
def record (fields : List (String × Json)) (required : List String) : Json :=
  .object (objectMembers fields required)

/-- The schema of a difference of a kind, whose fields before `type` and after it are given. -/
def difference (kind : String) (before after : List (String × Json)) (required : List String) :
    Json :=
  record
    (before ++ ("type", .object [("type", .string "string"), ("const", .string kind)]) :: after)
    ("type" :: required)

/-! ## Definitions -/

/-- The schemas of the eight kinds of differences. -/
def differences : List Json :=
  let message := ("message", text)
  let className := ("class_name", text)
  let classes := ("classes", arrayOf text)
  let relationships := ("relationships", arrayOf (defined "Relationship"))
  [difference "error" [message] [] ["message"],
    difference "classes_missing" [classes, message] [] ["classes", "message"],
    difference "classes_added" [classes, message] [] ["classes", "message"],
    difference "properties_missing"
      [className, message, ("properties", arrayOf (defined "Property"))] []
      ["class_name", "properties", "message"],
    difference "methods_missing" [className, message, ("methods", arrayOf text)] []
      ["class_name", "methods", "message"],
    difference "property_changed"
      [className, message, ("new_type", text), ("old_type", text), ("property_name", text)] []
      ["class_name", "property_name", "old_type", "new_type", "message"],
    difference "relationships_missing" [message, relationships] [] ["relationships", "message"],
    difference "relationships_added" [message, relationships] [] ["relationships", "message"]]

/-- The description of a difference. -/
def differenceText : String :=
  "One classified discrepancy between reference and candidate.\n\n" ++
    "Each variant carries a ready-to-display `message` plus the names a caller needs to find " ++
    "the\naffected lines in the candidate source."

/-- The schemas that others refer to by name. -/
def definitions : Json :=
  .object
    [("Difference",
        .object [("description", .string differenceText), ("oneOf", .array differences)]),
      ("Property", record [("name", text), ("type", text)] ["name", "type"]),
      ("Relationship",
        record
          [("from", text),
            ("label", .object [("type", .string "string"), ("default", .string "")]),
            ("to", text), ("type", text)]
          ["from", "to", "type"]),
      ("RenameHint",
        .object
          (("description",
              .string
                "A candidate class that is probably a misspelling of a missing reference class.") ::
            objectMembers
              [("added", text), ("message", text), ("missing", text),
                ("similarity",
                  .object
                    [("description", .string "Normalized similarity in `0.0..=1.0`."),
                      ("type", .string "number"), ("format", .string "double")])]
              ["missing", "added", "similarity", "message"]))]

/-- The schema of a report. -/
def report : Json :=
  .object
    ([("$schema", .string "https://json-schema.org/draft/2020-12/schema"),
      ("title", .string "DiffReport")] ++
      (objectMembers
        [("differences", arrayOf (defined "Difference")),
          ("hints", arrayOf (defined "RenameHint")), ("identical", ofType "boolean")]
        ["identical", "differences"] ++
        [("$defs", definitions)]))

end DiagramDiff.Schema
