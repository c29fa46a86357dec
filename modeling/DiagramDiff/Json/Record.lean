import DiagramDiff.Json.Basic

/-!
# Records in JSON

A record is written as an object whose keys are the names of its fields. It is read from an
object, where unknown keys are ignored, or from an array that lists the fields in their order. A
decoder answers nothing when the value has the wrong form; there are no conversions between forms,
except that an integer may stand for a floating point number.
-/

namespace DiagramDiff.Json

/-! ## Values of one form -/

/-- The string that a value is. -/
def string? : Json → Option String
  | .string s => some s
  | _ => none

/-- The truth value that a value is. -/
def bool? : Json → Option Bool
  | .bool b => some b
  | _ => none

/-- The natural number that a value is. -/
def nat? : Json → Option Nat
  | .int (.ofNat n) => some n
  | _ => none

/-- The floating point number that a number is or is nearest to. -/
def number? : Json → Option Binary64
  | .int i => some (Binary64.ofInt i)
  | .float x => some x
  | _ => none

/-- The list that an array is, each item read by a decoder. -/
def list? {α : Type} (decode : Json → Option α) : Json → Option (List α)
  | .array items => items.mapM decode
  | _ => none

/-- A list as an array. -/
def ofList {α : Type} (encode : α → Json) (items : List α) : Json := .array (items.map encode)

/-- The value that a word of a fixed vocabulary names; the word may also be the only key of an
object, with `null` beside it. -/
def word? {α : Type} (ofName? : String → Option α) : Json → Option α
  | .string s => ofName? s
  | .object members =>
    match lastOfEach members with
    | [(s, .null)] => ofName? s
    | _ => none
  | _ => none

/-! ## Fields -/

/-- The fields of a record with the given keys, of which at least `least` are present if they are
listed in an array. -/
def fields? (keys : List String) (least : Nat) : Json → Option (List (String × Json))
  | .object members => some members
  | .array items =>
    if least ≤ items.length ∧ items.length ≤ keys.length then some (keys.zip items) else none
  | _ => none

/-- A field that has to be present. -/
def required {α : Type} (fields : List (String × Json)) (key : String)
    (decode : Json → Option α) : Option α :=
  (lookup? fields key).bind decode

/-- A field that stands for a default when it is absent. -/
def defaulted {α : Type} (fields : List (String × Json)) (key : String) (default : α)
    (decode : Json → Option α) : Option α :=
  match lookup? fields key with
  | none => some default
  | some j => decode j

/-- A field that may be absent or `null`. -/
def optional {α : Type} (fields : List (String × Json)) (key : String)
    (decode : Json → Option α) : Option (Option α) :=
  match lookup? fields key with
  | none => some none
  | some .null => some none
  | some j => (decode j).map some

end DiagramDiff.Json
