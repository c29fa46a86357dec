import DiagramDiff.Binary64.Basic

/-!
# JSON values

The members of an object are a list, because their order shows in what is printed. Integers and
floating point numbers are apart, because a document tells `1` from `1.0`.
-/

namespace DiagramDiff

/-- A JSON value. -/
inductive Json where
  /-- The value `null`. -/
  | null
  /-- A truth value. -/
  | bool (b : Bool)
  /-- A number written without fraction and exponent. -/
  | int (i : Int)
  /-- A number with a fraction or an exponent. -/
  | float (x : Binary64)
  /-- A string. -/
  | string (s : String)
  /-- An array. -/
  | array (items : List Json)
  /-- An object. -/
  | object (members : List (String × Json))
  deriving Repr, Inhabited

namespace Json

/-- The members of an object without those whose name comes again, so that the last one of each
name remains. -/
def lastOfEach : List (String × Json) → List (String × Json)
  | [] => []
  | (key, j) :: rest =>
    if rest.any (·.1 == key) then lastOfEach rest else (key, j) :: lastOfEach rest

/-- The value that the last member of a name has. -/
def lookup? (members : List (String × Json)) (key : String) : Option Json :=
  (members.reverse.find? (·.1 == key)).map (·.2)

/-- The value of a member of an object. -/
def member? (j : Json) (key : String) : Option Json :=
  match j with
  | .object members => lookup? members key
  | _ => none

mutual

/-- How deep arrays and objects are nested in a value. -/
def depth : Json → Nat
  | .array items => itemsDepth items + 1
  | .object members => membersDepth members + 1
  | _ => 0

/-- How deep arrays and objects are nested in the items of an array. -/
def itemsDepth : List Json → Nat
  | [] => 0
  | j :: rest => max j.depth (itemsDepth rest)

/-- How deep arrays and objects are nested in the members of an object. -/
def membersDepth : List (String × Json) → Nat
  | [] => 0
  | (_, j) :: rest => max j.depth (membersDepth rest)

end

end Json

end DiagramDiff
