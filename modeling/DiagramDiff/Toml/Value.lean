import DiagramDiff.Binary64.Basic

/-!
# TOML documents

A document is a table. While it is read, every table remembers how it came about, because that
decides who may add to it: a table with a header of its own is complete with its section, a table
that only a longer header implies may still get a header, a table made by a dotted key may only
grow by dotted keys, and an inline table is closed.
-/

namespace DiagramDiff.Toml

/-- How a table came about. -/
inductive Origin where
  /-- By a header of its own, or as the document itself. -/
  | header
  /-- As a step of a longer header. -/
  | implied
  /-- As a step of a dotted key. -/
  | dotted
  /-- By an inline table. -/
  | inline
  deriving DecidableEq, Repr

/-- A TOML value. -/
inductive Value where
  /-- A string. -/
  | string (s : String)
  /-- An integer, of any size. -/
  | integer (i : Int)
  /-- A floating point number. -/
  | float (x : Binary64)
  /-- What passes for a number but has no value: a decimal beyond the range of the floating point
  numbers, or digits that are missing or not of their base. -/
  | unvalued
  /-- A truth value. -/
  | bool (b : Bool)
  /-- A date, a time or both, as it is written. -/
  | moment (s : String)
  /-- An array. -/
  | array (items : List Value)
  /-- A table. -/
  | table (origin : Origin) (entries : List (String × Value))
  /-- An array of tables, which headers in double brackets make. -/
  | tables (items : List (List (String × Value)))
  deriving Repr, Inhabited

/-- The entries of a table. -/
abbrev Entries := List (String × Value)

/-- The entries with the value of a key replaced. -/
def replaceEntry (entries : Entries) (key : String) (value : Value) : Entries :=
  entries.map fun (k, v) => if k = key then (k, value) else (k, v)

/-! ## Growing a document -/

/-- The entries after a change to the table at the end of a path. Tables that the path lacks are
made on the way, dotted or implied; the change is told the origin of the table it is for. An array
of tables is entered through its last table. -/
def changeAt (dotted : Bool) (change : Origin → Entries → Option Entries) :
    (path : List String) → Origin → Entries → Option Entries
  | [], origin, entries => change origin entries
  | key :: path, _, entries =>
    match entries.lookup key with
    | none =>
      let origin := if dotted then Origin.dotted else .implied
      (changeAt dotted change path origin []).map fun inner =>
        entries ++ [(key, .table origin inner)]
    | some (.table origin inner) =>
      if origin = .inline ∨ (dotted ∧ origin = .header) then none
      else
        (changeAt dotted change path origin inner).map fun inner =>
          replaceEntry entries key (.table origin inner)
    | some (.tables items) =>
      match items.getLast? with
      | none => none
      | some inner =>
        (changeAt dotted change path .header inner).map fun inner =>
          replaceEntry entries key (.tables (items.dropLast ++ [inner]))
    | some _ => none

/-- The entries with one more pair. The key has to be new, and a table made by dotted keys grows
by dotted keys only, as other tables grow by plain ones. -/
def addPair (dotted : Bool) (key : String) (value : Value) (origin : Origin) (entries : Entries) :
    Option Entries :=
  if (origin = .dotted) ≠ (dotted = true) ∨ (entries.lookup key).isSome then none
  else some (entries ++ [(key, value)])

/-- The entries after a pair with a possibly dotted key, whose last part is given apart. -/
def assign (path : List String) (key : String) (value : Value) (origin : Origin)
    (entries : Entries) : Option Entries :=
  changeAt true (addPair (!path.isEmpty) key value) path origin entries

/-- The entries after a table header at their level. -/
def openTable (key : String) (_origin : Origin) (entries : Entries) : Option Entries :=
  match entries.lookup key with
  | none => some (entries ++ [(key, .table .header [])])
  | some (.table .implied inner) => some (replaceEntry entries key (.table .header inner))
  | some _ => none

/-- The entries after a header in double brackets at their level. -/
def openTables (key : String) (_origin : Origin) (entries : Entries) : Option Entries :=
  match entries.lookup key with
  | none => some (entries ++ [(key, .tables [[]])])
  | some (.tables items) => some (replaceEntry entries key (.tables (items ++ [[]])))
  | some _ => none

end DiagramDiff.Toml
