/-!
# Command line arguments

An argument list is a sequence of items in any order: flags, two options that take the argument
after them as their value, and positional inputs. Every flag and option may occur once. A list is
accepted if it asks for the schema and names no inputs, or names a reference and at least one
candidate, of which at most one is read from standard input.
-/

namespace DiagramDiff.CommandLine

/-! ## Items -/

/-- A flag. -/
inductive Flag where
  /-- Print JSON. -/
  | json
  /-- Leave out the listing. -/
  | noHighlight
  /-- Leave out colour. -/
  | noColor
  /-- Tell by the exit code whether a candidate differs. -/
  | check
  /-- Print the schema of a report. -/
  | schema
  deriving DecidableEq, Repr

namespace Flag

/-- How a flag is written. -/
def word : Flag → String
  | .json => "--json"
  | .noHighlight => "--no-highlight"
  | .noColor => "--no-color"
  | .check => "--check"
  | .schema => "--schema"

/-- Every flag. -/
def all : List Flag := [.json, .noHighlight, .noColor, .check, .schema]

/-- The flag that an argument writes. -/
def ofWord? (s : String) : Option Flag := all.find? (·.word == s)

end Flag

/-- The option that names a settings file. -/
def settingsWord : String := "--config"

/-- The option that sets the level of log records. -/
def levelWord : String := "--log-level"

/-- The levels of log records. -/
def levels : List String := ["off", "error", "warn", "info", "debug", "trace"]

/-- Whether a text names a level of log records, in any letter case. -/
def isLevel (s : String) : Bool := levels.any fun level => level.toList == s.toList.map Char.toLower

/-- The argument that stands for standard input. -/
def standardInput : String := "-"

/-- Whether an argument is an input: standard input, or a text that does not begin with a dash. -/
def isInput (s : String) : Bool := s == standardInput || s.toList.head? != some '-'

/-! ## Argument lists -/

/-- What a list of arguments asks for. -/
structure Arguments where
  /-- Whether JSON is asked for. -/
  json : Bool := false
  /-- Whether the listing is left out. -/
  noHighlight : Bool := false
  /-- Whether colour is left out. -/
  noColor : Bool := false
  /-- Whether the exit code tells of differences. -/
  check : Bool := false
  /-- Whether the schema is asked for. -/
  schema : Bool := false
  /-- The settings file. -/
  settings : Option String := none
  /-- The level of log records. -/
  level : Option String := none
  /-- The inputs: the reference and then the candidates. -/
  inputs : List String := []
  deriving DecidableEq, Repr

namespace Arguments

/-- Whether a flag is set. -/
def has (a : Arguments) : Flag → Bool
  | .json => a.json
  | .noHighlight => a.noHighlight
  | .noColor => a.noColor
  | .check => a.check
  | .schema => a.schema

/-- The arguments with a flag set. -/
def set (a : Arguments) : Flag → Arguments
  | .json => { a with json := true }
  | .noHighlight => { a with noHighlight := true }
  | .noColor => { a with noColor := true }
  | .check => { a with check := true }
  | .schema => { a with schema := true }

/-- The arguments extended by a list of items. -/
def extend? (a : Arguments) : List String → Option Arguments
  | [] => some a
  | item :: rest =>
    match Flag.ofWord? item with
    | some flag => if a.has flag then none else (a.set flag).extend? rest
    | none =>
      if item = settingsWord then
        match rest with
        | [] => none
        | value :: rest =>
          if a.settings.isSome then none else { a with settings := some value }.extend? rest
      else if item = levelWord then
        match rest with
        | [] => none
        | value :: rest =>
          if a.level.isSome || !isLevel value then none
          else { a with level := some value }.extend? rest
      else if isInput item then { a with inputs := a.inputs ++ [item] }.extend? rest
      else none

/-- Whether the inputs are as they should be. -/
def accepted (a : Arguments) : Bool :=
  if a.schema then a.inputs.isEmpty
  else decide (2 ≤ a.inputs.length ∧ a.inputs.count standardInput ≤ 1)

/-- What a list of arguments asks for, if it is well formed. -/
def ofList? (items : List String) : Option Arguments :=
  ((({} : Arguments).extend? items)).filter accepted

/-- The reference. -/
def reference? (a : Arguments) : Option String := a.inputs.head?

/-- The candidates. -/
def candidates (a : Arguments) : List String := a.inputs.tail

end Arguments

end DiagramDiff.CommandLine
