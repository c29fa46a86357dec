import DiagramDiff.Comparison
import DiagramDiff.Decimal.Layout
import DiagramDiff.Failure
import DiagramDiff.Toml.Reader

/-!
# Settings

Settings say how results are printed and which rename hints are given. They come from a TOML
document in which every key is optional and no other key is allowed. A section may also be an
array that lists its settings in their order, of which the missing ones keep their defaults.

The threshold of the hints has to lie between zero and one. That is judged last, when the whole
document has been read.
-/

namespace DiagramDiff

/-- The form in which results are printed. -/
inductive OutputFormat where
  /-- Text for readers. -/
  | text
  /-- One JSON object a line. -/
  | json
  deriving DecidableEq, Repr

namespace OutputFormat

/-- The name of a format. -/
def name : OutputFormat → String
  | .text => "text"
  | .json => "json"

/-- The format of a name. -/
def ofName? (s : String) : Option OutputFormat := [text, json].find? (·.name == s)

end OutputFormat

/-- The settings of the output. -/
structure OutputSettings where
  /-- The form of the output. -/
  format : OutputFormat := .text
  /-- Whether the listing of a candidate follows its report. -/
  highlight : Bool := true
  /-- Whether colour may be used. -/
  color : Bool := true
  deriving DecidableEq, Repr

/-- The settings of the rename hints. -/
structure HintSettings where
  /-- Whether hints are given. -/
  enabled : Bool := true
  /-- The least similarity of a hint. -/
  minSimilarity : Binary64 := ComparisonOptions.usualSimilarity
  deriving DecidableEq, Repr

/-- All settings. -/
structure Settings where
  /-- How results are printed. -/
  output : OutputSettings := {}
  /-- Which hints are given. -/
  hints : HintSettings := {}
  deriving DecidableEq, Repr

namespace Settings

open Toml (Value Entries)

/-! ## Values -/

/-- The truth value that a value is. -/
def bool? : Value → Option Bool
  | .bool b => some b
  | _ => none

/-- The number that a value is, as long as an integer has at most 64 bits. -/
def number? : Value → Option Binary64
  | .float x => some x
  | .integer i =>
    if -(Binary64.pow2 63 : Int) ≤ i ∧ i < (Binary64.pow2 64 : Int) then some (Binary64.ofInt i)
    else none
  | _ => none

/-- Whether a value has nothing in it. -/
def isEmptyValue : Value → Bool
  | .array [] => true
  | .table _ [] => true
  | _ => false

/-- The format that a value names, as a string or as the only key of a table with nothing beside
it. -/
def format? : Value → Option OutputFormat
  | .string s => OutputFormat.ofName? s
  | .table _ [(s, v)] => if isEmptyValue v then OutputFormat.ofName? s else none
  | _ => none

/-! ## Sections -/

/-- The entries of a section with the given keys: those of a table, which may have no other keys,
or the items of an array in the order of the keys. -/
def sectionEntries? (keys : List String) : Value → Option Entries
  | .table _ entries => if entries.all (keys.contains ·.1) then some entries else none
  | .array items => some (keys.zip items)
  | .tables items => some (keys.zip (items.map (Value.table .header)))
  | _ => none

/-- A setting, or its default when it is absent. -/
def setting {α : Type} (entries : Entries) (key : String) (default : α)
    (decode : Value → Option α) : Option α :=
  match entries.lookup key with
  | none => some default
  | some v => decode v

/-- The output settings that a section holds. -/
def outputSettings? (v : Value) : Option OutputSettings := do
  let usual : OutputSettings := {}
  let entries ← sectionEntries? ["format", "highlight", "color"] v
  let format ← setting entries "format" usual.format format?
  let highlight ← setting entries "highlight" usual.highlight bool?
  let color ← setting entries "color" usual.color bool?
  return ⟨format, highlight, color⟩

/-- The hint settings that a section holds. -/
def hintSettings? (v : Value) : Option HintSettings := do
  let usual : HintSettings := {}
  let entries ← sectionEntries? ["enabled", "min_similarity"] v
  let enabled ← setting entries "enabled" usual.enabled bool?
  let minSimilarity ← setting entries "min_similarity" usual.minSimilarity number?
  return ⟨enabled, minSimilarity⟩

/-- The settings that a document holds, whatever the threshold. -/
def ofEntries? (entries : Entries) : Option Settings := do
  let usual : Settings := {}
  let sections ← sectionEntries? ["output", "hints"] (.table .header entries)
  let output ← setting sections "output" usual.output outputSettings?
  let hints ← setting sections "hints" usual.hints hintSettings?
  return ⟨output, hints⟩

/-! ## Documents -/

/-- Whether a threshold lies between zero and one. -/
def isThreshold (x : Binary64) : Bool := Binary64.zero.le x && x.le Binary64.one

/-- The complaint about a threshold. -/
def thresholdMessage (x : Binary64) : String :=
  "hints.min_similarity must be within 0.0..=1.0, got " ++
    Decimal.text Decimal.messageLayout x

/-- The settings that a TOML text holds. -/
def ofText (text : String) : Except Failure Settings :=
  match (Toml.ofText? text).bind ofEntries? with
  | none => .error (.malformedSettings "not a settings document")
  | some settings =>
    if isThreshold settings.hints.minSimilarity then .ok settings
    else .error (.invalidSettings (thresholdMessage settings.hints.minSimilarity))

/-- What a comparison is told by settings. -/
def comparisonOptions (s : Settings) : ComparisonOptions :=
  ⟨s.hints.enabled, s.hints.minSimilarity⟩

/-- Accepted settings have a threshold between zero and one. -/
theorem isThreshold_of_ofText {text : String} {s : Settings} (h : ofText text = .ok s) :
    isThreshold s.hints.minSimilarity = true := by
  unfold ofText at h
  split at h
  · contradiction
  · split at h
    · cases h
      assumption
    · contradiction

end Settings

end DiagramDiff
