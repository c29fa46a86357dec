import DiagramDiff.Mermaid.Reader
import DiagramDiff.Report

/-!
# Comparing diagrams

A comparison is centred on the reference. Extra classes and links of the candidate are reported,
extra members are not. Findings come in a fixed order: missing and added classes, then class by
class in the order of the reference its missing properties, missing methods and changed types, and
last missing and added links. Nothing is reported twice, and a finding with nothing to list is not
reported at all.
-/

namespace DiagramDiff

/-- The elements of a list without those that are the same as an earlier one. -/
def firstOccurrences {α : Type} (same : α → α → Bool) : List α → List α
  | [] => []
  | a :: rest => a :: (firstOccurrences same rest).filter fun b => !same a b

/-- Leaving out repetitions loses no element. -/
theorem mem_firstOccurrences {α : Type} [BEq α] [LawfulBEq α] {a : α} {l : List α} :
    a ∈ firstOccurrences (· == ·) l ↔ a ∈ l := by
  induction l with
  | nil => simp [firstOccurrences]
  | cons b rest ih =>
    by_cases h : a = b
    · simp [firstOccurrences, h]
    · have other : (b == a) = false := by simpa using fun e => h e.symm
      simp [firstOccurrences, h, ih, other]

/-- The names of classes that a diagram has not, each once. -/
def absentClasses (classes : List ClassNode) (other : Diagram) : List String :=
  firstOccurrences (· == ·) ((classes.map (·.name)).filter fun name => !other.hasClass name)

/-- The links that a diagram has not, each once. -/
def absentLinks (links : List Link) (other : Diagram) : List Link :=
  firstOccurrences Link.sameAs (links.filter fun l => !other.hasLink l)

/-- A finding about a list of things, unless the list is empty. -/
def findingOf {α : Type} (finding : List α → Finding) (things : List α) : List Finding :=
  if things.isEmpty then [] else [finding things]

namespace ClassNode

/-- The properties of a class that the other class has neither as properties nor as methods. -/
def missingProperties (c other : ClassNode) : List Property :=
  c.properties.filter fun p => !other.hasProperty p.name && !other.hasMethod p.name

/-- The methods of a class that the other class has not. -/
def missingMethods (c other : ClassNode) : List String :=
  c.methods.filter fun m => !other.hasMethod m

/-- The finding about a property that the other class has with another type. -/
def changedProperty? (c other : ClassNode) (p : Property) : Option Finding :=
  match other.property? p.name with
  | none => none
  | some q =>
    if q.type = p.type then none else some (.propertyChanged c.name p.name p.type q.type)

/-- The findings about the members of a class. -/
def memberFindings (c other : ClassNode) : List Finding :=
  findingOf (.propertiesMissing c.name) (c.missingProperties other) ++
    (findingOf (.methodsMissing c.name) (c.missingMethods other) ++
      c.properties.filterMap (c.changedProperty? other))

end ClassNode

/-- What a comparison may be told. -/
structure ComparisonOptions where
  /-- Whether rename hints are wanted. -/
  renameHints : Bool
  /-- The least similarity of a rename hint. -/
  minSimilarity : Binary64
  deriving DecidableEq, Repr

namespace ComparisonOptions

/-- The usual threshold, three quarters. -/
def usualSimilarity : Binary64 := Binary64.ofRatio false 3 4

/-- Rename hints at the usual threshold. -/
def usual : ComparisonOptions := ⟨true, usualSimilarity⟩

end ComparisonOptions

namespace Diagram

/-- The first class of each name. -/
def firstClasses (d : Diagram) : List ClassNode :=
  firstOccurrences (fun c c' => c.name == c'.name) d.classes

/-- The findings about the members of the classes that two diagrams share. -/
def sharedFindings (reference candidate : Diagram) : List Finding :=
  reference.firstClasses.flatMap fun c =>
    match candidate.class? c.name with
    | none => []
    | some other => c.memberFindings other

/-- The findings of a comparison. -/
def findings (reference candidate : Diagram) : List Finding :=
  findingOf .classesMissing (absentClasses reference.classes candidate) ++
    (findingOf .classesAdded (absentClasses candidate.classes reference) ++
      (sharedFindings reference candidate ++
        (findingOf .linksMissing (absentLinks reference.links candidate) ++
          findingOf .linksAdded (absentLinks candidate.links reference))))

/-- The rename hints of a comparison. -/
def hints (options : ComparisonOptions) (reference candidate : Diagram) : List RenameHint :=
  if options.renameHints then
    DiagramDiff.renameHints options.minSimilarity (absentClasses reference.classes candidate)
      (absentClasses candidate.classes reference)
  else []

/-- The report on a candidate diagram. -/
def compare (options : ComparisonOptions) (reference candidate : Diagram) : Report :=
  { Report.ofDifferences ((findings reference candidate).map Finding.difference) with
    hints := hints options reference candidate }

end Diagram

/-- The report on a candidate text. A blank text on either side is refused, and texts that agree
once trimmed are identical without being read, also where they hold no diagram. -/
def compareTexts (options : ComparisonOptions) (reference candidate : String) : Report :=
  let r := Text.trim reference.toList
  let c := Text.trim candidate.toList
  if r.isEmpty || c.isEmpty then Report.blank
  else if r = c then Report.same
  else Diagram.compare options (Diagram.ofChars r) (Diagram.ofChars c)

end DiagramDiff
