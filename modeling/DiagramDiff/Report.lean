import DiagramDiff.Finding
import DiagramDiff.RenameHint

/-!
# Reports

A report is the result of a comparison: the verdict, the differences in a fixed order and the
rename hints.
-/

namespace DiagramDiff

/-- The result of a comparison. -/
structure Report where
  /-- Whether nothing differs. -/
  identical : Bool
  /-- The differences, in the order in which they are reported. -/
  differences : List Difference
  /-- The rename hints. -/
  hints : List RenameHint
  deriving DecidableEq, Repr

namespace Report

/-- The report on two texts that say the same. -/
def same : Report := ⟨true, [], []⟩

/-- The report that lists differences and no hints. -/
def ofDifferences (differences : List Difference) : Report :=
  ⟨differences.isEmpty, differences, []⟩

/-- The report on a comparison with a blank text. -/
def blank : Report := ⟨false, [Finding.error.difference], []⟩

/-- The messages of the differences. -/
def messages (r : Report) : List String := r.differences.map (·.message)

end Report

end DiagramDiff
