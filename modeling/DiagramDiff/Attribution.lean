import DiagramDiff.Report
import DiagramDiff.Text.Basic

/-!
# Attribution of lines

Each line of a candidate text is attributed to the first difference of a report that it matches.
Matching is textual: a line matches a difference when it contains the names that the difference
carries. Lines of a class body rarely repeat the name of the class, so a changed property is also
matched by its name alone in the *scope* of its class: from the line that opens the body up to the
next line with a closing brace.
-/

namespace DiagramDiff

open Text

/-! ## Marks -/

/-- How a line is marked. -/
inductive Mark where
  /-- The candidate should contain something near the line. -/
  | missing
  /-- The line holds something that should not be there, or is wrong. -/
  | unexpected
  deriving DecidableEq, Repr

namespace Mark

/-- The name of a mark. -/
def name : Mark → String
  | .missing => "missing"
  | .unexpected => "unexpected"

/-- The character that shows the mark beside a line. -/
def gutter : Mark → Char
  | .missing => '?'
  | .unexpected => '!'

/-- The mark of a name. -/
def ofName? (s : String) : Option Mark := [missing, unexpected].find? (·.name == s)

/-- The mark for findings of a kind. -/
def ofKind (k : FindingKind) : Mark := if k.isMissing then missing else unexpected

/-- A mark is read back from its name. -/
@[simp] theorem ofName?_name (m : Mark) : ofName? m.name = some m := by
  cases m <;> decide

end Mark

/-- A line of a candidate with what it is attributed to. -/
structure MarkedLine where
  /-- The number of the line, counted from one. -/
  number : Nat
  /-- The text of the line. -/
  text : String
  /-- The mark, if the line is attributed to a difference. -/
  mark : Option Mark
  /-- The position of the difference in its report. -/
  difference : Option Nat
  deriving DecidableEq, Repr

/-! ## Matching -/

/-- Whether a line contains a name. -/
def mentions (line : List Char) (name : String) : Bool := occursIn name.toList line

/-- Whether a line matches a finding, in the scope of a class or of none. -/
def Finding.matchesLine (line : List Char) (scope : Option (List Char)) : Finding → Bool
  | .error => false
  | .classesMissing classes | .classesAdded classes => classes.any (mentions line)
  | .propertiesMissing className _ | .methodsMissing className _ => mentions line className
  | .propertyChanged className propertyName _ _ =>
    mentions line propertyName && (mentions line className || scope == some className.toList)
  | .linksMissing links | .linksAdded links =>
    links.any fun l => mentions line l.source && mentions line l.target

/-! ## Scopes -/

/-- The name of the class whose body a line opens and does not close. -/
def openedClass? (line : List Char) : Option (List Char) :=
  match "class".toList.isPrefixOf? (trimStart line) with
  | none => none
  | some rest =>
    if rest.head?.any isBlank then
      match rest.dropWhile (· != '{') with
      | [] => none
      | _ :: body =>
        if body.contains '}' then none
        else
          let name := trim ((rest.takeWhile (· != '{')).takeWhile (· != '~'))
          if name.isEmpty then none else some name
    else none

/-- The scope that a line of an enclosing scope has itself. -/
def lineScope (enclosing : Option (List Char)) (line : List Char) : Option (List Char) :=
  (openedClass? line).or enclosing

/-- The scope that encloses the line after a line. -/
def scopeAfter (enclosing : Option (List Char)) (line : List Char) : Option (List Char) :=
  match openedClass? line with
  | some name => some name
  | none => if line.contains '}' then none else enclosing

/-- Every line with its scope, from an enclosing scope on. -/
def scopesFrom (enclosing : Option (List Char)) :
    List (List Char) → List (List Char × Option (List Char))
  | [] => []
  | line :: rest => (line, lineScope enclosing line) :: scopesFrom (scopeAfter enclosing line) rest

/-- Giving lines their scopes keeps the lines. -/
@[simp] theorem map_fst_scopesFrom (enclosing : Option (List Char)) (lines : List (List Char)) :
    (scopesFrom enclosing lines).map (·.1) = lines := by
  induction lines generalizing enclosing with
  | nil => rfl
  | cons line rest ih => simp [scopesFrom, ih]

/-! ## Attribution -/

/-- The first difference that a line matches, with its position. -/
def Report.firstMatch? (r : Report) (line : List Char) (scope : Option (List Char)) :
    Option (Difference × Nat) :=
  r.differences.zipIdx.find? fun (d, _) => d.finding.matchesLine line scope

/-- A line with what a report attributes it to. -/
def Report.markLine (r : Report) (number : Nat) (line : List Char) (scope : Option (List Char)) :
    MarkedLine :=
  let first := r.firstMatch? line scope
  { number := number
    text := String.ofList line
    mark := first.map fun (d, _) => Mark.ofKind d.kind
    difference := first.map (·.2) }

/-- The lines of a candidate text with what a report attributes them to. -/
def Report.markLines (r : Report) (candidate : String) : List MarkedLine :=
  ((scopesFrom none (visibleLines candidate.toList)).zipIdx 1).map
    fun ((line, scope), number) => r.markLine number line scope

end DiagramDiff
