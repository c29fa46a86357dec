import DiagramDiff.Proofs.Attribution.MemberPlaces
import DiagramDiff.Proofs.Attribution.OpenedBodies
import DiagramDiff.Proofs.Attribution.Scopes
import DiagramDiff.Proofs.Comparison.FindingOrigins

/-!
# Changed properties and their lines

A changed property is told with the name of its class, which the line of the property rarely
repeats. The line is attributed to it because it lies in the scope of the class. Scopes are kept
line by line, while classes are read from the text as a whole, so the two have to agree on where a
body begins and ends.

They agree where the declaration is plainly laid out (`MemberPlace.IsPlain`): it is the first thing
on its line, with the brace on the same line, and up to the line of the property there is no line
with a closing brace and none that looks like another header. There the property is matched
(`MemberPlace.IsPlain.exists_matchesLine`), and some line is attributed to the difference or to an
earlier one (`propertyChanged_located`). A brace on a line of its own is read as the beginning of a
body, but opens no scope (`propertyChanged_lost`).
-/

namespace DiagramDiff

open Text Mermaid

/-! ## Plain places -/

/-- A declaration that is laid out so that its lines, one by one, tell that a property of it is one
of its class. -/
structure Mermaid.MemberPlace.IsPlain {text : List Char} {className : String} {p : Property}
    (place : MemberPlace text className p) (lines : List (List Char)) : Prop where
  /-- The declaration is the first thing on its line. -/
  leads : IsWhite (lastLine place.before)
  /-- The brace that opens the body stands on the same line. -/
  braced : '\n' ∉ place.head
  /-- From there to the line of the property no closing brace is seen. -/
  unclosed : ∀ i, place.headerNumber ≤ i → i < place.number → ∀ line ∈ lines[i]?, '}' ∉ line
  /-- No line after the declaration, the line of the property included, looks like a header. -/
  alone : ∀ i, place.headerNumber < i → i ≤ place.number → ∀ line ∈ lines[i]?,
    openedClass? line = none
  /-- The name of the property is written in one piece. -/
  unbroken : p.name.toList <:+: place.line

namespace Mermaid.MemberPlace.IsPlain

section plain

variable {candidate : List Char} {className : String} {p : Property}
  {place : MemberPlace (shownText candidate) className p}

/-- The line of a plain declaration names the class. -/
theorem className_infix (plain : place.IsPlain (visibleLines candidate)) (first : place.index = 0)
    {seen : List Char} (here : (visibleLines candidate)[place.number]? = some seen) :
    className.toList <:+: seen := by
  obtain ⟨line, there, begins⟩ := place.exists_header_line plain.braced
  have inside : className.toList <:+: line :=
    (place.isHeader.name_infix.trans ((List.prefix_append _ _).isInfix.trans
      (List.suffix_append _ _).isInfix)).trans begins.isInfix
  obtain ⟨again, same, named⟩ := exists_seen_of_word place.isHeader.isName there inside
  have number : place.number = place.headerNumber := by
    rw [place.number_eq plain.braced, first, Nat.add_zero]
  rw [number, same] at here
  exact Option.some.inj here ▸ named

/-- The line after that of a plain declaration is in the scope of its class. -/
theorem scopeBefore_header (plain : place.IsPlain (visibleLines candidate))
    (later : place.index ≠ 0) :
    scopeBefore (visibleLines candidate) (place.headerNumber + 1) = some className.toList := by
  obtain ⟨line, here, begins⟩ := place.exists_header_line plain.braced
  rw [← List.append_assoc] at begins
  obtain ⟨seen, there, front⟩ := exists_seen_of_shown (by decide) here begins
  rw [List.append_assoc] at front
  have closes : '}' ∉ seen := by
    refine plain.unclosed place.headerNumber (Nat.le_refl _) ?_ seen there
    rw [place.number_eq plain.braced]
    omega
  have opens := openedClass?_of_isHeader place.isHeader plain.leads front closes
  exact scopeBefore_of_opens there opens

/-- The line of the property is in the scope of the class, unless it is that of the declaration. -/
theorem lineScope_member (plain : place.IsPlain (visibleLines candidate))
    (later : place.index ≠ 0) {seen : List Char}
    (here : (visibleLines candidate)[place.number]? = some seen) :
    lineScope (scopeBefore (visibleLines candidate) place.number) seen =
      some className.toList := by
  have number := place.number_eq plain.braced
  have after : place.headerNumber + 1 ≤ place.number := by omega
  have opens : openedClass? seen = none := plain.alone _ after (Nat.le_refl _) seen here
  obtain ⟨present, -⟩ := List.getElem?_eq_some_iff.mp here
  rw [lineScope_of_not_opens opens]
  refine scopeBefore_of_stays after (plain.scopeBefore_header later) (Nat.le_of_lt present) ?_
  intro i first last line hl
  exact ⟨plain.unclosed i (Nat.le_of_lt first) last line hl,
    plain.alone i first (Nat.le_of_lt last) line hl⟩

/-- A change of a property is matched by the line on which the property is plainly declared. -/
theorem exists_matchesLine (plain : place.IsPlain (visibleLines candidate))
    (oldType newType : String) :
    ∃ line ∈ scopesFrom none (visibleLines candidate),
      (Finding.propertyChanged className p.name oldType newType).matchesLine line.1 line.2 =
        true := by
  obtain ⟨line, there, inside⟩ := place.exists_member_line
  have own : p.name.toList <:+: line := plain.unbroken.trans inside
  obtain ⟨seen, here, named⟩ := exists_seen_of_word place.isName there own
  have inScope := getElem?_scopesFrom (visibleLines candidate) place.number
  rw [here, Option.map_some] at inScope
  refine ⟨_, List.mem_of_getElem? inScope, ?_⟩
  simp only [Finding.matchesLine, mentions, Bool.and_eq_true, Bool.or_eq_true, beq_iff_eq,
    occursIn_iff]
  refine ⟨named, ?_⟩
  -- The line of the declaration names the class; below it the class is the scope.
  by_cases first : place.index = 0
  · exact .inl (plain.className_infix first here)
  · exact .inr (plain.lineScope_member first here)

end plain

end Mermaid.MemberPlace.IsPlain

/-! ## Changed properties -/

section changed

variable {className propertyName oldType newType : String}

/-- What a comparison of texts finds changed has a place in the candidate. -/
theorem exists_memberPlace_of_propertyChanged {options : ComparisonOptions}
    {reference candidate : String} {d : Difference}
    (listed : d ∈ (compareTexts options reference candidate).differences)
    (changed : d.finding = .propertyChanged className propertyName oldType newType) :
    Nonempty (MemberPlace (shownText candidate.toList) className ⟨propertyName, newType⟩) := by
  have told : d.kind ≠ .error := by
    unfold Difference.kind
    rw [changed]
    nofun
  have found := mem_findings_of_mem_compareTexts listed told
  rw [changed] at found
  obtain ⟨c, shared, own⟩ := Diagram.exists_property?_of_mem_findings found
  obtain rfl : c.name = className := by simpa using List.find?_some shared
  exact exists_memberPlace_of_mem_classes (List.mem_of_find?_eq_some shared)
    (List.mem_of_find?_eq_some own)

/-- To a changed property there is a place in the candidate. If one is plainly laid out, some line
of the candidate matches the difference in its scope, and some line is attributed to it or to an
earlier difference. -/
theorem propertyChanged_located {options : ComparisonOptions} {reference candidate : String}
    {i : Nat} {d : Difference}
    (listed : (compareTexts options reference candidate).differences[i]? = some d)
    (changed : d.finding = .propertyChanged className propertyName oldType newType) :
    Nonempty (MemberPlace (shownText candidate.toList) className ⟨propertyName, newType⟩) ∧
      ∀ type (place : MemberPlace (shownText candidate.toList) className ⟨propertyName, type⟩),
        place.IsPlain (visibleLines candidate.toList) →
          (∃ line ∈ scopesFrom none (visibleLines candidate.toList),
            d.finding.matchesLine line.1 line.2 = true) ∧
          ∃ marked ∈ (compareTexts options reference candidate).markLines candidate,
            ∃ j ≤ i, marked.difference = some j := by
  refine ⟨exists_memberPlace_of_propertyChanged (List.mem_of_getElem? listed) changed, ?_⟩
  intro type place plain
  obtain ⟨⟨line, scope⟩, inScope, matched⟩ := plain.exists_matchesLine oldType newType
  rw [← changed] at matched
  exact ⟨⟨(line, scope), inScope, matched⟩, Report.exists_mem_markLines inScope listed matched⟩

end changed

/-- A candidate with one property, on the line after that of its class. -/
def orderText : String := "class Order \x7b\n  +total: int\n\x7d"

/-- The place of the property. -/
def orderPlace : MemberPlace (shownText orderText.toList) "Order" ⟨"total", "int"⟩ where
  before := []
  head := "class Order ".toList
  body := "\n  +total: int\n".toList
  behind := []
  index := 1
  line := "  +total: int".toList
  entry := "+total: int".toList
  whole := by decide +kernel
  declared := by decide +kernel
  present := by decide +kernel
  member := by decide +kernel
  property := by decide +kernel

/-- It is plainly laid out. -/
theorem orderPlace_isPlain : orderPlace.IsPlain (visibleLines orderText.toList) := by
  have header : orderPlace.headerNumber = 0 := by decide +kernel
  have number : orderPlace.number = 1 := by decide +kernel
  have first : ∀ line ∈ (visibleLines orderText.toList)[0]?, '}' ∉ line := by decide +kernel
  have second : ∀ line ∈ (visibleLines orderText.toList)[1]?, openedClass? line = none := by
    decide +kernel
  refine ⟨forall_mem_of_all (by decide +kernel), by decide +kernel, ?_, ?_, by decide +kernel⟩
  · intro i from_header to_number
    obtain rfl : i = 0 := by omega
    exact first
  · intro i from_header to_number
    obtain rfl : i = 1 := by omega
    exact second

/-- The change of its type is attributed to a line. -/
theorem propertyChanged_located_order :
    let report := compareTexts .usual "class Order \x7b\n  +total: float\n\x7d" orderText
    report.differences[0]? =
        some (Finding.propertyChanged "Order" "total" "float" "int").difference ∧
      orderPlace.IsPlain (visibleLines orderText.toList) ∧
      ∃ marked ∈ report.markLines orderText, ∃ j ≤ 0, marked.difference = some j := by
  intro report
  have listed : report.differences[0]? =
      some (Finding.propertyChanged "Order" "total" "float" "int").difference := by decide +kernel
  obtain ⟨-, located⟩ := propertyChanged_located listed rfl
  exact ⟨listed, orderPlace_isPlain, (located "int" orderPlace orderPlace_isPlain).2⟩

/-- A brace on the line after the name of its class is read as the beginning of a body, but the
lines of the body are in no scope: no line matches the difference, and none is attributed. -/
theorem propertyChanged_lost :
    let candidate := "class Order\n\x7b\n  +total: int\n\x7d"
    let report := compareTexts .usual "class Order \x7b\n  +total: float\n\x7d" candidate
    report.differences = [(Finding.propertyChanged "Order" "total" "float" "int").difference] ∧
      (∀ line ∈ scopesFrom none (visibleLines candidate.toList), ∀ d ∈ report.differences,
        d.finding.matchesLine line.1 line.2 = false) ∧
      ∀ marked ∈ report.markLines candidate, marked.difference = none := by
  decide +kernel

end DiagramDiff
