import DiagramDiff.Proofs.Attribution.Scopes

/-!
# What marked lines tell

A report marks the lines of a candidate one after the other and keeps the scope on the way. Here
the result is told line by line (`Report.markLines_tell`): which line opened the scope of a line is
a condition on the lines before it (`OpensScope`), and the difference of a line is the first one
that it matches in that scope (`Report.MatchesFirst`).

A body counts as open from the line that opens it up to the line that closes it, that line
included. So what closes a body matters only on the lines strictly between the two.

A longer report leaves the lines as they are that a shorter one attributes: further differences
come after the one that was matched first.
-/

namespace DiagramDiff

open Text

/-! ## The line that opens a scope -/

/-- Line `j` puts line `k` into the scope of a class: it opens a body of the class, no line after it
up to line `k` opens another one, and none of the lines between the two closes it. -/
structure OpensScope (lines : List (List Char)) (name : List Char) (j k : Nat) : Prop where
  /-- A line may open its own scope. -/
  le : j ≤ k
  /-- It opens a body. -/
  opens : lines[j]?.bind openedClass? = some name
  /-- It is the last line that does. -/
  last : ∀ i, j < i → i ≤ k → lines[i]?.bind openedClass? = none
  /-- No line between the two closes the body. -/
  unclosed : ∀ i, j < i → i < k → ∀ line ∈ lines[i]?, '}' ∉ line

/-- The scope of a line is that of the class whose scope some line opens for it. -/
def IsScopeAt (lines : List (List Char)) (k : Nat) (scope : Option (List Char)) : Prop :=
  ∀ name, scope = some name ↔ ∃ j, OpensScope lines name j k

/-- Line `j` opens a body that is still open before line `k`. -/
structure LeavesOpen (lines : List (List Char)) (name : List Char) (j k : Nat) : Prop where
  /-- The line is before line `k`. -/
  lt : j < k
  /-- It opens a body. -/
  opens : lines[j]?.bind openedClass? = some name
  /-- The lines after it neither open nor close a body. -/
  stays : ∀ i, j < i → i < k → lines[i]?.bind openedClass? = none ∧ ∀ line ∈ lines[i]?, '}' ∉ line

section opened

variable {lines : List (List Char)} {line name : List Char} {k : Nat}

/-- After a line the scope is what the line opens, or what encloses the line if it neither opens nor
closes a body. -/
theorem scopeAfter_eq_some_iff {enclosing : Option (List Char)} :
    scopeAfter enclosing line = some name ↔
      openedClass? line = some name ∨
        (openedClass? line = none ∧ '}' ∉ line) ∧ enclosing = some name := by
  unfold scopeAfter
  cases openedClass? line with
  | some other => simp
  | none => by_cases closes : '}' ∈ line <;> simp [closes]

/-- A body is open before the next line if the line opens it, or leaves it open. -/
theorem exists_leavesOpen_succ (here : lines[k]? = some line) :
    (∃ j, LeavesOpen lines name j (k + 1)) ↔
      openedClass? line = some name ∨
        (openedClass? line = none ∧ '}' ∉ line) ∧ ∃ j, LeavesOpen lines name j k := by
  constructor
  · rintro ⟨j, lt, opens, stays⟩
    rcases Nat.lt_succ_iff_lt_or_eq.mp lt with before | rfl
    · obtain ⟨none, closes⟩ := stays k before (Nat.lt_succ_self k)
      rw [here, Option.bind_some] at none
      refine .inr ⟨⟨none, closes line here⟩, j, before, opens, ?_⟩
      intro i after inside
      exact stays i after (Nat.lt_succ_of_lt inside)
    · rw [here, Option.bind_some] at opens
      exact .inl opens
  · rintro (opens | ⟨⟨none, closes⟩, j, lt, opens, stays⟩)
    · refine ⟨k, Nat.lt_succ_self k, by rw [here, Option.bind_some, opens], ?_⟩
      intro i after inside
      omega
    · refine ⟨j, Nat.lt_succ_of_lt lt, opens, ?_⟩
      intro i after inside
      rcases Nat.lt_succ_iff_lt_or_eq.mp inside with before | rfl
      · exact stays i after before
      · rw [here, Option.bind_some]
        refine ⟨none, ?_⟩
        rintro _ ⟨⟩
        exact closes

/-- The scope that encloses a line is the body that is open before it. -/
theorem scopeBefore_eq_some_iff (present : k ≤ lines.length) :
    scopeBefore lines k = some name ↔ ∃ j, LeavesOpen lines name j k := by
  induction k with
  | zero =>
    constructor
    · intro none
      cases none
    · rintro ⟨j, lt, -⟩
      omega
  | succ k ih =>
    have here : lines[k]? = some lines[k] := List.getElem?_eq_getElem present
    rw [scopeBefore_succ here, scopeAfter_eq_some_iff, exists_leavesOpen_succ here,
      ih (Nat.le_of_lt present)]

/-- A line is in the scope that it opens, or in the one that is open before it. -/
theorem exists_opensScope_iff (here : lines[k]? = some line) :
    (∃ j, OpensScope lines name j k) ↔
      openedClass? line = some name ∨
        openedClass? line = none ∧ ∃ j, LeavesOpen lines name j k := by
  constructor
  · rintro ⟨j, le, opens, last, unclosed⟩
    rcases Nat.lt_or_eq_of_le le with before | rfl
    · have none := last k before (Nat.le_refl k)
      rw [here, Option.bind_some] at none
      refine .inr ⟨none, j, before, opens, ?_⟩
      intro i after inside
      exact ⟨last i after (Nat.le_of_lt inside), unclosed i after inside⟩
    · rw [here, Option.bind_some] at opens
      exact .inl opens
  · rintro (opens | ⟨none, j, lt, opens, stays⟩)
    · refine ⟨k, Nat.le_refl k, by rw [here, Option.bind_some, opens], ?_, ?_⟩
      · intro i after inside
        omega
      · intro i after inside
        omega
    · refine ⟨j, Nat.le_of_lt lt, opens, ?_, fun i after inside => (stays i after inside).2⟩
      intro i after inside
      rcases Nat.lt_or_eq_of_le inside with before | rfl
      · exact (stays i after before).1
      · rw [here, Option.bind_some, none]

/-- The scope that a line is given is the one that some line opens for it. -/
theorem isScopeAt_lineScope (here : lines[k]? = some line) :
    IsScopeAt lines k (lineScope (scopeBefore lines k) line) := by
  intro name
  obtain ⟨present, -⟩ := List.getElem?_eq_some_iff.mp here
  rw [exists_opensScope_iff here, ← scopeBefore_eq_some_iff (Nat.le_of_lt present)]
  unfold lineScope
  cases openedClass? line with
  | some other => simp
  | none => simp

end opened

/-! ## The lines of a report -/

/-- The kinds that speak of something missing are those with the word in their names. -/
theorem FindingKind.isMissing_iff (k : FindingKind) :
    k.isMissing = true ↔ "_missing".toList <:+ k.name.toList := by
  cases k <;> decide

namespace Report

/-- What a marked line tells about a line in a scope: its number and text, the difference that it
matches first, and whether that one speaks of something missing. -/
structure Tells (r : Report) (k : Nat) (line : List Char) (scope : Option (List Char))
    (m : MarkedLine) : Prop where
  /-- Lines are numbered from one. -/
  number : m.number = k + 1
  /-- The text is that of the line. -/
  text : m.text = String.ofList line
  /-- The difference is the one that the line matches first. -/
  difference : ∀ i, m.difference = some i ↔ ∃ d, r.MatchesFirst line scope i d
  /-- The mark is that of the difference. -/
  mark : ∀ mark, m.mark = some mark ↔ ∃ i d, r.MatchesFirst line scope i d ∧
    (mark = .missing ↔ "_missing".toList <:+ d.kind.name.toList)
  /-- Without a difference there is no mark either, and that is where nothing matches. -/
  unmatched : m.difference = none ∧ m.mark = none ↔
    ∀ d ∈ r.differences, d.finding.matchesLine line scope = false

section marked

variable {r : Report} {k : Nat} {line : List Char} {scope : Option (List Char)}

/-- The mark of a kind is the one that says whether it speaks of something missing. -/
theorem eq_ofKind_iff {mark : Mark} {kind : FindingKind} :
    Mark.ofKind kind = mark ↔ (mark = .missing ↔ "_missing".toList <:+ kind.name.toList) := by
  rw [← FindingKind.isMissing_iff]
  unfold Mark.ofKind
  cases kind.isMissing <;> cases mark <;> simp

/-- A line is marked with what it matches first. -/
theorem tells_markLine (r : Report) (k : Nat) (line : List Char) (scope : Option (List Char)) :
    r.Tells k line scope (r.markLine (k + 1) line scope) where
  number := rfl
  text := rfl
  difference i := by
    simp only [markLine, Option.map_eq_some_iff, Prod.exists, exists_eq_right,
      firstMatch?_eq_some_iff]
  mark mark := by
    simp only [markLine, Option.map_eq_some_iff, Prod.exists, firstMatch?_eq_some_iff,
      eq_ofKind_iff]
    exact exists_comm
  unmatched := by
    simp only [markLine, Option.map_eq_none_iff, and_self, firstMatch?_eq_none_iff]

/-- There are as many marked lines as lines. -/
theorem length_markLines (r : Report) (candidate : String) :
    (r.markLines candidate).length = (visibleLines candidate.toList).length := by
  have kept := congrArg List.length (map_fst_scopesFrom none (visibleLines candidate.toList))
  rw [List.length_map] at kept
  unfold markLines
  rw [List.length_map, List.length_zipIdx, kept]

/-- What is matched first stays first in a longer report. -/
theorem MatchesFirst.longer {longer : Report} {i : Nat} {d : Difference}
    (first : r.MatchesFirst line scope i d) (more : r.differences <+: longer.differences) :
    longer.MatchesFirst line scope i d := by
  obtain ⟨further, same⟩ := more
  obtain ⟨bound, -⟩ := List.getElem?_eq_some_iff.mp first.listed
  refine ⟨?_, first.matched, ?_⟩
  · rw [← same, List.getElem?_append_left bound, first.listed]
  · rw [← same, List.take_append_of_le_length (Nat.le_of_lt bound)]
    exact first.others

/-- A line that a report attributes is marked in the same way by a longer report. -/
theorem markLine_longer {longer : Report} (more : r.differences <+: longer.differences)
    (attributed : (r.markLine k line scope).difference ≠ none) :
    longer.markLine k line scope = r.markLine k line scope := by
  cases first : r.firstMatch? line scope with
  | none => simp [markLine, first] at attributed
  | some found =>
    obtain ⟨d, i⟩ := found
    have still : longer.firstMatch? line scope = some (d, i) :=
      firstMatch?_eq_some_iff.mpr ((firstMatch?_eq_some_iff.mp first).longer more)
    unfold markLine
    rw [first, still]

end marked

/-- Every line of a candidate is marked, with its number and text and the first difference that it
matches in its scope; and a longer report leaves attributed lines as they are. -/
theorem markLines_tell (r : Report) (candidate : String) :
    (r.markLines candidate).length = (visibleLines candidate.toList).length ∧
      (∀ k line, (visibleLines candidate.toList)[k]? = some line →
        ∃ m scope, (r.markLines candidate)[k]? = some m ∧
          IsScopeAt (visibleLines candidate.toList) k scope ∧ r.Tells k line scope m) ∧
      ∀ longer : Report, r.differences <+: longer.differences →
        ∀ (k : Nat) (m : MarkedLine), (r.markLines candidate)[k]? = some m →
          m.difference ≠ none → (longer.markLines candidate)[k]? = some m := by
  refine ⟨length_markLines r candidate, ?_, ?_⟩
  · intro k line here
    exact ⟨_, _, getElem?_markLines here, isScopeAt_lineScope here, tells_markLine r k line _⟩
  · intro longer more k m marked attributed
    obtain ⟨bound, -⟩ := List.getElem?_eq_some_iff.mp marked
    rw [length_markLines] at bound
    have here := List.getElem?_eq_getElem bound
    rw [getElem?_markLines here] at marked
    obtain rfl := Option.some.inj marked
    rw [getElem?_markLines here, markLine_longer more attributed]

end Report

end DiagramDiff
