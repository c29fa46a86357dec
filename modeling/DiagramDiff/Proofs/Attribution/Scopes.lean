import DiagramDiff.Attribution

/-!
# The scopes of lines

The scope that encloses a line is what is left by the lines before it, one after the other
(`getElem?_scopesFrom`). A line that opens a body puts its class in force (`scopeBefore_of_opens`),
and it stays in force as long as no line closes a body or opens another one
(`scopeBefore_of_stays`).

A line that matches a difference in its scope is attributed to it or to an earlier one
(`Report.exists_attributed`).
-/

namespace DiagramDiff

open Text

/-! ## The scope at a line -/

section scopes

variable {lines : List (List Char)} {line name : List Char}

/-- The scope that encloses the line of an index, counted from zero. -/
def scopeBefore (lines : List (List Char)) (i : Nat) : Option (List Char) :=
  (lines.take i).foldl scopeAfter none

/-- A line has the scope that the lines before it leave. -/
theorem getElem?_scopesFrom (lines : List (List Char)) (i : Nat) :
    (scopesFrom none lines)[i]? =
      lines[i]?.map fun line => (line, lineScope (scopeBefore lines i) line) := by
  unfold scopeBefore
  generalize none = enclosing
  induction lines generalizing enclosing i with
  | nil => rfl
  | cons first lines ih =>
    cases i with
    | zero => rfl
    | succ i => exact ih i (scopeAfter enclosing first)

/-- The lines before the next line are those before a line and the line itself. -/
theorem scopeBefore_succ {i : Nat} (h : lines[i]? = some line) :
    scopeBefore lines (i + 1) = scopeAfter (scopeBefore lines i) line := by
  unfold scopeBefore
  rw [List.take_add_one, h, List.foldl_append]
  rfl

/-- After a line that opens a body its class is the scope. -/
theorem scopeBefore_of_opens {i : Nat} (h : lines[i]? = some line)
    (opens : openedClass? line = some name) : scopeBefore lines (i + 1) = some name := by
  rw [scopeBefore_succ h, scopeAfter, opens]

/-- A line that neither closes a body nor opens one leaves the scope as it is. -/
theorem scopeAfter_of_stays {enclosing : Option (List Char)} (closes : '}' ∉ line)
    (opens : openedClass? line = none) : scopeAfter enclosing line = enclosing := by
  have kept : line.contains '}' = false := by simpa using closes
  simp only [scopeAfter, opens, kept]
  rfl

/-- A scope stays over lines that neither close a body nor open one. -/
theorem scopeBefore_of_stays {first last : Nat} (le : first ≤ last)
    (start : scopeBefore lines first = some name) (present : last ≤ lines.length)
    (stays : ∀ i, first ≤ i → i < last → ∀ line ∈ lines[i]?,
      '}' ∉ line ∧ openedClass? line = none) :
    scopeBefore lines last = some name := by
  induction le with
  | refl => exact start
  | @step i le ih =>
    have inside : i < lines.length := present
    have here : lines[i]? = some lines[i] := List.getElem?_eq_getElem inside
    obtain ⟨closes, opens⟩ := stays i le (Nat.lt_succ_self i) _ here
    rw [scopeBefore_succ here, scopeAfter_of_stays closes opens]
    exact ih (Nat.le_of_lt inside) fun j first_le lt => stays j first_le (Nat.lt_succ_of_lt lt)

/-- The class whose body a line opens is the scope after the line, and after further lines that
neither close a body nor open one. -/
theorem scopeBefore_of_parts (above : List (List Char)) {between : List (List Char)}
    (rest : List (List Char)) (opens : openedClass? line = some name)
    (stays : ∀ l ∈ between, '}' ∉ l ∧ openedClass? l = none) :
    scopeBefore ((above ++ line :: between) ++ rest) (above ++ line :: between).length =
      some name := by
  have here : ((above ++ line :: between) ++ rest)[above.length]? = some line := by simp
  have last : (above ++ line :: between).length = above.length + 1 + between.length := by
    rw [List.length_append, List.length_cons]
    omega
  rw [last]
  refine scopeBefore_of_stays (Nat.le_add_right _ _) (scopeBefore_of_opens here opens) ?_ ?_
  · rw [← last]
    exact (List.prefix_append _ rest).length_le
  · intro i after inside l hl
    obtain ⟨j, rfl⟩ := Nat.exists_eq_add_of_le after
    have inBetween : j < between.length := Nat.lt_of_add_lt_add_left inside
    rw [List.append_assoc, Nat.add_assoc, List.getElem?_append_right (Nat.le_add_right _ _),
      Nat.add_sub_cancel_left, Nat.add_comm 1 j, List.cons_append, List.getElem?_cons_succ,
      List.getElem?_append_left inBetween] at hl
    exact stays l (List.mem_of_getElem? hl)

/-- A line that opens no body has the scope that encloses it. -/
theorem lineScope_of_not_opens {enclosing : Option (List Char)} (opens : openedClass? line = none) :
    lineScope enclosing line = enclosing := by
  rw [lineScope, opens, Option.none_or]

end scopes

/-! ## The difference of a line -/

/-- A line matches the difference of an index in a scope, and no difference before it. -/
structure Report.MatchesFirst (r : Report) (line : List Char) (scope : Option (List Char)) (i : Nat)
    (d : Difference) : Prop where
  /-- The difference has its index in the report. -/
  listed : r.differences[i]? = some d
  /-- The line matches it. -/
  matched : d.finding.matchesLine line scope = true
  /-- The line matches none of those before it. -/
  others : ∀ e ∈ r.differences.take i, e.finding.matchesLine line scope = false

/-- The first match of a line is the difference that it matches first. -/
theorem Report.firstMatch?_eq_some_iff {r : Report} {line : List Char}
    {scope : Option (List Char)} {d : Difference} {i : Nat} :
    r.firstMatch? line scope = some (d, i) ↔ r.MatchesFirst line scope i d := by
  unfold firstMatch?
  rw [List.find?_eq_some_iff_getElem]
  constructor
  · rintro ⟨matched, n, bound, here, others⟩
    rw [List.getElem_zipIdx, Nat.zero_add, Prod.mk.injEq] at here
    obtain ⟨listed, rfl⟩ := here
    refine ⟨List.getElem?_eq_some_iff.mpr ⟨by simpa using bound, listed⟩, matched, ?_⟩
    intro e he
    obtain ⟨j, lt, rfl⟩ := List.mem_take_iff_getElem.mp he
    simpa using others j (by omega)
  · rintro ⟨listed, matched, others⟩
    obtain ⟨bound, rfl⟩ := List.getElem?_eq_some_iff.mp listed
    refine ⟨matched, i, by simpa using bound, by simp, ?_⟩
    intro j lt
    have earlier : r.differences[j] ∈ r.differences.take i :=
      List.mem_take_iff_getElem.mpr ⟨j, by omega, rfl⟩
    simpa using others _ earlier

/-- A line has no first match exactly if it matches no difference. -/
theorem Report.firstMatch?_eq_none_iff {r : Report} {line : List Char}
    {scope : Option (List Char)} :
    r.firstMatch? line scope = none ↔
      ∀ d ∈ r.differences, d.finding.matchesLine line scope = false := by
  unfold firstMatch?
  rw [List.find?_eq_none]
  constructor
  · intro none d hd
    obtain ⟨i, listed⟩ := List.mem_iff_getElem?.mp hd
    simpa using none (d, i) (List.mk_mem_zipIdx_iff_getElem?.mpr listed)
  · rintro none ⟨d, i⟩ numbered
    simpa using none d (List.mem_of_getElem? (List.mk_mem_zipIdx_iff_getElem?.mp numbered))

/-- A line that matches a difference matches that one first or an earlier one. -/
theorem Report.exists_firstMatch? {r : Report} {line : List Char} {scope : Option (List Char)}
    {d : Difference} {i : Nat} (listed : r.differences[i]? = some d)
    (matched : d.finding.matchesLine line scope = true) :
    ∃ d' j, r.firstMatch? line scope = some (d', j) ∧ j ≤ i := by
  cases first : r.firstMatch? line scope with
  | none =>
    have unmatched := firstMatch?_eq_none_iff.mp first d (List.mem_of_getElem? listed)
    rw [unmatched] at matched
    cases matched
  | some found =>
    obtain ⟨d', j⟩ := found
    refine ⟨d', j, rfl, Nat.le_of_not_lt fun lt => ?_⟩
    have earlier : d ∈ r.differences.take j := by
      apply List.mem_of_getElem?
      rw [List.getElem?_take_of_lt lt, listed]
    have unmatched := (firstMatch?_eq_some_iff.mp first).others d earlier
    rw [unmatched] at matched
    cases matched

/-- A line of the candidate is marked in its scope. -/
theorem Report.getElem?_markLines {r : Report} {candidate : String} {k : Nat} {line : List Char}
    (here : (visibleLines candidate.toList)[k]? = some line) :
    (r.markLines candidate)[k]? = some
      (r.markLine (k + 1) line (lineScope (scopeBefore (visibleLines candidate.toList) k) line)) := by
  unfold markLines
  rw [List.getElem?_map, List.getElem?_zipIdx, getElem?_scopesFrom, here, Nat.add_comm k 1]
  rfl

/-- A line that matches a difference in its scope is attributed to it or to an earlier one. -/
theorem Report.exists_attributed {r : Report} {candidate : String} {k i : Nat} {line : List Char}
    {d : Difference} (here : (visibleLines candidate.toList)[k]? = some line)
    (listed : r.differences[i]? = some d)
    (matched : d.finding.matchesLine line
      (lineScope (scopeBefore (visibleLines candidate.toList) k) line) = true) :
    ∃ marked, (r.markLines candidate)[k]? = some marked ∧ ∃ j ≤ i, marked.difference = some j := by
  obtain ⟨d', j, first, le⟩ := exists_firstMatch? listed matched
  refine ⟨_, getElem?_markLines here, j, le, ?_⟩
  unfold markLine
  rw [first]
  rfl

/-- Of a line that matches a difference in its scope, the marked line names that difference or an
earlier one. -/
theorem Report.exists_mem_markLines {r : Report} {candidate : String} {line : List Char}
    {scope : Option (List Char)} {d : Difference} {i : Nat}
    (inScope : (line, scope) ∈ scopesFrom none (visibleLines candidate.toList))
    (listed : r.differences[i]? = some d) (matched : d.finding.matchesLine line scope = true) :
    ∃ marked ∈ r.markLines candidate, ∃ j ≤ i, marked.difference = some j := by
  obtain ⟨k, there⟩ := List.mem_iff_getElem?.mp inScope
  rw [getElem?_scopesFrom] at there
  obtain ⟨own, here, same⟩ := Option.map_eq_some_iff.mp there
  cases same
  obtain ⟨marked, present, attributed⟩ := exists_attributed here listed matched
  exact ⟨marked, List.mem_of_getElem? present, attributed⟩

end DiagramDiff
