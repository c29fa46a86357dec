/-!
# Code point ranges

Character properties are kept as ascending lists of closed code point ranges, one table a
property. Membership walks the list and stops at the first range that begins beyond the code
point. For an ascending table this loses nothing: `holds_iff` says that a code point is held
exactly when it lies in one of the ranges. Each table states beside itself that it ascends.
-/

namespace DiagramDiff.Unicode

/-- A list of closed ranges `(first, last)` of code points. -/
abbrev Ranges := List (Nat × Nat)

namespace Ranges

/-- Whether some range of the table holds the code point. -/
def holds : Ranges → Nat → Bool
  | [], _ => false
  | (first, last) :: rest, n =>
    if n < first then false else if n ≤ last then true else holds rest n

/-- Whether every range begins at or after a bound and ends before the next one begins. -/
def ascendsFrom (bound : Nat) : Ranges → Bool
  | [] => true
  | (first, last) :: rest => decide (bound ≤ first ∧ first ≤ last) && ascendsFrom (last + 1) rest

/-- Whether the ranges of a table ascend and do not overlap. -/
def ascends (table : Ranges) : Bool := ascendsFrom 0 table

/-- The empty table holds nothing. -/
@[simp] theorem holds_nil (n : Nat) : holds [] n = false := rfl

/-- The ranges of a table that ascends from a bound begin at or after it. -/
theorem le_of_mem_of_ascendsFrom {table : Ranges} {bound : Nat}
    (h : ascendsFrom bound table = true) : ∀ range ∈ table, bound ≤ range.1 := by
  induction table generalizing bound with
  | nil => intro range hr; cases hr
  | cons head rest ih =>
    obtain ⟨first, last⟩ := head
    simp only [ascendsFrom, Bool.and_eq_true, decide_eq_true_eq] at h
    intro range hr
    rcases List.mem_cons.mp hr with rfl | hr
    · exact h.1.1
    · have := ih h.2 range hr
      omega

/-- In a table that ascends from a bound, a code point is held exactly when a range contains it. -/
theorem holds_iff_of_ascendsFrom {table : Ranges} {bound n : Nat}
    (h : ascendsFrom bound table = true) :
    holds table n = true ↔ ∃ range ∈ table, range.1 ≤ n ∧ n ≤ range.2 := by
  induction table generalizing bound with
  | nil => simp
  | cons head rest ih =>
    obtain ⟨first, last⟩ := head
    simp only [ascendsFrom, Bool.and_eq_true, decide_eq_true_eq] at h
    have later := le_of_mem_of_ascendsFrom h.2
    by_cases low : n < first
    · constructor
      · intro held
        simp [holds, low] at held
      · rintro ⟨range, hr, hlow, hhigh⟩
        rcases List.mem_cons.mp hr with rfl | hr
        · omega
        · have := later range hr
          omega
    · by_cases high : n ≤ last
      · have inside : holds ((first, last) :: rest) n = true := by simp [holds, low, high]
        exact ⟨fun _ => ⟨(first, last), List.mem_cons_self, by omega, high⟩, fun _ => inside⟩
      · have step : holds ((first, last) :: rest) n = holds rest n := by simp [holds, low, high]
        rw [step, ih h.2]
        constructor
        · rintro ⟨range, hr, both⟩
          exact ⟨range, List.mem_cons_of_mem _ hr, both⟩
        · rintro ⟨range, hr, hlow, hhigh⟩
          rcases List.mem_cons.mp hr with rfl | hr
          · exact absurd hhigh high
          · exact ⟨range, hr, hlow, hhigh⟩

/-- In an ascending table, a code point is held exactly when one of the ranges contains it. -/
theorem holds_iff {table : Ranges} (h : table.ascends = true) (n : Nat) :
    table.holds n = true ↔ ∃ range ∈ table, range.1 ≤ n ∧ n ≤ range.2 :=
  holds_iff_of_ascendsFrom h

end Ranges

end DiagramDiff.Unicode
