import DiagramDiff.RenameHint
import DiagramDiff.Proofs.Comparison.Selections
import Mathlib.Data.List.FinRange

/-!
# The pairs of a rename

Rename hints pair missing names with added ones. The pairing is greedy: the missing names are gone
through once, each takes the first of the most similar names that are still free, and no pair is
given up again. `GreedyRun` is that loop as a relation, with one rule for a name that finds a partner
and one for a name that finds none (`exists_greedyRun_pairNames`). Everything that is said of the
hints is an induction on it.

The pairs are pairs of positions, since names may be repeated. That no pair could be added at the end
(`GreedyRun.maximal`) is not the greedy choice over again: a name that found no partner had more
names to choose from than are left.

A threshold may be what is no number. It is reached by nothing then, so no pairs are made. The
similarities themselves are numbers (`isNaN_similarity`), and among numbers the order is total.

The pairing is not the best one. A missing name takes the most similar name even if another missing
name needs it more.
-/

namespace DiagramDiff

/-! ## The order of scores -/

namespace Binary64

variable {x y z : Binary64}

/-- One is at most the other if both are numbers and their places are in this order. -/
theorem le_iff : x.le y = true ↔ x.isNaN = false ∧ y.isNaN = false ∧ x.place ≤ y.place := by
  simp [le, and_assoc]

/-- One is less than the other if both are numbers and their places are. -/
theorem lt_iff : x.lt y = true ↔ x.isNaN = false ∧ y.isNaN = false ∧ x.place < y.place := by
  simp [lt, and_assoc]

/-- A number is at most itself. -/
theorem le_refl (number : x.isNaN = false) : x.le x = true := by
  rw [le_iff]
  exact ⟨number, number, Int.le_refl _⟩

/-- What is less is at most as much. -/
theorem le_of_lt (h : x.lt y = true) : x.le y = true := by
  obtain ⟨number, number', places⟩ := lt_iff.mp h
  exact le_iff.mpr ⟨number, number', places.le⟩

/-- The order is transitive. -/
theorem le_trans (h : x.le y = true) (h' : y.le z = true) : x.le z = true := by
  obtain ⟨number, -, places⟩ := le_iff.mp h
  obtain ⟨-, number', places'⟩ := le_iff.mp h'
  exact le_iff.mpr ⟨number, number', places.trans places'⟩

/-- Of two numbers the one that is not less is at least as much. -/
theorem lt_eq_false_iff (hx : x.isNaN = false) (hy : y.isNaN = false) :
    x.lt y = false ↔ y.le x = true := by
  rw [← Bool.not_eq_true, lt_iff, le_iff]
  simp only [hx, hy, true_and, not_lt]

/-- A number has the magnitude from which it is made. -/
theorem magnitude_ofMagnitude (negative : Bool) {m : Nat} (h : m ≤ infinityMagnitude) :
    (ofMagnitude negative m).magnitude = m := by
  have sign : pow2 63 = 2 ^ 63 := by decide
  have small : infinityMagnitude < 2 ^ 63 := by decide
  cases negative with
  | false =>
    simp only [ofMagnitude, magnitude, UInt64.toNat_ofNat', sign, Bool.false_eq_true, if_false]
    omega
  | true =>
    simp only [ofMagnitude, magnitude, UInt64.toNat_ofNat', sign, if_true]
    omega

/-- A rounded quotient is a number. -/
theorem isNaN_ofRatio (negative : Bool) (n d : Nat) : (ofRatio negative n d).isNaN = false := by
  have bound : nearestMagnitude n d ≤ infinityMagnitude := by
    unfold nearestMagnitude
    split
    · exact Nat.zero_le _
    · exact Nat.min_le_right _ _
  rw [isNaN, ofRatio, magnitude_ofMagnitude negative bound, decide_eq_false_iff_not]
  exact Nat.not_lt.mpr bound

end Binary64

/-- A similarity is a number. -/
theorem isNaN_similarity (a b : String) : (similarity a b).isNaN = false := by
  rw [similarity, Similarity.ofChars]
  split
  · decide
  · exact Binary64.isNaN_ofRatio _ _ _

/-! ## The first of highest score -/

/-- `a` is the first of the elements that no element of the list surpasses. -/
def IsFirstBest {α : Type} (score : α → Binary64) (l : List α) (a : α) : Prop :=
  IsFirst (fun b => ∀ c ∈ l, (score c).le (score b) = true) l a

section firstBest

variable {α β : Type} {score : α → Binary64} {l : List α} {a : α} {s : Binary64}

/-- The first of highest score is one of the elements. -/
theorem IsFirstBest.mem (h : IsFirstBest score l a) : a ∈ l := by
  obtain ⟨before, after, rfl, -, -⟩ := h
  exact List.mem_append_right _ List.mem_cons_self

/-- No element surpasses the first of highest score. -/
theorem IsFirstBest.le (h : IsFirstBest score l a) {b : α} (hb : b ∈ l) :
    (score b).le (score a) = true := by
  obtain ⟨_, _, _, best, _⟩ := h
  exact best b hb

/-- The first element is kept unless a later one surpasses it. -/
theorem firstBest_cons (b : α) (rest : List α) :
    firstBest score (b :: rest) = some ((firstBest score rest).elim (b, score b) fun best =>
      if (score b).lt best.2 then best else (b, score b)) := by
  rw [firstBest]
  cases firstBest score rest with
  | none => rfl
  | some best =>
    simp only [Option.elim_some]
    split <;> rfl

/-- Only of nothing there is no best. -/
theorem firstBest_eq_none (h : firstBest score l = none) : l = [] := by
  cases l with
  | nil => rfl
  | cons b rest =>
    rw [firstBest_cons] at h
    cases h

/-- What is found is the first of highest score, if every score is a number. -/
theorem isFirstBest_of_firstBest (numbers : ∀ a, (score a).isNaN = false)
    (h : firstBest score l = some (a, s)) : IsFirstBest score l a := by
  induction l generalizing a s with
  | nil => cases h
  | cons b rest ih =>
    rw [firstBest_cons] at h
    cases found : firstBest score rest with
    | none =>
      obtain rfl := firstBest_eq_none found
      cases h
      refine ⟨[], [], rfl, fun c hc => ?_, fun c hc => absurd hc List.not_mem_nil⟩
      rw [List.mem_singleton.mp hc]
      exact Binary64.le_refl (numbers b)
    | some best =>
      obtain ⟨c, t⟩ := best
      obtain rfl : t = score c := (mem_of_firstBest found).2
      have later : IsFirstBest score rest c := ih found
      rw [found, Option.elim_some] at h
      cases less : (score b).lt (score c) with
      | true =>
        rw [if_pos less] at h
        cases h
        have member := later.mem
        obtain ⟨before, after, parts, best, others⟩ := later
        refine ⟨b :: before, after, by rw [parts, List.cons_append], fun d hd => ?_, fun d hd => ?_⟩
        · rcases List.mem_cons.mp hd with rfl | hd
          · exact Binary64.le_of_lt less
          · exact best d hd
        · intro unsurpassed
          rcases List.mem_cons.mp hd with rfl | hd
          · have least := unsurpassed a (List.mem_cons_of_mem _ member)
            rw [← Binary64.lt_eq_false_iff (numbers _) (numbers _), less] at least
            cases least
          · exact others d hd fun e he => unsurpassed e (List.mem_cons_of_mem b he)
      | false =>
        rw [if_neg (by simp [less])] at h
        cases h
        refine ⟨[], rest, rfl, fun d hd => ?_, fun d hd => absurd hd List.not_mem_nil⟩
        rcases List.mem_cons.mp hd with rfl | hd
        · exact Binary64.le_refl (numbers d)
        · exact Binary64.le_trans (later.le hd)
            ((Binary64.lt_eq_false_iff (numbers b) (numbers c)).mp less)

/-- The first of highest score is found under any other names of the elements. -/
theorem firstBest_map (f : β → α) (l : List β) :
    firstBest score (l.map f) =
      (firstBest (fun b => score (f b)) l).map fun (b, s) => (f b, s) := by
  induction l with
  | nil => rfl
  | cons b rest ih =>
    rw [List.map_cons, firstBest_cons, firstBest_cons, ih]
    cases firstBest (fun b => score (f b)) rest with
    | none => rfl
    | some best =>
      simp only [Option.map_some, Option.elim_some]
      split <;> rfl

end firstBest

/-! ## The loop as a relation -/

/-- Rows are gone through in order, and each takes the first column of highest score among the free
ones, if that score reaches the threshold. The pairs are those that are made. -/
inductive GreedyRun {ι κ : Type} [DecidableEq κ] (threshold : Binary64) (score : ι → κ → Binary64) :
    List ι → List κ → List (ι × κ) → Prop where
  /-- No row is left. -/
  | done (free : List κ) : GreedyRun threshold score [] free []
  /-- No free column is good enough for the row. -/
  | pass {i : ι} {rows : List ι} {free : List κ} {pairs : List (ι × κ)}
      (none : ∀ j ∈ free, threshold.le (score i j) = false)
      (later : GreedyRun threshold score rows free pairs) :
      GreedyRun threshold score (i :: rows) free pairs
  /-- The row takes a column, which is free no longer. -/
  | take {i : ι} {j : κ} {rows : List ι} {free : List κ} {pairs : List (ι × κ)}
      (best : IsFirstBest (score i) free j) (reached : threshold.le (score i j) = true)
      (later : GreedyRun threshold score rows (free.filter (· ≠ j)) pairs) :
      GreedyRun threshold score (i :: rows) free ((i, j) :: pairs)

namespace GreedyRun

variable {ι κ : Type} [DecidableEq κ] {threshold : Binary64} {score : ι → κ → Binary64}
  {rows : List ι} {free : List κ} {pairs : List (ι × κ)}

/-- Rows are paired in their order, each at most once. -/
theorem inOrder (h : GreedyRun threshold score rows free pairs) :
    (pairs.map Prod.fst).Sublist rows := by
  induction h with
  | done => exact List.Sublist.refl _
  | pass none later ih => exact ih.cons _
  | take best reached later ih => exact ih.cons_cons _

/-- Only free columns are paired. -/
theorem free_of_mem (h : GreedyRun threshold score rows free pairs) {j : κ}
    (hj : j ∈ pairs.map Prod.snd) : j ∈ free := by
  induction h with
  | done => cases hj
  | pass none later ih => exact ih hj
  | take best reached later ih =>
    rcases List.mem_cons.mp hj with rfl | hj
    · exact best.mem
    · exact List.mem_of_mem_filter (ih hj)

/-- No column is paired twice. -/
theorem distinct (h : GreedyRun threshold score rows free pairs) :
    (pairs.map Prod.snd).Nodup := by
  induction h with
  | done => exact List.nodup_nil
  | pass none later ih => exact ih
  | @take i j rows free pairs best reached later ih =>
    refine List.nodup_cons.mpr ⟨fun again => ?_, ih⟩
    simpa using List.of_mem_filter (later.free_of_mem again)

/-- The score of every pair reaches the threshold. -/
theorem reached (h : GreedyRun threshold score rows free pairs) {p : ι × κ} (hp : p ∈ pairs) :
    threshold.le (score p.1 p.2) = true := by
  induction h with
  | done => cases hp
  | pass none later ih => exact ih hp
  | take best reached later ih =>
    rcases List.mem_cons.mp hp with rfl | hp
    · exact reached
    · exact ih hp

/-- The column of a pair is the first of highest score among those that no earlier pair has. -/
theorem best (h : GreedyRun threshold score rows free pairs) {earlier later : List (ι × κ)}
    {p : ι × κ} (parts : pairs = earlier ++ p :: later) :
    IsFirstBest (score p.1) (free.filter (· ∉ earlier.map Prod.snd)) p.2 := by
  induction h generalizing earlier with
  | done => simp at parts
  | pass none later ih => exact ih parts
  | @take i j rows free pairs best reached run ih =>
    cases earlier with
    | nil =>
      cases parts
      simpa using best
    | cons first earlier =>
      cases parts
      have left : (free.filter (· ≠ j)).filter (· ∉ earlier.map Prod.snd) =
          free.filter (· ∉ ((i, j) :: earlier).map Prod.snd) := by
        rw [List.filter_filter]
        refine List.filter_congr fun k _ => Bool.eq_iff_iff.mpr ?_
        simp [and_comm]
      exact left ▸ ih rfl

/-- No row without a pair and free column without one could still be paired. -/
theorem maximal (h : GreedyRun threshold score rows free pairs) {i : ι} {j : κ} (hi : i ∈ rows)
    (hj : j ∈ free) (row : i ∉ pairs.map Prod.fst) (column : j ∉ pairs.map Prod.snd) :
    threshold.le (score i j) = false := by
  induction h with
  | done => cases hi
  | pass none later ih =>
    rcases List.mem_cons.mp hi with rfl | hi
    · exact none j hj
    · exact ih hi hj row column
  | take best reached later ih =>
    rw [List.map_cons, List.mem_cons, not_or] at row column
    have left := (List.mem_cons.mp hi).resolve_left row.1
    exact ih left (List.mem_filter.mpr ⟨hj, by simpa using column.1⟩) row.2 column.2

end GreedyRun

/-! ## The pairs of names -/

section names

variable (missing added : List String)

/-- The similarity of the names at two positions. -/
def scoreAt (i : Fin missing.length) (j : Fin added.length) : Binary64 :=
  similarity missing[i] added[j]

/-- The similarity of two names is a number. -/
theorem isNaN_scoreAt (i : Fin missing.length) (j : Fin added.length) :
    (scoreAt missing added i j).isNaN = false :=
  isNaN_similarity _ _

/-- The hint for the names at two positions. -/
def hintAt (p : Fin missing.length × Fin added.length) : RenameHint :=
  .of missing[p.1] added[p.2] (scoreAt missing added p.1 p.2)

/-- An added name with its position. -/
def entryAt (j : Fin added.length) : String × Nat := (added[j], j)

/-- The names that are free, without the one at a position, are those at the other positions. -/
theorem filter_map_entryAt (j : Fin added.length) (free : List (Fin added.length)) :
    (free.map (entryAt added)).filter (·.2 != j.val) =
      (free.filter (· ≠ j)).map (entryAt added) := by
  rw [List.filter_map]
  refine congrArg (List.map (entryAt added)) (List.filter_congr fun k _ => Bool.eq_iff_iff.mpr ?_)
  simp [entryAt, Fin.ext_iff]

/-- The names are paired in a greedy run. -/
theorem exists_greedyRun_pairNames (threshold : Binary64) (rows : List (Fin missing.length))
    (free : List (Fin added.length)) :
    ∃ pairs, GreedyRun threshold (scoreAt missing added) rows free pairs ∧
      pairNames threshold (rows.map (missing[·])) (free.map (entryAt added)) =
        pairs.map fun p => (p.2.val, hintAt missing added p) := by
  induction rows generalizing free with
  | nil => exact ⟨[], .done free, rfl⟩
  | cons i rows ih =>
    have search : firstBest (fun entry => similarity missing[i] entry.1)
        (free.map (entryAt added)) = (firstBest (scoreAt missing added i) free).map
          fun (j, s) => (entryAt added j, s) := firstBest_map (entryAt added) free
    cases found : firstBest (scoreAt missing added i) free with
    | none =>
      obtain rfl := firstBest_eq_none found
      obtain ⟨pairs, run, same⟩ := ih []
      refine ⟨pairs, .pass (fun j hj => absurd hj List.not_mem_nil) run, ?_⟩
      rw [List.map_cons, pairNames, search, found]
      exact same
    | some choice =>
      obtain ⟨j, s⟩ := choice
      obtain rfl : s = scoreAt missing added i j := (mem_of_firstBest found).2
      have best := isFirstBest_of_firstBest (isNaN_scoreAt missing added i) found
      cases enough : threshold.le (scoreAt missing added i j) with
      | true =>
        obtain ⟨pairs, run, same⟩ := ih (free.filter (· ≠ j))
        refine ⟨(i, j) :: pairs, .take best enough run, ?_⟩
        rw [List.map_cons, pairNames, search, found]
        simp only [Option.map_some, entryAt, enough, if_true]
        rw [filter_map_entryAt, same]
        rfl
      | false =>
        -- The threshold is missed by the best of the free names and so by all of them.
        obtain ⟨pairs, run, same⟩ := ih free
        refine ⟨pairs, .pass (fun k hk => ?_) run, ?_⟩
        · by_contra reached
          have through := Binary64.le_trans (by simpa using reached) (best.le hk)
          rw [enough] at through
          cases through
        · rw [List.map_cons, pairNames, search, found]
          simp only [Option.map_some, entryAt, enough]
          exact same

/-- Pairs of positions of missing and added names that are made greedily. -/
structure IsGreedyMatching (threshold : Binary64)
    (pairs : List (Fin missing.length × Fin added.length)) : Prop where
  /-- The missing names are gone through once, in their order. -/
  inOrder : (pairs.map Prod.fst).Sublist (List.finRange missing.length)
  /-- No added name is taken twice. -/
  distinct : (pairs.map Prod.snd).Nodup
  /-- Every pair reaches the threshold. -/
  reached : ∀ p ∈ pairs, threshold.le (scoreAt missing added p.1 p.2) = true
  /-- Each missing name takes the first of the most similar names that no earlier one has taken. -/
  best : ∀ earlier p later, pairs = earlier ++ p :: later →
    IsFirstBest (scoreAt missing added p.1)
      ((List.finRange added.length).filter (· ∉ earlier.map Prod.snd)) p.2
  /-- No two names that are left over reach the threshold. -/
  maximal : ∀ i j, i ∉ pairs.map Prod.fst → j ∉ pairs.map Prod.snd →
    threshold.le (scoreAt missing added i j) = false

/-- The hints are those for the pairs of a greedy matching, and their missing names are some of the
missing names in their order. -/
theorem renameHints_greedy (threshold : Binary64) :
    ((renameHints threshold missing added).map RenameHint.missing).Sublist missing ∧
      ∃ pairs, IsGreedyMatching missing added threshold pairs ∧
        renameHints threshold missing added = pairs.map (hintAt missing added) := by
  obtain ⟨pairs, run, same⟩ := exists_greedyRun_pairNames missing added threshold
    (List.finRange missing.length) (List.finRange added.length)
  have rows : (List.finRange missing.length).map (missing[·]) = missing :=
    List.map_getElem_finRange missing
  have columns : (List.finRange added.length).map (entryAt added) = added.zipIdx := by
    refine List.ext_getElem (by simp) fun k hk hk' => ?_
    simp [entryAt]
  have hints : renameHints threshold missing added = pairs.map (hintAt missing added) := by
    rw [rows, columns] at same
    rw [renameHints, same, List.map_map]
    rfl
  refine ⟨?_, pairs, ?_, hints⟩
  · have names : (pairs.map (hintAt missing added)).map RenameHint.missing =
        (pairs.map Prod.fst).map (missing[·]) := by
      simp [hintAt, RenameHint.of]
    have some_rows : ((pairs.map Prod.fst).map (missing[·])).Sublist
        ((List.finRange missing.length).map (missing[·])) := run.inOrder.map _
    rw [rows] at some_rows
    rwa [hints, names]
  · exact
      { inOrder := run.inOrder
        distinct := run.distinct
        reached := fun p hp => run.reached hp
        best := fun earlier p later parts => run.best parts
        maximal := fun i j row column =>
          run.maximal (List.mem_finRange i) (List.mem_finRange j) row column }

end names

end DiagramDiff
