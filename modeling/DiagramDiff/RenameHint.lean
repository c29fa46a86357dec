import DiagramDiff.Similarity

/-!
# Rename hints

A class that is missing and a class that was added may be one class with a misspelt name. Missing
names are taken in order; each is paired with the most similar added name that is still free, the
first of them if several are equally similar, provided the similarity reaches a threshold.
-/

namespace DiagramDiff

/-- A suggestion that an added class is a missing one under another name. -/
structure RenameHint where
  /-- The name that the reference has. -/
  missing : String
  /-- The name that the candidate has instead. -/
  added : String
  /-- How similar the two names are. -/
  similarity : Binary64
  /-- The suggestion in words. -/
  message : String
  deriving DecidableEq, Repr

/-- The suggestion for two names. -/
def RenameHint.of (missing added : String) (similarity : Binary64) : RenameHint where
  missing := missing
  added := added
  similarity := similarity
  message := "Did you mean " ++ missing ++ " instead of " ++ added ++ "?"

/-- The first element of highest score, with its score. -/
def firstBest {α : Type} (score : α → Binary64) : List α → Option (α × Binary64)
  | [] => none
  | a :: rest =>
    let own := score a
    match firstBest score rest with
    | none => some (a, own)
    | some (b, s) => if own.lt s then some (b, s) else some (a, own)

/-- The first element of highest score is one of the elements, with its own score. -/
theorem mem_of_firstBest {α : Type} {score : α → Binary64} {l : List α} {a : α} {s : Binary64}
    (h : firstBest score l = some (a, s)) : a ∈ l ∧ s = score a := by
  induction l generalizing a s with
  | nil => cases h
  | cons b rest ih =>
    unfold firstBest at h
    cases found : firstBest score rest with
    | none =>
      rw [found] at h
      cases h
      exact ⟨List.mem_cons_self, rfl⟩
    | some best =>
      obtain ⟨c, t⟩ := best
      rw [found] at h
      obtain ⟨member, own⟩ := ih found
      by_cases less : (score b).lt t = true
      · simp only [less, if_true, Option.some.injEq, Prod.mk.injEq] at h
        obtain ⟨rfl, rfl⟩ := h
        exact ⟨List.mem_cons_of_mem b member, own⟩
      · simp only [less] at h
        cases h
        exact ⟨List.mem_cons_self, rfl⟩

/-- The pairs of missing and added names, each added name with its position. The names of `free`
are those that no earlier pair uses. -/
def pairNames (threshold : Binary64) :
    List String → List (String × Nat) → List (Nat × RenameHint)
  | [], _ => []
  | name :: rest, free =>
    match firstBest (fun entry => similarity name entry.1) free with
    | none => pairNames threshold rest free
    | some ((added, position), s) =>
      if threshold.le s then
        (position, RenameHint.of name added s) ::
          pairNames threshold rest (free.filter (·.2 != position))
      else pairNames threshold rest free

/-- The hints for missing and added names. -/
def renameHints (threshold : Binary64) (missing added : List String) : List RenameHint :=
  (pairNames threshold missing added.zipIdx).map (·.2)

end DiagramDiff
