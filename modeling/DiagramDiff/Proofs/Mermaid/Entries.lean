import DiagramDiff.Mermaid.Member
import DiagramDiff.Proofs.Text.Lines
import DiagramDiff.Proofs.Text.Scanning

/-!
# The entries of a body

Two facts about cutting carry everything that is said of bodies. A line feed resets the counters, so
a body is cut line by line, whatever stands on the lines (`cut_line`, `entries_line`). And a run of
characters that neither change a counter nor cut is carried over to the piece in which it stands
(`cutFrom_run`). More generally `Uncut` says of a run that it is not cut and what the counters are
behind it, so that runs can be taken one after the other (`Uncut.append`).
-/

namespace DiagramDiff.Mermaid

open Text

/-! ## Cutting line by line -/

/-- The character before a position matters only as a name letter or none. -/
theorem cutFrom_congr {before other : Option Char}
    (h : Nesting.besideLetter before = Nesting.besideLetter other) (n : Nesting)
    (body : List Char) : cutFrom n before body = cutFrom n other body := by
  cases body with
  | nil => rfl
  | cons c rest =>
    have step : n.step before rest.head? c = n.step other rest.head? c := by
      simp only [Nesting.step, h]
    simp only [cutFrom, step]

/-- A line feed closes everything and ends the piece. -/
theorem cutFrom_newline (n : Nesting) (before : Option Char) (body : List Char) :
    cutFrom n before ('\n' :: body) = [] :: cut body := by
  have closed : n.step before body.head? '\n' = .none := by simp [Nesting.step]
  have cuts : n.cutsAt '\n' = true := by simp [Nesting.cutsAt]
  have fresh : cutFrom .none (some '\n') body = cut body := cutFrom_congr (by decide) _ _
  simp only [cutFrom, closed, cuts, fresh, if_true]

/-- A body is cut line by line, from any nesting on. -/
theorem cutFrom_line (n : Nesting) (before : Option Char) (text rest : List Char) :
    cutFrom n before (text ++ '\n' :: rest) = cutFrom n before text ++ cut rest := by
  induction text generalizing n before with
  | nil => exact cutFrom_newline n before rest
  | cons c text ih =>
    -- At the end of the line the next character is a line feed instead of none; neither is a
    -- letter, so a tilde there is judged the same.
    have beside : Nesting.besideLetter (text ++ '\n' :: rest).head? =
        Nesting.besideLetter text.head? := by
      cases text with
      | nil => exact (by decide : Nesting.besideLetter (some '\n') = false)
      | cons d text => rfl
    have step : n.step before (text ++ '\n' :: rest).head? c = n.step before text.head? c := by
      simp only [Nesting.step, beside]
    simp only [List.cons_append, cutFrom, step, ih]
    by_cases cuts : n.cutsAt c = true
    · simp only [cuts, if_true, List.cons_append]
    · simp only [cuts]
      cases later : cutFrom (n.step before text.head? c) (some c) text with
      | nil => exact absurd later (cutFrom_ne_nil _ _ _)
      | cons piece pieces => rfl

/-- A body is cut line by line. -/
theorem cut_line (text rest : List Char) : cut (text ++ '\n' :: rest) = cut text ++ cut rest :=
  cutFrom_line .none .none text rest

/-- The entries of a line come before those of the lines after it. -/
theorem entries_line (text rest : List Char) :
    entries (text ++ '\n' :: rest) = entries text ++ entries rest := by
  simp only [entries, cut_line, List.map_append, List.filter_append]

/-- A piece holds characters of the body that are no line feeds. -/
theorem mem_of_mem_cutFrom {n : Nesting} {before : Option Char} {body piece : List Char} {c : Char}
    (h : piece ∈ cutFrom n before body) (hc : c ∈ piece) : c ∈ body ∧ c ≠ '\n' := by
  induction body generalizing n before piece with
  | nil =>
    rw [List.mem_singleton.mp h] at hc
    cases hc
  | cons d rest ih =>
    rw [cutFrom] at h
    split at h
    · rcases List.mem_cons.mp h with rfl | h
      · cases hc
      · exact (ih h hc).imp_left (List.mem_cons_of_mem d)
    · next uncut =>
      cases later : cutFrom (n.step before rest.head? d) (some d) rest with
      | nil => exact absurd later (cutFrom_ne_nil _ _ _)
      | cons first others =>
        rw [later] at h
        rcases List.mem_cons.mp h with rfl | h
        · rcases List.mem_cons.mp hc with rfl | hc
          · refine ⟨List.mem_cons_self, ?_⟩
            rintro rfl
            exact uncut (by simp [Nesting.cutsAt])
          · exact (ih (later ▸ List.mem_cons_self) hc).imp_left (List.mem_cons_of_mem d)
        · exact (ih (later ▸ List.mem_cons_of_mem first h) hc).imp_left (List.mem_cons_of_mem d)

/-- An entry stands on one line. -/
theorem newline_not_mem_entries {body entry : List Char} (h : entry ∈ entries body) :
    '\n' ∉ entry := by
  obtain ⟨member, -⟩ := List.mem_filter.mp h
  obtain ⟨piece, hp, rfl⟩ := List.mem_map.mp member
  exact fun feed => (mem_of_mem_cutFrom hp ((trim_within piece).subset feed)).2 rfl

/-! ## Characters that pass -/

/-- A character that neither changes the nesting nor cuts there. -/
structure Nesting.Passes (n : Nesting) (c : Char) : Prop where
  /-- It opens no parenthesis. -/
  ne_open : c ≠ '('
  /-- It closes no parenthesis. -/
  ne_close : c ≠ ')'
  /-- It is no tilde. -/
  ne_tilde : c ≠ '~'
  /-- It does not cut. -/
  not_cuts : n.cutsAt c = false

instance (n : Nesting) (c : Char) : Decidable (n.Passes c) :=
  decidable_of_iff (c ≠ '(' ∧ c ≠ ')' ∧ c ≠ '~' ∧ n.cutsAt c = false)
    ⟨fun h => ⟨h.1, h.2.1, h.2.2.1, h.2.2.2⟩,
      fun h => ⟨h.ne_open, h.ne_close, h.ne_tilde, h.not_cuts⟩⟩

/-- A character that passes leaves the nesting as it is. -/
theorem Nesting.Passes.step {n : Nesting} {c : Char} (h : n.Passes c) (before after : Option Char) :
    n.step before after c = n := by
  have line : c ≠ '\n' := by
    rintro rfl
    simpa [Nesting.cutsAt] using h.not_cuts
  simp only [Nesting.step, if_neg h.ne_open, if_neg h.ne_close, if_neg h.ne_tilde, if_neg line]

/-- A character of a word passes everywhere. -/
theorem Nesting.passes_of_isWord {c : Char} (h : isWord c = true) (n : Nesting) : n.Passes c where
  ne_open := ne_of_isWord h (by decide)
  ne_close := ne_of_isWord h (by decide)
  ne_tilde := ne_of_isWord h (by decide)
  not_cuts := by
    have line : c ≠ '\n' := ne_of_isWord h (by decide)
    have comma : c ≠ ',' := ne_of_isWord h (by decide)
    have semicolon : c ≠ ';' := ne_of_isWord h (by decide)
    simp [Nesting.cutsAt, line, comma, semicolon]

/-- A run of characters that pass is carried over to the piece in which it stands. -/
theorem cutFrom_run {n : Nesting} {run : List Char} (h : ∀ c ∈ run, n.Passes c)
    (before : Option Char) (rest : List Char) :
    cutFrom n before (run ++ rest) =
      (cutFrom n (charBefore before run) rest).modifyHead (run ++ ·) := by
  induction run generalizing before with
  | nil =>
    exact (congrFun List.modifyHead_id (cutFrom n before rest)).symm
  | cons c run ih =>
    have hc : n.Passes c := h c List.mem_cons_self
    have later := ih (fun d hd => h d (List.mem_cons_of_mem c hd)) (some c)
    simp only [List.cons_append, cutFrom, hc.step, hc.not_cuts, later, List.modifyHead_modifyHead]
    rfl

/-! ## Runs that are not cut -/

/-- A run of characters that is not cut, up to which the nesting goes from one value to another. -/
def Uncut (n n' : Nesting) (before : Option Char) (run rest : List Char) : Prop :=
  cutFrom n before (run ++ rest) =
    (cutFrom n' (charBefore before run) rest).modifyHead (run ++ ·)

/-- One run after the other is not cut. -/
theorem Uncut.append {n n' n'' : Nesting} {before : Option Char} {run more rest : List Char}
    (h : Uncut n n' before run (more ++ rest))
    (h' : Uncut n' n'' (charBefore before run) more rest) :
    Uncut n n'' before (run ++ more) rest := by
  unfold Uncut at h h' ⊢
  have last : charBefore before (run ++ more) = charBefore (charBefore before run) more :=
    List.foldl_append
  rw [List.append_assoc, h, h', List.modifyHead_modifyHead, last]
  congr 1
  funext piece
  exact (List.append_assoc run more piece).symm

/-- A character that does not cut, and the nesting after it. -/
theorem Uncut.of_step {n n' : Nesting} {before : Option Char} {c : Char} {rest : List Char}
    (uncut : n.cutsAt c = false) (step : n.step before rest.head? c = n') :
    Uncut n n' before [c] rest := by
  simp only [Uncut, List.singleton_append, cutFrom, uncut, step]
  rfl

end DiagramDiff.Mermaid
