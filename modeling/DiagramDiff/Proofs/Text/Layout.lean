import DiagramDiff.Proofs.Text.Scanning

/-!
# Texts of another layout

Two texts are *relaid* if they are the same but for white space where a line ends: blank lines,
trailing blanks, indentation, and whatever white space the end of the text has (`Relaid`). White
space inside a line is not touched.

The readers of the notation are made of runs of a class, and the classes treat a line feed and
other white space in one of three ways: a run stops at a line feed (`Relaid.dropWhile_stop`), stops
at white space of any kind (`Relaid.takeWhile_eq`), or passes over all white space
(`Relaid.dropWhile_pass`). In each case relaid texts give relaid rests. A reader whose answers on
relaid texts leave relaid rests can be run over the whole of two relaid texts in lockstep
(`Relaid.scan`).
-/

namespace DiagramDiff.Text

/-! ## White space -/

/-- A text of nothing but white space. -/
def IsWhite (text : List Char) : Prop := ∀ c ∈ text, isWhiteSpace c = true

/-- A text that is empty or begins with white space. -/
def WhiteLed (text : List Char) : Prop := text.head?.all isWhiteSpace = true

/-- A line feed is white space. -/
@[simp] theorem isWhiteSpace_newline : isWhiteSpace '\n' = true := by decide

/-- White space belongs to no word. -/
theorem isWord_of_isWhiteSpace {c : Char} (h : isWhiteSpace c = true) : isWord c = false := by
  by_contra word
  rw [isWhiteSpace_of_isWord (by simpa using word)] at h
  cases h

/-- White space differs from every other character. -/
theorem beq_of_isWhiteSpace {c d : Char} (hd : isWhiteSpace d = false)
    (hc : isWhiteSpace c = true) : (c == d) = false := by
  rw [beq_eq_false_iff_ne]
  rintro rfl
  rw [hc] at hd
  cases hd

namespace IsWhite

variable {w w' : List Char}

/-- There is nothing in an empty text. -/
theorem nil : IsWhite [] := fun _ h => absurd h List.not_mem_nil

/-- A line feed is white space. -/
theorem newline : IsWhite ['\n'] := by
  intro c hc
  rw [List.mem_singleton.mp hc]
  exact isWhiteSpace_newline

/-- White space after white space is white space. -/
theorem append (h : IsWhite w) (h' : IsWhite w') : IsWhite (w ++ w') := by
  intro c hc
  rcases List.mem_append.mp hc with hc | hc
  · exact h c hc
  · exact h' c hc

/-- Parts of white space are white space. -/
theorem of_subset (h : IsWhite w) (hs : w' ⊆ w) : IsWhite w' := fun c hc => h c (hs hc)

/-- A run in white space is white space. -/
theorem takeWhile (h : IsWhite w) (p : Char → Bool) : IsWhite (w.takeWhile p) :=
  h.of_subset (List.takeWhile_prefix p).subset

/-- What follows a run in white space is white space. -/
theorem dropWhile (h : IsWhite w) (p : Char → Bool) : IsWhite (w.dropWhile p) :=
  h.of_subset (List.dropWhile_suffix p).subset

/-- White space begins with white space, if it begins. -/
theorem whiteLed (h : IsWhite w) : WhiteLed w := by
  cases w with
  | nil => rfl
  | cons c w => exact h c List.mem_cons_self

/-- White space that is not empty begins with white space, whatever follows. -/
theorem whiteLed_append (h : IsWhite w) {c : Char} (hc : c ∈ w) (text : List Char) :
    WhiteLed (w ++ text) := by
  cases w with
  | nil => cases hc
  | cons d w => exact h d List.mem_cons_self

/-- White space belongs to no word. -/
theorem isWord (h : IsWhite w) : ∀ c ∈ w, isWord c = false :=
  fun c hc => isWord_of_isWhiteSpace (h c hc)

end IsWhite

/-- A text of which trimming leaves nothing is white space. -/
theorem isWhite_of_trim_eq_nil {text : List Char} (h : trim text = []) : IsWhite text := by
  obtain ⟨left, right, hl, hr, parts⟩ := exists_trimOf isWhiteSpace text
  rw [← trim_eq_trimOf, h] at parts
  rw [parts]
  exact IsWhite.append hl hr

/-- A text that begins with white space does not begin with a character of a class without it. -/
theorem WhiteLed.any_head? {text : List Char} (h : WhiteLed text) {p : Char → Bool}
    (hp : ∀ c, isWhiteSpace c = true → p c = false) : text.head?.any p = false := by
  cases text with
  | nil => rfl
  | cons c rest => exact hp c h

/-! ## Ends of lines -/

/-- Two texts that are the same but for white space at their ends. -/
def EndsAlike (text other : List Char) : Prop :=
  ∃ core w w', IsWhite w ∧ IsWhite w' ∧ text = core ++ w ∧ other = core ++ w'

namespace EndsAlike

variable {text other : List Char}

/-- White space is the same as other white space. -/
theorem of_white (h : IsWhite text) (h' : IsWhite other) : EndsAlike text other :=
  ⟨[], text, other, h, h', rfl, rfl⟩

/-- A character may stand in front. -/
theorem cons (h : EndsAlike text other) (c : Char) : EndsAlike (c :: text) (c :: other) := by
  obtain ⟨core, w, w', hw, hw', rfl, rfl⟩ := h
  exact ⟨c :: core, w, w', hw, hw', rfl, rfl⟩

/-- Trimming takes the difference away. -/
theorem trim_eq (h : EndsAlike text other) : trim text = trim other := by
  obtain ⟨core, w, w', hw, hw', rfl, rfl⟩ := h
  have first : trim (core ++ w) = trim core := trimOf_surround IsWhite.nil hw core
  have second : trim (core ++ w') = trim core := trimOf_surround IsWhite.nil hw' core
  rw [first, second]

end EndsAlike

/-! ## Relaid texts -/

/-- Two texts that are the same but for white space where lines end. -/
inductive Relaid : List Char → List Char → Prop where
  /-- At the end of the text any white space may stand. -/
  | ending {w w' : List Char} (hw : IsWhite w) (hw' : IsWhite w') : Relaid w w'
  /-- A character stays as it is. -/
  | char (c : Char) {t t' : List Char} (h : Relaid t t') : Relaid (c :: t) (c :: t')
  /-- Where a line ends any white space with a line feed in it may stand. -/
  | lineBreak {w w' t t' : List Char} (hw : IsWhite w) (hw' : IsWhite w') (feed : '\n' ∈ w)
      (feed' : '\n' ∈ w') (h : Relaid t t') : Relaid (w ++ t) (w' ++ t')

namespace Relaid

variable {t t' : List Char} {p : Char → Bool}

/-- A text is the same as itself. -/
theorem refl (t : List Char) : Relaid t t := by
  induction t with
  | nil => exact .ending .nil .nil
  | cons c t ih => exact .char c ih

/-- The same text may stand in front. -/
theorem append_left (h : Relaid t t') (front : List Char) : Relaid (front ++ t) (front ++ t') := by
  induction front with
  | nil => exact h
  | cons c front ih => exact .char c ih

/-- Where a line ends more white space may stand. -/
theorem white_append {w w' : List Char} (hw : IsWhite w) (hw' : IsWhite w') (h : Relaid t t')
    (head : t.head?.all (· == '\n') = true) : Relaid (w ++ t) (w' ++ t') := by
  cases h with
  | ending ht ht' => exact .ending (hw.append ht) (hw'.append ht')
  | char c h =>
    have feed : c = '\n' := by simpa using head
    subst feed
    have both := h.lineBreak (hw.append .newline) (hw'.append .newline) (by simp) (by simp)
    simpa only [List.append_assoc, List.singleton_append] using both
  | lineBreak hv hv' feed feed' h =>
    have both := h.lineBreak (hw.append hv) (hw'.append hv') (by simp [feed]) (by simp [feed'])
    simpa only [List.append_assoc] using both

/-! ### First characters -/

/-- Relaid texts begin with the same character or both with white space, if they begin. -/
theorem cases_head (h : Relaid t t') :
    (∃ c r r', isWhiteSpace c = false ∧ t = c :: r ∧ t' = c :: r' ∧ Relaid r r') ∨
      (WhiteLed t ∧ WhiteLed t') := by
  cases h with
  | ending hw hw' => exact .inr ⟨hw.whiteLed, hw'.whiteLed⟩
  | @char c r r' h =>
    cases white : isWhiteSpace c with
    | false => exact .inl ⟨c, r, r', white, rfl, rfl, h⟩
    | true => exact .inr ⟨white, white⟩
  | lineBreak hw hw' feed feed' h =>
    exact .inr ⟨hw.whiteLed_append feed _, hw'.whiteLed_append feed' _⟩

/-- A first character that is no white space is the first character of the other text, too. -/
theorem exists_cons {c : Char} {r : List Char} (h : Relaid (c :: r) t')
    (hc : isWhiteSpace c = false) : ∃ r', t' = c :: r' ∧ Relaid r r' := by
  rcases h.cases_head with ⟨d, s, s', -, same, rfl, rest⟩ | ⟨white, -⟩
  · cases same
    exact ⟨s', rfl, rest⟩
  · rw [WhiteLed, List.head?_cons, Option.all_some, hc] at white
    cases white

/-- Whether a text begins with a character of a class without white space is kept. -/
theorem any_head?_eq (h : Relaid t t') (hp : ∀ c, isWhiteSpace c = true → p c = false) :
    t.head?.any p = t'.head?.any p := by
  rcases h.cases_head with ⟨c, r, r', -, rfl, rfl, -⟩ | ⟨white, white'⟩
  · rfl
  · rw [white.any_head? hp, white'.any_head? hp]

/-- Relaid texts begin both with a given character that is no white space or both do not. -/
theorem cases_char (h : Relaid t t') {d : Char} (hd : isWhiteSpace d = false) :
    (∃ r r', t = d :: r ∧ t' = d :: r' ∧ Relaid r r') ∨
      (t.head?.any (· == d) = false ∧ t'.head?.any (· == d) = false) := by
  cases first : t.head?.any (· == d) with
  | false =>
    exact .inr ⟨rfl, h.any_head?_eq (fun c white => beq_of_isWhiteSpace hd white) ▸ first⟩
  | true =>
    cases t with
    | nil => cases first
    | cons c r =>
      obtain rfl : c = d := by simpa using first
      obtain ⟨r', rfl, rest⟩ := h.exists_cons hd
      exact .inl ⟨r, r', rfl, rfl, rest⟩

/-! ### Runs that stop at line feeds -/

/-- Dropping a run that stops at line feeds leaves relaid rests. -/
theorem dropWhile_stop (h : Relaid t t') (hp : p '\n' = false) :
    Relaid (t.dropWhile p) (t'.dropWhile p) := by
  induction h with
  | ending hw hw' => exact .ending (hw.dropWhile p) (hw'.dropWhile p)
  | char c h ih =>
    cases hc : p c with
    | false =>
      rw [List.dropWhile_cons_of_neg (by simp [hc]), List.dropWhile_cons_of_neg (by simp [hc])]
      exact .char c h
    | true =>
      rw [List.dropWhile_cons_of_pos hc, List.dropWhile_cons_of_pos hc]
      exact ih
  | @lineBreak w w' r r' hw hw' feed feed' h =>
    obtain ⟨left, stays⟩ := dropWhile_append_of_mem hp feed r
    obtain ⟨left', stays'⟩ := dropWhile_append_of_mem hp feed' r'
    rw [left, left']
    exact h.lineBreak (hw.dropWhile p) (hw'.dropWhile p) stays stays'

/-- Relaid texts of which the same characters have been passed over, with what is left of them. -/
structure Passed (used t t' s s' : List Char) : Prop where
  /-- The first text is what has been passed over and what is left of it. -/
  first : t = used ++ s
  /-- So is the second one. -/
  second : t' = used ++ s'
  /-- What is left is relaid. -/
  rest : Relaid s s'

namespace Passed

variable {used more s s' r r' : List Char}

/-- Nothing has been passed over yet. -/
theorem start (h : Relaid t t') : Passed [] t t' t t' := ⟨rfl, rfl, h⟩

/-- What has been passed over in two steps has been passed over. -/
theorem trans (h : Passed used t t' s s') (h' : Passed more s s' r r') :
    Passed (used ++ more) t t' r r' :=
  ⟨by rw [h.first, h'.first, List.append_assoc], by rw [h.second, h'.second, List.append_assoc],
    h'.rest⟩

/-- A character that is left on both sides may be passed over. -/
theorem next {c : Char} (h : Passed used t t' (c :: s) (c :: s')) (rest : Relaid s s') :
    Passed (used ++ [c]) t t' s s' :=
  h.trans ⟨rfl, rfl, rest⟩

end Passed

/-- Dropping a run that stops at line feeds passes over the same characters of both texts, or ends
at white space in both. -/
theorem dropWhile_passed (h : Relaid t t') (hp : p '\n' = false) :
    (∃ used, (∀ c ∈ used, p c = true) ∧ Passed used t t' (t.dropWhile p) (t'.dropWhile p)) ∨
      (WhiteLed (t.dropWhile p) ∧ WhiteLed (t'.dropWhile p)) := by
  induction h with
  | ending hw hw' => exact .inr ⟨(hw.dropWhile p).whiteLed, (hw'.dropWhile p).whiteLed⟩
  | char c h ih =>
    cases hc : p c with
    | false =>
      rw [List.dropWhile_cons_of_neg (by simp [hc]), List.dropWhile_cons_of_neg (by simp [hc])]
      exact .inl ⟨[], by simp, rfl, rfl, .char c h⟩
    | true =>
      rw [List.dropWhile_cons_of_pos hc, List.dropWhile_cons_of_pos hc]
      rcases ih with ⟨used, all, passed⟩ | white
      · refine .inl ⟨c :: used, ?_, congrArg (c :: ·) passed.first, congrArg (c :: ·) passed.second,
          passed.rest⟩
        exact List.forall_mem_cons.mpr ⟨hc, all⟩
      · exact .inr white
  | @lineBreak w w' r r' hw hw' feed feed' h =>
    obtain ⟨left, stays⟩ := dropWhile_append_of_mem hp feed r
    obtain ⟨left', stays'⟩ := dropWhile_append_of_mem hp feed' r'
    rw [left, left']
    exact .inr ⟨(hw.dropWhile p).whiteLed_append stays _, (hw'.dropWhile p).whiteLed_append stays' _⟩

/-- Dropping blanks leaves relaid rests. -/
theorem dropBlanks (h : Relaid t t') : Relaid (Text.dropBlanks t) (Text.dropBlanks t') :=
  h.dropWhile_stop isBlank_newline

/-- Of relaid texts the same blanks are dropped, or white space is reached in both. -/
theorem dropBlanks_passed (h : Relaid t t') :
    (∃ used, (∀ c ∈ used, isBlank c = true) ∧
      Passed used t t' (Text.dropBlanks t) (Text.dropBlanks t')) ∨
        (WhiteLed (Text.dropBlanks t) ∧ WhiteLed (Text.dropBlanks t')) :=
  h.dropWhile_passed isBlank_newline

/-- Runs that stop at line feeds are the same but for white space at their ends. -/
theorem takeWhile_stop (h : Relaid t t') (hp : p '\n' = false) :
    EndsAlike (t.takeWhile p) (t'.takeWhile p) := by
  induction h with
  | ending hw hw' => exact .of_white (hw.takeWhile p) (hw'.takeWhile p)
  | char c h ih =>
    cases hc : p c with
    | false =>
      rw [List.takeWhile_cons_of_neg (by simp [hc]), List.takeWhile_cons_of_neg (by simp [hc])]
      exact .of_white .nil .nil
    | true =>
      rw [List.takeWhile_cons_of_pos hc, List.takeWhile_cons_of_pos hc]
      exact ih.cons c
  | lineBreak hw hw' feed feed' h =>
    rw [takeWhile_append_of_mem hp feed, takeWhile_append_of_mem hp feed']
    exact .of_white (hw.takeWhile p) (hw'.takeWhile p)

/-! ### Runs that stop at white space -/

/-- Runs without white space are the same. -/
theorem takeWhile_eq (h : Relaid t t') (hp : ∀ c, isWhiteSpace c = true → p c = false) :
    t.takeWhile p = t'.takeWhile p := by
  have none : ∀ {text : List Char}, WhiteLed text → text.takeWhile p = [] := by
    intro text white
    cases text with
    | nil => rfl
    | cons c rest => exact List.takeWhile_cons_of_neg (by simp [hp c white])
  induction h with
  | ending hw hw' => rw [none hw.whiteLed, none hw'.whiteLed]
  | char c h ih =>
    cases hc : p c with
    | false =>
      rw [List.takeWhile_cons_of_neg (by simp [hc]), List.takeWhile_cons_of_neg (by simp [hc])]
    | true => rw [List.takeWhile_cons_of_pos hc, List.takeWhile_cons_of_pos hc, ih]
  | lineBreak hw hw' feed feed' h =>
    rw [none (hw.whiteLed_append feed _), none (hw'.whiteLed_append feed' _)]

/-! ### Runs that pass over white space -/

/-- Dropping a run that passes over white space leaves relaid rests. -/
theorem dropWhile_pass (h : Relaid t t') (hp : ∀ c, isWhiteSpace c = true → p c = true) :
    Relaid (t.dropWhile p) (t'.dropWhile p) := by
  induction h with
  | ending hw hw' =>
    rw [dropWhile_eq_nil fun c hc => hp c (hw c hc), dropWhile_eq_nil fun c hc => hp c (hw' c hc)]
    exact .ending .nil .nil
  | char c h ih =>
    cases hc : p c with
    | false =>
      rw [List.dropWhile_cons_of_neg (by simp [hc]), List.dropWhile_cons_of_neg (by simp [hc])]
      exact .char c h
    | true =>
      rw [List.dropWhile_cons_of_pos hc, List.dropWhile_cons_of_pos hc]
      exact ih
  | lineBreak hw hw' feed feed' h ih =>
    rw [List.dropWhile_append_of_pos fun c hc => hp c (hw c hc),
      List.dropWhile_append_of_pos fun c hc => hp c (hw' c hc)]
    exact ih

/-- Runs that pass over white space are relaid. -/
theorem takeWhile_pass (h : Relaid t t') (hp : ∀ c, isWhiteSpace c = true → p c = true) :
    Relaid (t.takeWhile p) (t'.takeWhile p) := by
  induction h with
  | ending hw hw' =>
    rw [takeWhile_eq_self fun c hc => hp c (hw c hc), takeWhile_eq_self fun c hc => hp c (hw' c hc)]
    exact .ending hw hw'
  | char c h ih =>
    cases hc : p c with
    | false =>
      rw [List.takeWhile_cons_of_neg (by simp [hc]), List.takeWhile_cons_of_neg (by simp [hc])]
      exact .ending .nil .nil
    | true =>
      rw [List.takeWhile_cons_of_pos hc, List.takeWhile_cons_of_pos hc]
      exact .char c ih
  | lineBreak hw hw' feed feed' h ih =>
    rw [List.takeWhile_append_of_pos fun c hc => hp c (hw c hc),
      List.takeWhile_append_of_pos fun c hc => hp c (hw' c hc)]
    exact ih.lineBreak hw hw' feed feed'

/-- The same word is read of relaid texts. -/
theorem readWord? (h : Relaid t t') :
    (Text.readWord? t = none ∧ Text.readWord? t' = none) ∨
      ∃ word s s', Text.readWord? t = some (word, s) ∧ Text.readWord? t' = some (word, s') ∧
        Passed word t t' s s' := by
  have run : wordRun t = wordRun t' := h.takeWhile_eq fun _ => isWord_of_isWhiteSpace
  have rest : Relaid (afterWord t) (afterWord t') := h.dropWhile_stop isWord_newline
  unfold Text.readWord?
  rw [← run]
  cases first : wordRun t with
  | nil => exact .inl ⟨rfl, rfl⟩
  | cons c word =>
    have whole := wordRun_append_afterWord t
    have whole' := wordRun_append_afterWord t'
    rw [first] at whole
    rw [← run, first] at whole'
    exact .inr ⟨_, _, _, rfl, rfl, whole.symm, whole'.symm, rest⟩

/-- Relaid texts that begin with a word character begin with the same word. -/
theorem exists_readWord? (h : Relaid t t') (letter : t.head?.any isWord = true) :
    ∃ word s s', Text.readWord? t = some (word, s) ∧ Text.readWord? t' = some (word, s') ∧
      Passed word t t' s s' := by
  rcases h.readWord? with ⟨none, -⟩ | both
  · obtain ⟨word, rest, read⟩ := Text.exists_readWord? letter
    rw [none] at read
    cases read
  · exact both

/-- Relaid texts begin both with a given word without white space or both do not. -/
theorem isPrefixOf? {word : List Char} (hw : ∀ c ∈ word, isWhiteSpace c = false)
    (h : Relaid t t') :
    (word.isPrefixOf? t = none ∧ word.isPrefixOf? t' = none) ∨
      ∃ s s', word.isPrefixOf? t = some s ∧ word.isPrefixOf? t' = some s' ∧
        Passed word t t' s s' := by
  induction word generalizing t t' with
  | nil => exact .inr ⟨t, t', rfl, rfl, .start h⟩
  | cons c word ih =>
    obtain ⟨hc, later⟩ := List.forall_mem_cons.mp hw
    rcases h.cases_char hc with ⟨r, r', rfl, rfl, rest⟩ | ⟨other, other'⟩
    · simp only [List.isPrefixOf?, beq_self_eq_true, if_true]
      rcases ih later rest with none | ⟨s, s', hs, hs', passed⟩
      · exact .inl none
      · exact .inr ⟨s, s', hs, hs', ((Passed.start h).next rest).trans passed⟩
    · exact .inl ⟨isPrefixOf?_of_head other, isPrefixOf?_of_head other'⟩

end Relaid

/-! ## Reading in lockstep -/

section scan

variable {α : Type} {read : List Char → Option (α × List Char)}

/-- A reader that finds something in both of two relaid texts or in none, and leaves relaid rests. -/
def LayoutFree (read : List Char → Option (α × List Char)) : Prop :=
  ∀ {t t' : List Char}, Relaid t t' →
    (read t = none ∧ read t' = none) ∨
      ∃ a a' left left', read t = some (a, left) ∧ read t' = some (a', left') ∧ Relaid left left'

/-- A relation between scans holds of the scans of two relaid texts if it is kept by what the scans
can differ in: white space where a line ends, and corresponding finds. -/
theorem Relaid.scan {S : List (Segment α) → List (Segment α) → Prop} (hr : WordLed read)
    (he : EndsWord read) (hl : LayoutFree read)
    (white : ∀ {w w' : List Char}, IsWhite w → IsWhite w' → S (w.map .plain) (w'.map .plain))
    (char : ∀ (c : Char) {s s' : List (Segment α)}, S s s' → S (.plain c :: s) (.plain c :: s'))
    (lineBreak : ∀ {w w' : List Char} {s s' : List (Segment α)}, IsWhite w → IsWhite w' →
      '\n' ∈ w → '\n' ∈ w' → S s s' → S (w.map .plain ++ s) (w'.map .plain ++ s'))
    (found : ∀ {t t' left left' : List Char} {a a' : α}, Relaid t t' → read t = some (a, left) →
      read t' = some (a', left') →
        S (segments (atWordStart read) left) (segments (atWordStart read) left') →
          S (.found a :: segments (atWordStart read) left)
            (.found a' :: segments (atWordStart read) left'))
    {t t' : List Char} (h : Relaid t t') :
    S (segments (atWordStart read) t) (segments (atWordStart read) t') := by
  -- The induction is on the length of the text, for a find may end anywhere in the derivation.
  induction size : t.length using Nat.strong_induction_on generalizing t t' with
  | _ n ih =>
    subst size
    have run : ∀ (word : List Char) {s s' : List (Segment α)}, S s s' →
        S (word.map .plain ++ s) (word.map .plain ++ s') := by
      intro word s s' hs
      induction word with
      | nil => exact hs
      | cons c word ih => exact char c ih
    cases h with
    | ending hw hw' =>
      rw [segments_of_gap hr hw.isWord, segments_of_gap hr hw'.isWord]
      exact white hw hw'
    | @lineBreak w w' r r' hw hw' feed feed' h =>
      have shorter : r.length < (w ++ r).length := by
        have some_white := List.length_pos_of_mem feed
        rw [List.length_append]
        omega
      rw [segments_gap hr hw.isWord, segments_gap hr hw'.isWord]
      exact lineBreak hw hw' feed feed' (ih _ shorter h rfl)
    | @char c r r' h =>
      have whole : Relaid (c :: r) (c :: r') := .char c h
      cases letter : isWord c with
      | false =>
        rw [segments_cons hr letter, segments_cons hr letter]
        exact char c (ih _ (by simp) h rfl)
      | true =>
        rcases hl whole with ⟨here, here'⟩ | ⟨a, a', left, left', here, here', rest⟩
        · obtain ⟨word, s, s', hs, hs', passed⟩ := whole.exists_readWord? letter
          have name : IsName word := isName_of_readWord? hs
          have shorter : s.length < (c :: r).length := consumes_readWord?.length_lt hs
          rw [passed.first] at here shorter
          rw [passed.second] at here'
          rw [passed.first, passed.second,
            segments_word hr name (any_head?_of_readWord? hs) here,
            segments_word hr name (any_head?_of_readWord? hs') here']
          exact run word (ih _ (passed.first ▸ shorter) passed.rest rfl)
        · rw [segments_found hr he here, segments_found hr he here']
          exact found whole here here' (ih _ (Consumes.length_lt he.consumes here) rest rfl)

/-- What is found in relaid texts is the same in every respect in which the finds of a reader
correspond. -/
theorem Relaid.map_finds_eq {β : Type} {f : α → β} (hr : WordLed read) (he : EndsWord read)
    (hl : LayoutFree read)
    (same : ∀ {t t' left left' : List Char} {a a' : α}, Relaid t t' → read t = some (a, left) →
      read t' = some (a', left') → f a = f a')
    {t t' : List Char} (h : Relaid t t') :
    (finds (atWordStart read) t).map f = (finds (atWordStart read) t').map f := by
  refine h.scan (S := fun s s' => (s.filterMap Segment.found?).map f =
    (s'.filterMap Segment.found?).map f) hr he hl ?_ ?_ ?_ ?_
  · intro w w' _ _
    rw [filterMap_found?_map_plain, filterMap_found?_map_plain]
  · intro c s s' rest
    exact rest
  · intro w w' s s' _ _ _ _ rest
    simp only [List.filterMap_append, filterMap_found?_map_plain, List.nil_append, rest]
  · intro t t' left left' a a' relaid read read' rest
    simp only [List.filterMap_cons, Segment.found?, List.map_cons, same relaid read read', rest]

end scan

end DiagramDiff.Text
