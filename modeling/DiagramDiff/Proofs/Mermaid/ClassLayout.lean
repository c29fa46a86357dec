import DiagramDiff.Proofs.Mermaid.Declarations
import DiagramDiff.Proofs.Mermaid.Entries
import DiagramDiff.Proofs.Text.Layout

/-!
# Classes of relaid texts

Relaid texts declare the same classes (`declaredClasses_relaid`), although a body, and the brace in
front of it, may stand on lines of their own. A declaration is read of relaid texts with the same
name and with relaid bodies (`readDeclaration?_relaid`), and relaid bodies have the same entries
(`entries_relaid`): a line feed closes whatever is open, so it does not matter how many there are,
and the white space next to it is trimmed off the entries.
-/

namespace DiagramDiff.Mermaid

open Text
open Relaid (Passed)

variable {t t' : List Char}

/-! ## Entries -/

/-- White space is no name letter. -/
theorem isNameLetter_of_isWhiteSpace {c : Char} (h : isWhiteSpace c = true) :
    isNameLetter c = false := by
  by_contra letter
  rw [isWhiteSpace_of_isNameLetter (by simpa using letter)] at h
  cases h

/-- White space on a line passes everywhere. -/
theorem Nesting.passes_of_isWhiteSpace {c : Char} (h : isWhiteSpace c = true) (hc : c ≠ '\n')
    (n : Nesting) : n.Passes c := by
  have other : ∀ {d : Char}, isWhiteSpace d = false → c ≠ d :=
    fun dark => beq_eq_false_iff_ne.mp (beq_of_isWhiteSpace dark h)
  refine ⟨other (by decide), other (by decide), other (by decide), ?_⟩
  have comma : c ≠ ',' := other (by decide)
  have semicolon : c ≠ ';' := other (by decide)
  simp [Nesting.cutsAt, hc, comma, semicolon]

/-- The entries that some pieces of a body give. -/
def entriesOf (pieces : List (List Char)) : List (List Char) :=
  (pieces.map trim).filter fun entry => !entry.isEmpty && !isComment entry

/-- The entries of a body are given by its pieces. -/
theorem entries_eq_entriesOf (body : List Char) : entries body = entriesOf (cut body) := rfl

/-- The entries of pieces in a row are those of the pieces. -/
theorem entriesOf_append (pieces others : List (List Char)) :
    entriesOf (pieces ++ others) = entriesOf pieces ++ entriesOf others := by
  simp only [entriesOf, List.map_append, List.filter_append]

/-- A first piece matters only once it is trimmed. -/
theorem entriesOf_cons_congr {piece other : List Char} (h : trim piece = trim other)
    {pieces others : List (List Char)} (rest : entriesOf pieces = entriesOf others) :
    entriesOf (piece :: pieces) = entriesOf (other :: others) := by
  unfold entriesOf at rest ⊢
  rw [List.map_cons, List.map_cons, List.filter_cons, List.filter_cons, h, rest]

/-- Blank pieces give no entries. -/
theorem entriesOf_white {pieces : List (List Char)} (h : ∀ piece ∈ pieces, IsWhite piece) :
    entriesOf pieces = [] := by
  refine List.filter_eq_nil_iff.mpr fun entry he => ?_
  obtain ⟨piece, hp, rfl⟩ := List.mem_map.mp he
  have blank : trim piece = trim [] := (EndsAlike.of_white (h piece hp) .nil).trim_eq
  simp [blank]

/-- White space in front of a body gives no entries. -/
theorem entries_white_append {w : List Char} (hw : IsWhite w) (body : List Char) :
    entries (w ++ body) = entries body := by
  induction w with
  | nil => rfl
  | cons c w ih =>
    obtain ⟨white, later⟩ := List.forall_mem_cons.mp hw
    rw [List.cons_append]
    by_cases feed : c = '\n'
    · subst feed
      have line := entries_line [] (w ++ body)
      rw [List.nil_append] at line
      rw [line, ih later]
      rfl
    · have passes := Nesting.passes_of_isWhiteSpace white feed .none
      have beside : Nesting.besideLetter (some c) = Nesting.besideLetter none :=
        isNameLetter_of_isWhiteSpace white
      have pieces : cut (c :: (w ++ body)) = (cut (w ++ body)).modifyHead (c :: ·) := by
        simp only [cut, cutFrom, passes.step, passes.not_cuts, cutFrom_congr beside]
        rfl
      rw [← ih later, entries_eq_entriesOf, entries_eq_entriesOf, pieces]
      cases first : cut (w ++ body) with
      | nil => rfl
      | cons piece others =>
        have space : ∀ d ∈ [c], isWhiteSpace d = true := fun d hd => List.mem_singleton.mp hd ▸ white
        have same : trim (c :: piece) = trim piece := by
          have surround := trimOf_surround space IsWhite.nil piece
          rwa [List.append_nil] at surround
        exact entriesOf_cons_congr same rfl

/-- White space is cut into blank pieces. -/
theorem cutFrom_white {w : List Char} (hw : IsWhite w) (n : Nesting) (before : Option Char) :
    ∃ piece pieces, cutFrom n before w = piece :: pieces ∧ IsWhite piece ∧
      entriesOf pieces = [] := by
  have blank : ∀ piece ∈ cutFrom n before w, IsWhite piece :=
    fun _ hp _ hc => hw _ (mem_of_mem_cutFrom hp hc).1
  obtain ⟨piece, pieces, parts⟩ := List.exists_cons_of_ne_nil (cutFrom_ne_nil n before w)
  rw [parts] at blank
  obtain ⟨hp, later⟩ := List.forall_mem_cons.mp blank
  exact ⟨piece, pieces, parts, hp, entriesOf_white later⟩

/-- White space with a line feed ends the piece it stands in and gives no entries. -/
theorem cutFrom_lineBreak {w : List Char} (hw : IsWhite w) (feed : '\n' ∈ w) (n : Nesting)
    (before : Option Char) (body : List Char) :
    ∃ piece pieces, cutFrom n before (w ++ body) = piece :: pieces ∧ IsWhite piece ∧
      entriesOf pieces = entries body := by
  obtain ⟨front, back, rfl⟩ := List.append_of_mem feed
  have hf : IsWhite front := hw.of_subset (List.subset_append_left _ _)
  have hb : IsWhite back :=
    hw.of_subset (List.Subset.trans (List.subset_cons_self _ _) (List.subset_append_right _ _))
  obtain ⟨piece, pieces, first, hp, none⟩ := cutFrom_white hf n before
  rw [List.append_assoc, List.cons_append, cutFrom_line, first]
  refine ⟨piece, pieces ++ cut (back ++ body), rfl, hp, ?_⟩
  rw [entriesOf_append, none, List.nil_append, ← entries_eq_entriesOf, entries_white_append hb]

/-- Two bodies are cut into first pieces that are the same but for white space at their ends, and
further pieces that give the same entries. -/
def CutAlike (n : Nesting) (before : Option Char) (body other : List Char) : Prop :=
  ∃ piece pieces piece' pieces', cutFrom n before body = piece :: pieces ∧
    cutFrom n before other = piece' :: pieces' ∧ EndsAlike piece piece' ∧
      entriesOf pieces = entriesOf pieces'

/-- Bodies that are cut alike have the same entries. -/
theorem CutAlike.entries_eq {body other : List Char} (h : CutAlike .none none body other) :
    entries body = entries other := by
  obtain ⟨_, _, _, _, whole, whole', alike, same⟩ := h
  rw [entries_eq_entriesOf, entries_eq_entriesOf, cut, cut, whole, whole']
  exact entriesOf_cons_congr alike.trim_eq same

/-- Relaid bodies are cut alike, wherever the cutting starts. -/
theorem cutFrom_relaid (h : Relaid t t') (n : Nesting) (before : Option Char) :
    CutAlike n before t t' := by
  induction h generalizing n before with
  | ending hw hw' =>
    obtain ⟨piece, pieces, first, hp, none⟩ := cutFrom_white hw n before
    obtain ⟨piece', pieces', second, hp', none'⟩ := cutFrom_white hw' n before
    exact ⟨piece, pieces, piece', pieces', first, second, .of_white hp hp', none.trans none'.symm⟩
  | @char c r r' rest ih =>
    have letter : ∀ text : List Char,
        Nesting.besideLetter text.head? = text.head?.any isNameLetter := by
      intro text
      cases text <;> rfl
    have beside : Nesting.besideLetter r.head? = Nesting.besideLetter r'.head? := by
      rw [letter, letter, rest.any_head?_eq fun _ => isNameLetter_of_isWhiteSpace]
    have step : n.step before r.head? c = n.step before r'.head? c := by
      simp only [Nesting.step, beside]
    obtain ⟨piece, pieces, piece', pieces', first, second, alike, same⟩ :=
      ih (n.step before r'.head? c) (some c)
    simp only [CutAlike, cutFrom, step, first, second]
    by_cases cuts : n.cutsAt c = true
    · simp only [cuts, if_true]
      exact ⟨_, _, _, _, rfl, rfl, .of_white .nil .nil, entriesOf_cons_congr alike.trim_eq same⟩
    · simp only [cuts]
      exact ⟨_, _, _, _, rfl, rfl, alike.cons c, same⟩
  | @lineBreak w w' r r' hw hw' feed feed' rest ih =>
    obtain ⟨piece, pieces, first, hp, behind⟩ := cutFrom_lineBreak hw feed n before r
    obtain ⟨piece', pieces', second, hp', behind'⟩ := cutFrom_lineBreak hw' feed' n before r'
    have same : entries r = entries r' := CutAlike.entries_eq (ih .none none)
    exact ⟨piece, pieces, piece', pieces', first, second, .of_white hp hp',
      behind.trans (same.trans behind'.symm)⟩

/-- Relaid bodies have the same entries. -/
theorem entries_relaid (h : Relaid t t') : entries t = entries t' :=
  (cutFrom_relaid h .none none).entries_eq

/-! ## Declarations -/

/-- A class depends on the entries of its body only. -/
theorem classOfBody_congr {body other : List Char} (h : entries body = entries other)
    (name : String) : classOfBody name body = classOfBody name other := by
  simp only [classOfBody, bodyProperties, bodyMethods, bodyAnnotations, bodyMembers, h]

/-- Of relaid texts the same type arguments are skipped. -/
theorem skipTypeArguments_relaid (h : Relaid t t') :
    Relaid (skipTypeArguments t) (skipTypeArguments t') := by
  rcases h.cases_char (d := '~') (by decide) with ⟨r, r', rfl, rfl, rest⟩ | ⟨other, other'⟩
  · have inner := rest.dropWhile_stop (p := fun c => c != '~' && c != '\n') (by decide)
    rcases inner.cases_char (d := '~') (by decide) with
      ⟨after, after', left, left', behind⟩ | ⟨open_, open_'⟩
    · rw [skipTypeArguments_closed left, skipTypeArguments_closed left']
      exact behind
    · rw [skipTypeArguments_open open_, skipTypeArguments_open open_']
      exact h
  · rw [skipTypeArguments_of_head other, skipTypeArguments_of_head other']
    exact h

/-- Of relaid texts relaid bodies are read. -/
theorem readBody?_relaid (h : Relaid t t') :
    (readBody? t = none ∧ readBody? t' = none) ∨
      ∃ body body' left left', readBody? t = some (body, left) ∧
        readBody? t' = some (body', left') ∧ Relaid body body' ∧ Relaid left left' := by
  have start : Relaid (trimStart t) (trimStart t') := h.dropWhile_pass fun _ white => white
  rcases start.cases_char (d := '{') (by decide) with ⟨r, r', brace, brace', rest⟩ | ⟨other, other'⟩
  · have pass : ∀ c, isWhiteSpace c = true → (c != '}') = true := by
      intro c white
      rw [bne, beq_of_isWhiteSpace (by decide) white]
      rfl
    have ended : ∀ {text : List Char},
        (text.dropWhile (· != '}')).head?.any (· == '}') = false → text.dropWhile (· != '}') = [] := by
      intro text other
      have stop := any_head?_dropWhile (· != '}') text
      cases left : text.dropWhile (· != '}') with
      | nil => rfl
      | cons c after =>
        rw [left] at other stop
        obtain rfl : c = '}' := by simpa using stop
        cases other
    rcases (rest.dropWhile_pass pass).cases_char (d := '}') (by decide) with
      ⟨after, after', left, left', behind⟩ | ⟨open_, open_'⟩
    · exact .inr ⟨_, _, _, _, readBody?_closed brace left, readBody?_closed brace' left',
        rest.takeWhile_pass pass, behind⟩
    · exact .inl ⟨readBody?_open brace (ended open_), readBody?_open brace' (ended open_')⟩
  · exact .inl ⟨readBody?_of_head other, readBody?_of_head other'⟩

/-- Of relaid texts declarations of the same class are read. -/
theorem readDeclaration?_relaid (h : Relaid t t') :
    (readDeclaration? t = none ∧ readDeclaration? t' = none) ∨
      ∃ d d' left left', readDeclaration? t = some (d, left) ∧
        readDeclaration? t' = some (d', left') ∧ d.classNode = d'.classNode ∧
          Relaid left left' := by
  have dark : ∀ c ∈ "class".toList, isWhiteSpace c = false := forall_mem_of_all (by decide)
  unfold readDeclaration?
  rcases h.isPrefixOf? dark with
    ⟨none, none'⟩ | ⟨s, s', hs, hs', keyword⟩
  · rw [none, none']
    exact .inl ⟨rfl, rfl⟩
  · rw [hs, hs']
    rcases keyword.rest.dropBlanks_passed with ⟨blanks, hb, passed⟩ | ⟨white, white'⟩
    · have apart : s.head?.any isBlank = s'.head?.any isBlank := by
        cases blanks with
        | nil =>
          have first : s = dropBlanks s := passed.first
          have second : s' = dropBlanks s' := passed.second
          rw [first, second, dropBlanks, dropBlanks, any_head?_dropWhile, any_head?_dropWhile]
        | cons c blanks => rw [passed.first, passed.second, List.cons_append, List.cons_append,
            List.head?_cons, List.head?_cons]
      simp only [apart]
      split
      · rcases passed.rest.readWord? with ⟨none, none'⟩ | ⟨name, after, after', word, word', more⟩
        · simp only [none, none', and_self, true_or]
        · simp only [word, word']
          have behind := skipTypeArguments_relaid more.rest
          rcases readBody?_relaid behind with
            ⟨none, none'⟩ | ⟨body, body', left, left', read, read', bodies, rest⟩
          · simp only [none, none']
            exact .inr ⟨_, _, _, _, rfl, rfl, rfl, behind⟩
          · simp only [read, read']
            exact .inr ⟨_, _, _, _, rfl, rfl, classOfBody_congr (entries_relaid bodies) _, rest⟩
      · exact .inl ⟨rfl, rfl⟩
    · have none : ∀ {text : List Char}, WhiteLed text → readWord? text = none :=
        fun white => readWord?_eq_none (white.any_head? fun _ => isWord_of_isWhiteSpace)
      simp only [none white, none white', ite_self, and_self, true_or]

/-- Declarations are found in both of two relaid texts or in none. -/
theorem layoutFree_readDeclaration? : LayoutFree readDeclaration? := by
  intro t t' h
  rcases readDeclaration?_relaid h with none | ⟨d, d', left, left', read, read', -, rest⟩
  · exact .inl none
  · exact .inr ⟨d, d', left, left', read, read', rest⟩

/-- Declarations that are read of relaid texts declare the same class. -/
theorem classNode_relaid {left left' : List Char} {d d' : Declaration} (h : Relaid t t')
    (read : readDeclaration? t = some (d, left)) (read' : readDeclaration? t' = some (d', left')) :
    d.classNode = d'.classNode := by
  rcases readDeclaration?_relaid h with ⟨none, -⟩ | ⟨e, e', _, _, re, re', same, -⟩
  · rw [none] at read
    cases read
  · cases re.symm.trans read
    cases re'.symm.trans read'
    exact same

/-- Relaid texts declare the same classes. -/
theorem declaredClasses_relaid (h : Relaid t t') : declaredClasses t = declaredClasses t' := by
  have nodes : (declarations t).map Declaration.classNode =
      (declarations t').map Declaration.classNode :=
    h.map_finds_eq wordLed_readDeclaration? endsWord_readDeclaration? layoutFree_readDeclaration?
      classNode_relaid
  rw [declaredClasses, declaredClasses, nodes]

end DiagramDiff.Mermaid
