import DiagramDiff.Mermaid.Reader
import DiagramDiff.Proofs.Mermaid.Declarations
import DiagramDiff.Proofs.Mermaid.ReadClasses
import DiagramDiff.Proofs.Mermaid.TagLines
import Mathlib.Data.List.Infix

/-!
# Texts one after the other

Links, comments, labels and annotations are read line by line, so of two texts one after the other
they are read one after the other, and nothing on one line has a part in the links of another
(`links_by_line`). Declarations are not: a body spans lines, and a brace left open
in the first text takes what it needs from the second. Where every brace of the first text is closed
and the second one does not begin with a brace, declarations too are read one after the other
(`declarations_append`), and if the texts share no class nothing is merged across them
(`declaredClasses_append`).
-/

namespace DiagramDiff.Mermaid

open Text

/-! ## Braces -/

/-- Every opening brace of a text is followed by a closing one. -/
def BracesClosed (text : List Char) : Prop :=
  ∀ tail ∈ text.tails, tail.head? = some '{' → '}' ∈ tail

instance (text : List Char) : Decidable (BracesClosed text) :=
  inferInstanceAs (Decidable (∀ tail ∈ text.tails, tail.head? = some '{' → '}' ∈ tail))

/-- A text that does not begin with a brace, white space aside. -/
def BraceFree (text : List Char) : Prop := (trimStart text).head? ≠ some '{'

instance (text : List Char) : Decidable (BraceFree text) :=
  inferInstanceAs (Decidable ((trimStart text).head? ≠ some '{'))

/-- The braces at the end of a text are closed if all are. -/
theorem BracesClosed.of_suffix {text tail : List Char} (h : BracesClosed text)
    (ht : tail <:+ text) : BracesClosed tail := fun inner hi =>
  h inner ((List.mem_tails _ _).mpr (((List.mem_tails _ _).mp hi).trans ht))

/-- A brace with which a text begins is closed in it. -/
theorem BracesClosed.mem {rest : List Char} (h : BracesClosed ('{' :: rest)) : '}' ∈ rest := by
  have closed : '}' ∈ '{' :: rest :=
    h _ ((List.mem_tails _ _).mpr (List.suffix_refl _)) rfl
  simpa using closed

/-! ## Declarations before a further text -/

variable {text rest : List Char}

/-- Type arguments do not reach beyond a line feed. -/
theorem skipTypeArguments_line (text rest : List Char) :
    skipTypeArguments (text ++ '\n' :: rest) = skipTypeArguments text ++ '\n' :: rest := by
  cases text with
  | nil => rfl
  | cons c text =>
    by_cases tilde : c = '~'
    · subst tilde
      have inner : (text ++ '\n' :: rest).dropWhile (fun c => c != '~' && c != '\n') =
          text.dropWhile (fun c => c != '~' && c != '\n') ++ '\n' :: rest :=
        dropWhile_append_stop (by decide) text rest
      simp only [List.cons_append, skipTypeArguments, inner]
      cases text.dropWhile (fun c => c != '~' && c != '\n') with
      | nil => rfl
      | cons d after =>
        by_cases closing : d = '~'
        · subst closing
          rfl
        · simp [closing]
    · simp [skipTypeArguments, tilde]

/-- A body is read in a text whose braces are closed, and none begins in a further text without a
brace at its start. -/
theorem readBody?_append (closed : BracesClosed text) (free : BraceFree rest) :
    readBody? (text ++ '\n' :: rest) =
      (readBody? text).map fun (body, left) => (body, left ++ '\n' :: rest) := by
  have start : trimStart (text ++ '\n' :: rest) =
      if (trimStart text).isEmpty then trimStart rest else trimStart text ++ '\n' :: rest :=
    List.dropWhile_append
  cases first : trimStart text with
  | nil =>
    rw [first] at start
    have none : readBody? text = none := readBody?_of_head (by rw [first]; rfl)
    rw [none]
    refine readBody?_of_head ?_
    rw [start]
    cases next : trimStart rest with
    | nil => rfl
    | cons c more => simpa [BraceFree, next] using free
  | cons c inner =>
    have longer : trimStart (text ++ '\n' :: rest) = c :: (inner ++ '\n' :: rest) := by
      rw [start, first]
      rfl
    by_cases brace : c = '{'
    · subst brace
      have behind : '{' :: inner <:+ text := first ▸ List.dropWhile_suffix isWhiteSpace
      have stop : ('}' != '}') = false := by decide
      obtain ⟨whole, stays⟩ := dropWhile_append_of_mem (p := (· != '}')) stop
        (closed.of_suffix behind).mem ('\n' :: rest)
      have body := takeWhile_append_of_mem (p := (· != '}')) stop
        (closed.of_suffix behind).mem ('\n' :: rest)
      obtain ⟨d, after, left⟩ := List.exists_cons_of_ne_nil (List.ne_nil_of_mem stays)
      rw [left, List.cons_append] at whole
      rw [readBody?_closed first left, readBody?_closed longer whole, body]
      rfl
    · have other : ∀ {more : List Char}, (c :: more).head?.any (· == '{') = false :=
        by simpa using brace
      rw [readBody?_of_head (longer ▸ other), readBody?_of_head (first ▸ other)]
      rfl

/-- A declaration does not reach into a further text. -/
theorem readDeclaration?_append (closed : BracesClosed text) (free : BraceFree rest) :
    readDeclaration? (text ++ '\n' :: rest) =
      (readDeclaration? text).map fun (d, left) => (d, left ++ '\n' :: rest) := by
  have one : '\n' ∉ "class".toList := by decide
  have keyword := isPrefixOf?_line one text rest
  unfold readDeclaration?
  rw [keyword]
  cases found : "class".toList.isPrefixOf? text with
  | none => rfl
  | some after =>
    have behind : after <:+ text := ⟨_, List.append_eq_of_isPrefixOf?_eq_some found⟩
    have apart : (after ++ '\n' :: rest).head?.any isBlank = after.head?.any isBlank := by
      cases after <;> rfl
    simp only [Option.map_some, apart, dropBlanks_line, keepsToLine_readWord? _ rest]
    split
    · cases word : readWord? (dropBlanks after) with
      | none => rfl
      | some result =>
        obtain ⟨name, left⟩ := result
        have tail : skipTypeArguments left <:+ text :=
          (((skipTypeArguments_suffix left).trans (readWord?_suffix word)).trans
            (List.dropWhile_suffix isBlank)).trans behind
        simp only [Option.map_some, skipTypeArguments_line,
          readBody?_append (closed.of_suffix tail) free]
        cases readBody? (skipTypeArguments left) with
        | none => rfl
        | some result => rfl
    · rfl

/-- The declarations of two texts are those of the first one and those of the second one. -/
theorem declarations_append (closed : BracesClosed text) (free : BraceFree rest) :
    declarations (text ++ '\n' :: rest) = declarations text ++ declarations rest := by
  induction text using scan_induction endsWord_readDeclaration? with
  | nil => exact declarations_cons isWord_newline rest
  | gap c after hc ih =>
    rw [List.cons_append, declarations_cons hc, declarations_cons hc]
    exact ih (closed.of_suffix (List.suffix_cons _ _))
  | word word after hw hafter none ih =>
    have later := ih (closed.of_suffix (List.suffix_append _ _))
    have none' := readDeclaration?_append closed free
    rw [none, Option.map_none, List.append_assoc] at none'
    have next : (after ++ '\n' :: rest).head?.any isWord = false := by
      cases after with
      | nil => exact isWord_newline
      | cons c after => exact hafter
    rw [declarations, declarations, finds_word wordLed_readDeclaration? hw hafter none,
      List.append_assoc, finds_word wordLed_readDeclaration? hw next none']
    exact later
  | found text d left read ih =>
    obtain ⟨used, -, parts⟩ := consumes_readDeclaration? read
    have later := ih (closed.of_suffix ⟨used, parts.symm⟩)
    have read' := readDeclaration?_append closed free
    rw [read, Option.map_some] at read'
    rw [declarations, declarations,
      finds_found wordLed_readDeclaration? endsWord_readDeclaration? read,
      finds_found wordLed_readDeclaration? endsWord_readDeclaration? read', List.cons_append]
    exact congrArg (d :: ·) later

/-- If they share no name, two texts declare the classes of the first one and those of the second
one. -/
theorem declaredClasses_append (closed : BracesClosed text) (free : BraceFree rest)
    (apart : ∀ name ∈ (declaredClasses text).map (·.name),
      name ∉ (declaredClasses rest).map (·.name)) :
    declaredClasses (text ++ '\n' :: rest) = declaredClasses text ++ declaredClasses rest := by
  have fresh : ∀ c ∈ declaredNodes rest, c.name ∉ (declaredClasses text).map (·.name) := by
    intro c hc member
    exact apart c.name member
      (ClassNode.mem_names_foldl_declare (.inr (List.mem_map_of_mem hc)))
  have more : (declaredNodes rest).foldl ClassNode.declare (declaredClasses text ++ []) =
      declaredClasses text ++ declaredClasses rest := ClassNode.foldl_declare_append fresh
  rw [List.append_nil] at more
  rw [declaredClasses, declarations_append closed free, List.map_append, List.foldl_append]
  exact more

end DiagramDiff.Mermaid

namespace DiagramDiff.Diagram

open Mermaid Text

/-- A block of text whose braces are closed and that does not begin with one, comments and the labels
of links aside. -/
structure Closed (block : String) : Prop where
  /-- Every opening brace is followed by a closing one. -/
  braces : BracesClosed (blankLabels (stripComments block.toList))
  /-- The block does not begin with a brace. -/
  start : BraceFree (blankLabels (stripComments block.toList))

instance (block : String) : Decidable (Closed block) :=
  decidable_of_iff
    (BracesClosed (blankLabels (stripComments block.toList)) ∧
      BraceFree (blankLabels (stripComments block.toList)))
    ⟨fun ⟨braces, start⟩ => ⟨braces, start⟩, fun h => ⟨h.braces, h.start⟩⟩

/-- Two blocks, each on lines of its own. -/
def inOrder (first second : String) : String := first ++ "\n" ++ second

/-- The characters of two blocks. -/
theorem toList_inOrder (first second : String) :
    (inOrder first second).toList = first.toList ++ '\n' :: second.toList := by
  rw [inOrder, String.toList_append, String.toList_append, List.append_assoc]
  rfl

/-- The links of two blocks are those of the first one and those of the second one. -/
theorem links_inOrder (first second : String) :
    (ofText (inOrder first second)).links = (ofText first).links ++ (ofText second).links := by
  rw [ofText, links_ofChars, toList_inOrder, stripComments_line, textLinks_line]
  rfl

/-- The links of a text are read line by line, from whatever lines: those of two blocks are those of
the first one and then those of the second one, and those of a text are those of its lines, each of
which is read as if it stood alone. -/
theorem links_by_line (first second : String) :
    (ofText (first ++ "\n" ++ second)).links = (ofText first).links ++ (ofText second).links ∧
      ∀ text : String,
        (ofText text).links = (pieces text.toList).flatMap fun line => (ofChars line).links := by
  refine ⟨links_inOrder first second, fun text => ?_⟩
  show (ofChars text.toList).links = _
  generalize text.toList = chars
  induction chars using lines_induction with
  | last line hl => rw [pieces_of_not_mem hl, List.flatMap_singleton]
  | line line rest hl ih =>
    rw [pieces_line, pieces_of_not_mem hl, List.flatMap_append, List.flatMap_singleton, ← ih,
      links_ofChars, stripComments_line, textLinks_line]
    rfl

/-- The classes of two closed blocks that share none are, up to annotations, those of the first one
and those of the second one. -/
theorem map_unannotated_inOrder {first second : String} (hf : Closed first) (hs : Closed second)
    (apart : ∀ name ∈ (ofText first).classes.map (·.name),
      name ∉ (ofText second).classes.map (·.name)) :
    (ofText (inOrder first second)).classes.map ClassNode.unannotated =
      (ofText first).classes.map ClassNode.unannotated ++
        (ofText second).classes.map ClassNode.unannotated := by
  rw [ofText, ofText, map_name_ofChars, map_name_ofChars] at apart
  rw [ofText, map_unannotated_ofChars, toList_inOrder, stripComments_line, blankLabels_line,
    declaredClasses_append hf.braces hs.start apart, List.map_append, ofText, ofText,
    map_unannotated_ofChars, map_unannotated_ofChars]

end DiagramDiff.Diagram
