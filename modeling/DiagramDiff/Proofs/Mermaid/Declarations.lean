import DiagramDiff.Mermaid.Declaration
import DiagramDiff.Proofs.Text.Scanning

/-!
# The declarations of a text

What `readDeclaration?` answers taken apart into the keyword, the name and the body
(`readDeclaration?_eq_some`, `readBody?_eq_some`), so that nothing else has to look into the
readers. A declaration begins with a word and leaves the end of the text it is read from
(`wordLed_readDeclaration?`, `consumes_readDeclaration?`), which is what the search for
declarations is about.
-/

namespace DiagramDiff.Mermaid

open Text

/-! ## The parts of a declaration that was read -/

/-- Type arguments are skipped up to the tilde that closes them. -/
theorem skipTypeArguments_closed {rest after : List Char}
    (h : rest.dropWhile (fun c => c != '~' && c != '\n') = '~' :: after) :
    skipTypeArguments ('~' :: rest) = after := by
  simp only [skipTypeArguments, h]

/-- A tilde that is not closed on its line opens no type arguments. -/
theorem skipTypeArguments_open {rest : List Char}
    (h : (rest.dropWhile (fun c => c != '~' && c != '\n')).head?.any (· == '~') = false) :
    skipTypeArguments ('~' :: rest) = '~' :: rest := by
  unfold skipTypeArguments
  split
  · next other same =>
    cases same
    split
    · next after inner =>
      rw [inner] at h
      cases h
    · rfl
  · rfl

/-- Without a tilde at its start a text starts with no type arguments. -/
theorem skipTypeArguments_of_head {text : List Char} (h : text.head?.any (· == '~') = false) :
    skipTypeArguments text = text := by
  unfold skipTypeArguments
  split
  · simp at h
  · rfl

/-- Type arguments that are skipped end with a tilde. -/
theorem skipTypeArguments_cases (text : List Char) :
    skipTypeArguments text = text ∨ '~' :: skipTypeArguments text <:+ text := by
  unfold skipTypeArguments
  split
  · next rest =>
    split
    · next after parts =>
      have inner : '~' :: after <:+ rest := parts ▸ List.dropWhile_suffix _
      exact .inr (inner.trans (List.suffix_cons _ _))
    · exact .inl rfl
  · exact .inl rfl

/-- The text after a list of type arguments is the end of the text before it. -/
theorem skipTypeArguments_suffix (text : List Char) : skipTypeArguments text <:+ text := by
  rcases skipTypeArguments_cases text with same | behind
  · exact same.symm ▸ List.suffix_refl text
  · exact (List.suffix_cons _ _).trans behind

/-- A body reaches to the first closing brace. -/
theorem readBody?_closed {text rest after : List Char} {c : Char}
    (brace : trimStart text = '{' :: rest) (closed : rest.dropWhile (· != '}') = c :: after) :
    readBody? text = some (rest.takeWhile (· != '}'), after) := by
  simp only [readBody?, brace, closed]

/-- Without a closing brace there is no body. -/
theorem readBody?_open {text rest : List Char} (brace : trimStart text = '{' :: rest)
    (closed : rest.dropWhile (· != '}') = []) : readBody? text = none := by
  simp only [readBody?, brace, closed]

/-- Without an opening brace there is no body. -/
theorem readBody?_of_head {text : List Char}
    (h : (trimStart text).head?.any (· == '{') = false) : readBody? text = none := by
  unfold readBody?
  split
  · next rest brace =>
    rw [brace] at h
    cases h
  · rfl

/-- White space may stand in front of a body. -/
theorem readBody?_white_append {white : List Char} (hw : ∀ c ∈ white, isWhiteSpace c = true)
    (text : List Char) : readBody? (white ++ text) = readBody? text := by
  have start : trimStart (white ++ text) = trimStart text := List.dropWhile_append_of_pos hw
  simp only [readBody?, start]

/-- A space may stand in front of a body. -/
theorem readBody?_space (text : List Char) : readBody? (' ' :: text) = readBody? text := by
  have space : ∀ c ∈ [' '], isWhiteSpace c = true := forall_mem_of_all (by decide)
  exact readBody?_white_append space text

/-- A body in braces reaches to the first closing brace. -/
theorem readBody?_braces {body : List Char} (h : '}' ∉ body) (after : List Char) :
    readBody? ('{' :: (body ++ '}' :: after)) = some (body, after) := by
  have inside : ∀ c ∈ body, (c != '}') = true := by
    intro c hc
    simpa using fun e : c = '}' => h (e ▸ hc)
  have run : (body ++ '}' :: after).takeWhile (· != '}') = body :=
    takeWhile_append_of_head inside (by simp)
  have rest : (body ++ '}' :: after).dropWhile (· != '}') = '}' :: after :=
    dropWhile_append_of_head inside (by simp)
  have brace : ('{' :: (body ++ '}' :: after)).head?.any isWhiteSpace = false :=
    (by decide : isWhiteSpace '{' = false)
  rw [readBody?_closed (dropWhile_eq_self brace) rest, run]

/-- A body stands between an opening brace and the first closing one. -/
theorem readBody?_eq_some {text body left : List Char} (h : readBody? text = some (body, left)) :
    trimStart text = '{' :: (body ++ '}' :: left) ∧ '}' ∉ body := by
  unfold readBody? at h
  split at h
  · next rest start =>
    split at h
    · next c after parts =>
      cases h
      have brace : c = '}' := by
        have stop := List.head?_dropWhile_not (· != '}') rest
        simpa [parts] using stop
      have whole : rest.takeWhile (· != '}') ++ rest.dropWhile (· != '}') = rest :=
        List.takeWhile_append_dropWhile
      rw [parts, brace] at whole
      refine ⟨by rw [start, whole], fun member => ?_⟩
      simpa using List.mem_takeWhile_imp member
    · cases h
  · cases h

/-- A declaration is the keyword, a blank, a name and perhaps a body. -/
theorem readDeclaration?_eq_some {text left : List Char} {d : Declaration}
    (h : readDeclaration? text = some (d, left)) :
    ∃ rest after, "class".toList ++ rest = text ∧ rest.head?.any isBlank = true ∧
      readWord? (dropBlanks rest) = some (d.name, after) ∧
        ((d.body = none ∧ left = skipTypeArguments after) ∨
          ∃ body, d.body = some body ∧
            readBody? (skipTypeArguments after) = some (body, left)) := by
  unfold readDeclaration? at h
  cases keyword : "class".toList.isPrefixOf? text with
  | none => simp only [keyword, reduceCtorEq] at h
  | some rest =>
    simp only [keyword] at h
    split at h
    · next blank =>
      cases word : readWord? (dropBlanks rest) with
      | none => simp only [word, reduceCtorEq] at h
      | some result =>
        obtain ⟨name, after⟩ := result
        simp only [word] at h
        refine ⟨rest, after, List.append_eq_of_isPrefixOf?_eq_some keyword, blank, ?_⟩
        cases body : readBody? (skipTypeArguments after) with
        | none =>
          simp only [body, Option.some.injEq, Prod.mk.injEq] at h
          obtain ⟨rfl, rfl⟩ := h
          exact ⟨word, .inl ⟨rfl, rfl⟩⟩
        | some result =>
          obtain ⟨inner, behind⟩ := result
          simp only [body, Option.some.injEq, Prod.mk.injEq] at h
          obtain ⟨rfl, rfl⟩ := h
          exact ⟨word, .inr ⟨inner, rfl, rfl⟩⟩
    · cases h

/-- The name of a declared class is a word. -/
theorem isName_of_mem_declarations {text : List Char} {d : Declaration}
    (h : d ∈ declarations text) : IsName d.name := by
  obtain ⟨suffix, rest, -, read⟩ := exists_of_mem_finds_atWordStart h
  obtain ⟨_, _, -, -, word, -⟩ := readDeclaration?_eq_some read
  exact isName_of_readWord? word

/-! ## The search for declarations -/

/-- A declaration leaves the end of the text it is read from. -/
theorem consumes_readDeclaration? : Consumes readDeclaration? := by
  intro text d left h
  obtain ⟨rest, after, rfl, -, word, ending⟩ := readDeclaration?_eq_some h
  have behind : skipTypeArguments after <:+ rest :=
    ((skipTypeArguments_suffix after).trans (readWord?_suffix word)).trans
      (List.dropWhile_suffix isBlank)
  have left_suffix : left <:+ rest := by
    rcases ending with ⟨-, rfl⟩ | ⟨body, -, read⟩
    · exact behind
    · obtain ⟨start, -⟩ := readBody?_eq_some read
      have inner : left <:+ trimStart (skipTypeArguments after) := by
        rw [start]
        exact ⟨'{' :: (body ++ ['}']), by simp⟩
      exact (inner.trans (List.dropWhile_suffix isWhiteSpace)).trans behind
  obtain ⟨middle, rfl⟩ := left_suffix
  exact ⟨"class".toList ++ middle, by simp, by rw [List.append_assoc]⟩

/-- No word goes on after a declaration: it ends with its name, with a tilde or with a brace. -/
theorem endsWord_readDeclaration? : EndsWord readDeclaration? := by
  refine Consumes.endsWord consumes_readDeclaration? fun h => ?_
  obtain ⟨rest, after, rfl, -, word, ending⟩ := readDeclaration?_eq_some h
  have behind : after <:+ "class".toList ++ rest :=
    ((readWord?_suffix word).trans (List.dropWhile_suffix isBlank)).trans
      (List.suffix_append _ rest)
  rcases ending with ⟨-, rfl⟩ | ⟨body, -, read⟩
  · rcases skipTypeArguments_cases after with same | tilde
    · rw [same]
      exact .inl (any_head?_of_readWord? word)
    · exact .inr ⟨'~', by decide, tilde.trans behind⟩
  · obtain ⟨start, -⟩ := readBody?_eq_some read
    have brace : ∀ left, '}' :: left <:+ '{' :: (body ++ '}' :: left) :=
      fun left => ⟨'{' :: body, rfl⟩
    have inner : trimStart (skipTypeArguments after) <:+ skipTypeArguments after :=
      List.dropWhile_suffix isWhiteSpace
    rw [start] at inner
    exact .inr ⟨'}', by decide,
      (((brace _).trans inner).trans (skipTypeArguments_suffix after)).trans behind⟩

/-- A declaration begins with a word. -/
theorem wordLed_readDeclaration? : WordLed readDeclaration? := by
  intro text h
  have other : text.head?.any (· == 'c') = false := by
    cases text with
    | nil => rfl
    | cons c rest =>
      have letter : isWord 'c' = true := by decide
      exact beq_eq_false_iff_ne.mpr (ne_of_isWord letter h).symm
  have keyword : "class".toList.isPrefixOf? text = none := isPrefixOf?_of_head other
  simp only [readDeclaration?, keyword]

/-- Between words nothing is declared. -/
theorem declarations_gap {gap : List Char} (h : ∀ c ∈ gap, isWord c = false) (rest : List Char) :
    declarations (gap ++ rest) = declarations rest :=
  finds_gap wordLed_readDeclaration? h rest

/-- A character between words declares nothing. -/
theorem declarations_cons {c : Char} (h : isWord c = false) (rest : List Char) :
    declarations (c :: rest) = declarations rest := by
  rw [declarations, finds, segments_cons wordLed_readDeclaration? h]
  rfl

end DiagramDiff.Mermaid
