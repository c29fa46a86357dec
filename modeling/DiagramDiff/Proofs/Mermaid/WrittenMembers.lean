import DiagramDiff.Proofs.Mermaid.Entries

/-!
# Members as they are written

What the readers of a body make of the three forms in which members are written. A stereotype
`<<a>>` gives the annotation `a` and no member (`entryStereotypes_written`, `entryMember_written`);
`+m()` is the method `m` (`methodName?_written`); `+p` and `+p: T` are the property `p`, untyped or
of type `T` (`readProperty?_untyped`, `readProperty?_typed`), for every type that can stand in a
body (`IsWritableType`). On a line of its own each of them is one entry (`entries_indented`); for a
type with several arguments this is where the counter of tildes is needed, because a comma stands
between the arguments (`cutFrom_arguments`).
-/

namespace DiagramDiff.Mermaid

open Text

/-! ## Types -/

/-- A word of name letters, between which and a tilde a list of type arguments opens. -/
structure IsTypeName (word : List Char) : Prop where
  /-- It is a word. -/
  isName : IsName word
  /-- It consists of name letters. -/
  letters : ∀ c ∈ word, isNameLetter c = true

instance (word : List Char) : Decidable (IsTypeName word) :=
  @decidable_of_iff _ (IsName word ∧ ∀ c ∈ word, isNameLetter c = true)
    ⟨fun h => ⟨h.1, h.2⟩, fun h => ⟨h.isName, h.letters⟩⟩
    (@instDecidableAnd _ _ _ (List.decidableBAll (fun c => isNameLetter c = true) word))

/-- A type that can be written in a body and is read back: a word with brackets, or a word with a
list of words as type arguments. -/
inductive IsWritableType : List Char → Prop where
  /-- A word character and any word characters and brackets after it, such as `int[]`. -/
  | plain {c : Char} {rest : List Char} (first : isWord c = true)
      (others : ∀ d ∈ rest, isWord d = true ∨ d = '[' ∨ d = ']') : IsWritableType (c :: rest)
  /-- A word and its type arguments, such as `Map~String, int~`. -/
  | generic {outer : List Char} {arguments : List (List Char)} (name : IsTypeName outer)
      (nonempty : arguments ≠ []) (names : ∀ a ∈ arguments, IsTypeName a) :
      IsWritableType (outer ++ '~' :: ([',', ' '].intercalate arguments ++ ['~']))

/-- Between the tildes of a type stand words, commas and spaces. -/
theorem holdsOnly_arguments {arguments : List (List Char)} (names : ∀ a ∈ arguments, IsTypeName a) :
    HoldsOnly [',', ' '] ([',', ' '].intercalate arguments) := by
  induction arguments with
  | nil => exact .of_subset (List.nil_subset _)
  | cons a arguments ih =>
    have first : HoldsOnly [',', ' '] a := (names a List.mem_cons_self).isName.holdsOnly _
    cases arguments with
    | nil => rwa [List.intercalate_singleton]
    | cons b arguments =>
      rw [List.intercalate_cons_cons]
      exact (first.append (.of_subset (List.Subset.refl _))).append
        (ih fun d hd => names d (List.mem_cons_of_mem a hd))

/-- Type arguments begin with a name letter. -/
theorem besideLetter_arguments {arguments : List (List Char)} (nonempty : arguments ≠ [])
    (names : ∀ a ∈ arguments, IsTypeName a) (rest : List Char) :
    Nesting.besideLetter ([',', ' '].intercalate arguments ++ rest).head? = true := by
  cases arguments with
  | nil => exact absurd rfl nonempty
  | cons a arguments =>
    have name := names a List.mem_cons_self
    obtain ⟨c, tail, rfl, -, -⟩ := name.isName.exists_cons
    have letter : isNameLetter c = true := name.letters c List.mem_cons_self
    cases arguments with
    | nil => simpa [Nesting.besideLetter] using letter
    | cons b arguments => simpa [Nesting.besideLetter, List.intercalate_cons_cons] using letter

/-- A type begins with a word character. -/
theorem IsWritableType.exists_cons {type : List Char} (h : IsWritableType type) :
    ∃ c rest, type = c :: rest ∧ isWord c = true := by
  cases h with
  | plain first others => exact ⟨_, _, rfl, first⟩
  | generic name nonempty names =>
    obtain ⟨c, tail, rfl, hc, -⟩ := name.isName.exists_cons
    exact ⟨c, _, rfl, hc⟩

/-- A type holds words, brackets, tildes, commas and spaces. -/
theorem IsWritableType.holdsOnly {type : List Char} (h : IsWritableType type) :
    HoldsOnly ['[', ']', '~', ',', ' '] type := by
  cases h with
  | plain first others =>
    intro c hc
    rcases List.mem_cons.mp hc with rfl | hc
    · exact .inl first
    · rcases others c hc with h | rfl | rfl
      · exact .inl h
      · exact .inr (by decide)
      · exact .inr (by decide)
  | @generic outer arguments name nonempty names =>
    have inner := (holdsOnly_arguments names).mono
      (by decide : [',', ' '] ⊆ ['[', ']', '~', ',', ' '])
    have tilde : HoldsOnly ['[', ']', '~', ',', ' '] ['~'] := .of_subset (by decide)
    exact (name.isName.holdsOnly _).append (tilde.append (inner.append tilde))

/-- The last character of a type is no white space. -/
theorem IsWritableType.getLast? {type : List Char} (h : IsWritableType type) :
    type.getLast?.any isWhiteSpace = false := by
  cases h with
  | @plain c rest first others =>
    have all : ∀ d ∈ c :: rest, isWhiteSpace d = false := by
      intro d hd
      rcases List.mem_cons.mp hd with rfl | hd
      · exact isWhiteSpace_of_isWord first
      · rcases others d hd with h | rfl | rfl
        · exact isWhiteSpace_of_isWord h
        · decide
        · decide
    exact any_getLast?_eq_false all
  | @generic outer arguments name nonempty names =>
    have shape : outer ++ '~' :: ([',', ' '].intercalate arguments ++ ['~']) =
        (outer ++ '~' :: [',', ' '].intercalate arguments) ++ ['~'] := by simp
    rw [shape, List.getLast?_concat]
    decide

/-! ### Reading a type -/

/-- A run of characters that belong to a type is read whole. -/
theorem typeTail_run {inside : Bool} {run : List Char}
    (h : ∀ c ∈ run, c ≠ '~' ∧ (inside || isTypeChar c) = true) (rest : List Char) :
    typeTail inside (run ++ rest) =
      (run ++ (typeTail inside rest).1, (typeTail inside rest).2) := by
  induction run with
  | nil => rfl
  | cons c run ih =>
    obtain ⟨tilde, type⟩ := h c List.mem_cons_self
    have tail := ih fun d hd => h d (List.mem_cons_of_mem c hd)
    simp only [List.cons_append, typeTail, if_neg tilde, type, if_true, tail]

/-- A word character belongs to a type and is no tilde. -/
theorem typeChar_of_isWord {c : Char} (h : isWord c = true) (inside : Bool) :
    c ≠ '~' ∧ (inside || isTypeChar c) = true :=
  ⟨ne_of_isWord h (by decide), by simp [isTypeChar, h]⟩

/-- A type that can be written is read whole. -/
theorem IsWritableType.readType? {type : List Char} (h : IsWritableType type) :
    readType? type = some (type, []) := by
  have whole : typeTail false type = (type, []) := by
    cases h with
    | @plain c rest first others =>
      have run : ∀ d ∈ c :: rest, d ≠ '~' ∧ (false || isTypeChar d) = true := by
        intro d hd
        rcases List.mem_cons.mp hd with rfl | hd
        · exact typeChar_of_isWord first false
        · rcases others d hd with h | rfl | rfl
          · exact typeChar_of_isWord h false
          · decide
          · decide
      have read := typeTail_run run []
      rwa [List.append_nil, typeTail, List.append_nil] at read
    | @generic outer arguments name nonempty names =>
      have opening := typeTail_run (fun c hc => typeChar_of_isWord (name.isName.2 c hc) false)
        ('~' :: ([',', ' '].intercalate arguments ++ ['~']))
      have inner : ∀ c ∈ [',', ' '].intercalate arguments,
          c ≠ '~' ∧ (true || isTypeChar c) = true := by
        intro c hc
        rcases holdsOnly_arguments names c hc with h | h
        · exact typeChar_of_isWord h true
        · simp only [List.mem_cons, List.not_mem_nil, or_false] at h
          rcases h with rfl | rfl <;> decide
      have closing := typeTail_run inner ['~']
      have last : typeTail true ['~'] = (['~'], []) := by decide
      rw [last] at closing
      have step : typeTail false ('~' :: ([',', ' '].intercalate arguments ++ ['~'])) =
          ('~' :: ([',', ' '].intercalate arguments ++ ['~']), []) := by
        simp [typeTail, closing]
      rw [opening, step]
  obtain ⟨c, rest, rfl, hc⟩ := h.exists_cons
  simp only [Mermaid.readType?, hc, if_true, whole]

/-! ## Stereotypes -/

/-- A text without an angle bracket holds no stereotype. -/
theorem segments_stereotype_of_not_mem {text : List Char} (h : '<' ∉ text) :
    segments (fun _ text => readStereotype? text) text = text.map .plain := by
  refine segments_kept fun before suffix hs => ?_
  cases suffix with
  | nil => rfl
  | cons c rest =>
    have bracket : c ≠ '<' := fun e => h (e ▸ hs.subset List.mem_cons_self)
    unfold readStereotype?
    split
    · next parts => exact absurd (List.cons.inj parts).1 bracket
    · rfl

/-- A trimmed entry without an angle bracket has no stereotypes. -/
theorem entryStereotypes_of_not_mem {entry : List Char} (h : '<' ∉ entry) :
    entryStereotypes entry = [] := by
  rw [entryStereotypes, finds, segments_stereotype_of_not_mem h, filterMap_found?_map_plain]

/-- A trimmed entry without an angle bracket is a member as it stands. -/
theorem entryMember_of_not_mem {entry : List Char} (h : '<' ∉ entry) (ht : IsTrimmed entry) :
    entryMember entry = entry := by
  rw [entryMember, withoutFinds, segments_stereotype_of_not_mem h, filterMap_plain?_map_plain,
    ht.trim_eq]

/-- A stereotype as it is written. -/
def writtenStereotype (name : List Char) : List Char := '<' :: '<' :: (name ++ ['>', '>'])

/-- A written stereotype holds a word and angle brackets. -/
theorem holdsOnly_writtenStereotype {name : List Char} (h : IsName name) :
    HoldsOnly ['<', '>'] (writtenStereotype name) := by
  have opening : HoldsOnly ['<', '>'] ['<', '<'] := .of_subset (by decide)
  have closing : HoldsOnly ['<', '>'] ['>', '>'] := .of_subset (by decide)
  exact opening.append ((h.holdsOnly _).append closing)

/-- A written stereotype is read whole. -/
theorem readStereotype?_written {name : List Char} (h : IsName name) :
    readStereotype? (writtenStereotype name) = some (name, []) := by
  have allowed : ∀ c ∈ name, isStereotypeChar c = true := by
    intro c hc
    have word := h.2 c hc
    have lower : c ≠ '<' := ne_of_isWord word (by decide)
    have greater : c ≠ '>' := ne_of_isWord word (by decide)
    have line : c ≠ '\n' := ne_of_isWord word (by decide)
    simp [isStereotypeChar, lower, greater, line]
  have inner : (name ++ ['>', '>']).takeWhile isStereotypeChar = name :=
    takeWhile_append_of_head allowed (by decide)
  have after : (name ++ ['>', '>']).dropWhile isStereotypeChar = ['>', '>'] :=
    dropWhile_append_of_head allowed (by decide)
  have blanks : ∀ c ∈ name, isBlank c = false := fun c hc => isBlank_of_isWord (h.2 c hc)
  have trimmed : trimBlanks name = name := by
    have first : dropBlanks name = name := dropWhile_eq_self (by
      obtain ⟨c, rest, rfl, hc, -⟩ := h.exists_cons
      simp [isBlank_of_isWord hc])
    have last : name.reverse.dropWhile isBlank = name.reverse :=
      dropWhile_eq_self (by rw [List.head?_reverse]; exact any_getLast?_eq_false blanks)
    rw [trimBlanks, first, last, List.reverse_reverse]
  have filled : name.isEmpty = false := by simpa using h.1
  have named : stereotypeName name = name := by
    simp only [stereotypeName, trimmed, filled, Bool.false_eq_true, if_false]
  simp only [writtenStereotype, readStereotype?, inner, after, filled, named, Bool.false_eq_true,
    if_false]

/-- A written stereotype is found once, and nothing else stands in its entry. -/
theorem segments_written {name : List Char} (h : IsName name) :
    segments (fun _ text => readStereotype? text) (writtenStereotype name) = [.found name] := by
  have read := readStereotype?_written h
  rw [← List.append_nil (writtenStereotype name)] at read ⊢
  rw [segments, segmentsFrom_used (by simp [writtenStereotype]) read, segmentsFrom_nil]

/-- The entry of a written stereotype gives its annotation. -/
theorem entryStereotypes_written {name : List Char} (h : IsName name) :
    entryStereotypes (writtenStereotype name) = [name] := by
  rw [entryStereotypes, finds, segments_written h]
  rfl

/-- The entry of a written stereotype is no member. -/
theorem entryMember_written {name : List Char} (h : IsName name) :
    entryMember (writtenStereotype name) = [] := by
  rw [entryMember, withoutFinds, segments_written h]
  rfl

/-! ## Methods -/

/-- A call begins with a word. -/
theorem wordLed_readCall? : WordLed readCall? := by
  intro text h
  simp only [readCall?, readWord?_eq_none h]

/-- Without an opening parenthesis there is no call. -/
theorem readCall?_of_not_mem {text : List Char} (h : '(' ∉ text) : readCall? text = none := by
  unfold readCall?
  cases found : readWord? text with
  | none => rfl
  | some result =>
    obtain ⟨name, after⟩ := result
    obtain ⟨used, -, parts⟩ := consumes_readWord? found
    simp only
    split
    · next rest blanks =>
      have inside : '(' :: rest <:+ after := blanks ▸ List.dropWhile_suffix isBlank
      refine absurd ?_ h
      rw [parts]
      exact List.mem_append_right _ (inside.subset List.mem_cons_self)
    · rfl

/-- A member without an opening parenthesis is no method. -/
theorem methodName?_of_not_mem {member : List Char} (h : '(' ∉ member) :
    methodName? member = none := by
  have nothing : segments (atWordStart readCall?) member = member.map .plain :=
    segments_kept fun before suffix hs =>
      atWordStart_eq_none (readCall?_of_not_mem fun hm => h (hs.subset hm))
  rw [methodName?, finds, nothing, filterMap_found?_map_plain]
  rfl

/-- A method as it is written. -/
def writtenMethod (name : List Char) : List Char := '+' :: (name ++ ['(', ')'])

/-- A written method holds a word, a plus sign and parentheses. -/
theorem holdsOnly_writtenMethod {name : List Char} (h : IsName name) :
    HoldsOnly ['+', '(', ')'] (writtenMethod name) := by
  have plus : HoldsOnly ['+', '(', ')'] ['+'] := .of_subset (by decide)
  have call : HoldsOnly ['+', '(', ')'] ['(', ')'] := .of_subset (by decide)
  exact plus.append ((h.holdsOnly _).append call)

/-- A written method is that method. -/
theorem methodName?_written {name : List Char} (h : IsName name) :
    methodName? (writtenMethod name) = some name := by
  have read : readCall? ((name ++ ['(']) ++ [')']) = some (name, [')']) := by
    have word : readWord? (name ++ ['(', ')']) = some (name, ['(', ')']) :=
      readWord?_append h (by decide)
    rw [List.append_assoc]
    simp only [readCall?, List.singleton_append, word]
    rfl
  have found := segments_used wordLed_readCall? (by simp) (by decide) read
  have gap : segments (atWordStart readCall?) (['+'] ++ ((name ++ ['(']) ++ [')'])) = _ :=
    segments_gap wordLed_readCall? (forall_mem_of_all (by decide)) _
  have shape : writtenMethod name = ['+'] ++ ((name ++ ['(']) ++ [')']) := by
    simp [writtenMethod]
  rw [methodName?, finds, shape, gap, found]
  rfl

/-! ## Properties -/

/-- A property without a type as it is written. -/
def writtenUntyped (name : List Char) : List Char := '+' :: name

/-- A property with a type as it is written. -/
def writtenTyped (name type : List Char) : List Char := '+' :: (name ++ ':' :: ' ' :: type)

/-- A written property without a type holds a word and a plus sign. -/
theorem holdsOnly_writtenUntyped {name : List Char} (h : IsName name) :
    HoldsOnly ['+'] (writtenUntyped name) := by
  have plus : HoldsOnly ['+'] ['+'] := .of_subset (by decide)
  exact plus.append (h.holdsOnly _)

/-- A written property with a type holds words, a plus sign, a colon, a space and what its type
holds. -/
theorem holdsOnly_writtenTyped {name type others : List Char} (h : IsName name)
    (ht : HoldsOnly others type) :
    HoldsOnly ('+' :: ':' :: ' ' :: others) (writtenTyped name type) := by
  have plus : HoldsOnly ('+' :: ':' :: ' ' :: others) ['+'] := .of_subset (by simp)
  have colon : HoldsOnly ('+' :: ':' :: ' ' :: others) [':', ' '] := .of_subset (by simp)
  have types : HoldsOnly ('+' :: ':' :: ' ' :: others) type :=
    ht.mono (List.subset_append_right ['+', ':', ' '] others)
  exact plus.append ((h.holdsOnly _).append (colon.append types))

/-- In front of a colon or the end, a word is no leading type. -/
theorem readLed?_of_name {name rest : List Char} (h : IsName name)
    (hrest : rest = [] ∨ rest.head? = some ':') : readLed? (name ++ rest) = none := by
  have tail : typeTail false rest = ([], rest) := by
    rcases hrest with rfl | hrest
    · rfl
    · obtain ⟨after, rfl⟩ : ∃ after, rest = ':' :: after := List.head?_eq_some_iff.mp hrest
      have none : isTypeChar ':' = false := by decide
      simp [typeTail, none]
  have whole : typeTail false (name ++ rest) = (name, rest) := by
    rw [typeTail_run (fun c hc => typeChar_of_isWord (h.2 c hc) false), tail, List.append_nil]
  have noBlank : rest.head?.any isBlank = false := by
    rcases hrest with rfl | hrest
    · rfl
    · rw [hrest]
      decide
  obtain ⟨c, others, rfl, hc, -⟩ := h.exists_cons
  rw [List.cons_append] at whole ⊢
  simp only [readLed?, readType?, hc, if_true, whole, noBlank, Bool.false_eq_true, if_false]

/-- A mark of visibility in front of a name is passed over. -/
theorem skipVisibility_written {name rest : List Char} (h : IsName name) :
    skipVisibility ('+' :: (name ++ rest)) = name ++ rest := by
  simp [skipVisibility, dropBlanks_append_name h]

/-- A written property without a type is an untyped one. -/
theorem readProperty?_untyped {name : List Char} (h : IsName name) :
    readProperty? (writtenUntyped name) = some (Property.untyped (String.ofList name)) := by
  have text : skipVisibility (writtenUntyped name) = name ++ [] := by
    rw [writtenUntyped, ← skipVisibility_written h, List.append_nil]
  have led : readLed? (name ++ []) = none := readLed?_of_name h (.inl rfl)
  have word : readWord? (name ++ []) = some (name, []) := readWord?_append h rfl
  simp only [readProperty?, text, led, readNamed?, word]
  rfl

/-- A written property with a type is read if nothing is left behind its type. -/
theorem readProperty?_writtenTyped {name type run left : List Char} (h : IsName name)
    (letter : type.head?.any isBlank = false) (read : readType? type = some (run, left)) :
    readProperty? (writtenTyped name type) =
      if endsMember left then some ⟨String.ofList name, String.ofList run⟩ else none := by
  have text : skipVisibility (writtenTyped name type) = name ++ ':' :: ' ' :: type :=
    skipVisibility_written h
  have led : readLed? (name ++ ':' :: ' ' :: type) = none := readLed?_of_name h (.inr rfl)
  have word : readWord? (name ++ ':' :: ' ' :: type) = some (name, ':' :: ' ' :: type) :=
    readWord?_append h (by simp; decide)
  have blanks : dropBlanks (' ' :: type) = type := dropBlanks_space letter
  have colon : dropBlanks (':' :: ' ' :: type) = ':' :: ' ' :: type := rfl
  simp only [readProperty?, text, led, readNamed?, word, colon, blanks, read]
  cases endsMember left <;> rfl

/-- A written property with a type is a property of that type. -/
theorem readProperty?_typed {name type : List Char} (h : IsName name)
    (ht : IsWritableType type) :
    readProperty? (writtenTyped name type) =
      some ⟨String.ofList name, String.ofList type⟩ := by
  have letter : type.head?.any isBlank = false := by
    obtain ⟨c, rest, rfl, hc⟩ := ht.exists_cons
    exact isBlank_of_isWord hc
  rw [readProperty?_writtenTyped h letter ht.readType?]
  rfl

/-! ## One entry a line -/

/-- The blanks in front of a written member. -/
def memberIndent : List Char := List.replicate 8 ' '

/-- A trimmed text that is not cut and no comment is the one entry of its line. -/
theorem entries_indented {text : List Char} (nonempty : text ≠ []) (ht : IsTrimmed text)
    (percent : text.head? ≠ some '%') (uncut : cutFrom .none (some ' ') text = [text]) :
    entries (memberIndent ++ text) = [text] := by
  have passes : ∀ c ∈ memberIndent, Nesting.none.Passes c := by
    intro c hc
    obtain rfl := List.eq_of_mem_replicate hc
    decide
  have piece : cut (memberIndent ++ text) = [memberIndent ++ text] := by
    rw [cut, cutFrom_run passes]
    exact congrArg (List.modifyHead (memberIndent ++ ·)) uncut
  have trimmed : trim (memberIndent ++ text) = text :=
    trim_append (forall_mem_of_all (by decide)) ht
  have comment : isComment text = false := by
    have start : trimStart text = text := dropWhile_eq_self ht.head
    rw [isComment, start]
    cases text with
    | nil => rfl
    | cons c rest =>
      have other : ('%' == c) = false :=
        beq_eq_false_iff_ne.mpr fun e => percent (congrArg some e.symm)
      simp [List.isPrefixOf, other]
  have filled : text.isEmpty = false := by simpa using nonempty
  simp [entries, piece, trimmed, comment, filled]

/-- A member that begins with a plus sign and ends like a word, a type or a call is trimmed. -/
theorem isTrimmed_plus {text : List Char} (h : text.getLast?.any isWhiteSpace = false) :
    IsTrimmed ('+' :: text) := by
  have plus : isWhiteSpace '+' = false := by decide
  refine ⟨plus, ?_⟩
  cases text with
  | nil => exact plus
  | cons c rest => rwa [List.getLast?_cons_cons]

/-- A run of characters that pass is one piece. -/
theorem cutFrom_uncut {n : Nesting} {run : List Char} (h : ∀ c ∈ run, n.Passes c)
    (before : Option Char) : cutFrom n before run = [run] := by
  have cutting := cutFrom_run h before []
  rwa [List.append_nil, cutFrom, List.modifyHead_cons, List.append_nil] at cutting

/-- A written stereotype is one entry. -/
theorem entries_writtenStereotype {name : List Char} (h : IsName name) :
    entries (memberIndent ++ writtenStereotype name) = [writtenStereotype name] := by
  have passes : ∀ c ∈ writtenStereotype name, Nesting.none.Passes c := by
    intro c hc
    simp only [writtenStereotype, List.mem_cons, List.mem_append, List.not_mem_nil, or_false] at hc
    rcases hc with rfl | rfl | hc | rfl | rfl
    · decide
    · decide
    · exact Nesting.passes_of_isWord (h.2 c hc) _
    · decide
    · decide
  refine entries_indented (List.cons_ne_nil _ _) ⟨by simp [writtenStereotype]; decide, ?_⟩
    (by simp [writtenStereotype]) (cutFrom_uncut passes _)
  have shape : writtenStereotype name = '<' :: '<' :: (name ++ ['>']) ++ ['>'] := by
    simp [writtenStereotype]
  rw [shape, List.getLast?_concat]
  decide

/-- A plus sign and a name pass where nothing is open. -/
theorem passes_plus_name {name : List Char} (h : IsName name) :
    ∀ c ∈ '+' :: name, Nesting.none.Passes c := by
  intro c hc
  rcases List.mem_cons.mp hc with rfl | hc
  · decide
  · exact Nesting.passes_of_isWord (h.2 c hc) _

/-- A written property without a type is trimmed. -/
theorem isTrimmed_writtenUntyped {name : List Char} (h : IsName name) :
    IsTrimmed (writtenUntyped name) :=
  isTrimmed_plus (any_getLast?_eq_false fun c hc => isWhiteSpace_of_isWord (h.2 c hc))

/-- A written property with a type is trimmed if its type ends in no white space. -/
theorem isTrimmed_writtenTyped {name type : List Char} (nonempty : type ≠ [])
    (last : type.getLast?.any isWhiteSpace = false) : IsTrimmed (writtenTyped name type) := by
  have shape : name ++ ':' :: ' ' :: type = name ++ [':', ' '] ++ type := by simp
  refine isTrimmed_plus ?_
  rw [shape, List.getLast?_append_of_ne_nil _ nonempty]
  exact last

/-- A type is not empty. -/
theorem IsWritableType.ne_nil {type : List Char} (h : IsWritableType type) : type ≠ [] := by
  obtain ⟨c, rest, rfl, -⟩ := h.exists_cons
  exact List.cons_ne_nil c rest

/-- A written method is trimmed. -/
theorem isTrimmed_writtenMethod (name : List Char) : IsTrimmed (writtenMethod name) := by
  refine isTrimmed_plus ?_
  have shape : name ++ ['(', ')'] = name ++ ['('] ++ [')'] := by simp
  rw [shape, List.getLast?_concat]
  decide

/-- A written property without a type is one entry. -/
theorem entries_writtenUntyped {name : List Char} (h : IsName name) :
    entries (memberIndent ++ writtenUntyped name) = [writtenUntyped name] :=
  entries_indented (List.cons_ne_nil _ _) (isTrimmed_writtenUntyped h) (by simp [writtenUntyped])
    (cutFrom_uncut (passes_plus_name h) _)

/-- A written method is one entry: its parenthesis is closed at once. -/
theorem entries_writtenMethod {name : List Char} (h : IsName name) :
    entries (memberIndent ++ writtenMethod name) = [writtenMethod name] := by
  refine entries_indented (List.cons_ne_nil _ _) (isTrimmed_writtenMethod name)
    (by simp [writtenMethod]) ?_
  have call : ∀ before, cutFrom .none before ['(', ')'] = [['(', ')']] := by
    intro before
    simp [cutFrom, Nesting.step, Nesting.cutsAt, Nesting.none]
  rw [writtenMethod, ← List.cons_append, cutFrom_run (passes_plus_name h), call]
  rfl

/-- After a word of name letters a position is beside a name letter. -/
theorem besideLetter_charBefore {word : List Char} (h : IsTypeName word) (before : Option Char) :
    Nesting.besideLetter (charBefore before word) = true := by
  have letters := h.letters
  obtain ⟨c, rest, rfl, -, -⟩ := h.isName.exists_cons
  clear h
  induction rest generalizing before c with
  | nil => exact letters c List.mem_cons_self
  | cons d rest ih => exact ih (some c) d fun e he => letters e (List.mem_cons_of_mem c he)

/-- A list of type arguments is not cut, its commas notwithstanding: the tilde before it opens a
list, and the tilde after it closes that list. -/
theorem cutFrom_arguments {arguments : List (List Char)} (nonempty : arguments ≠ [])
    (names : ∀ a ∈ arguments, IsTypeName a) {before : Option Char}
    (letter : Nesting.besideLetter before = true) :
    cutFrom .none before ('~' :: ([',', ' '].intercalate arguments ++ ['~'])) =
      ['~' :: ([',', ' '].intercalate arguments ++ ['~'])] := by
  let inside : Nesting := ⟨0, 1⟩
  have opens : Nesting.none.step before
      ([',', ' '].intercalate arguments ++ ['~']).head? '~' = inside := by
    simp only [Nesting.step, letter, besideLetter_arguments nonempty names]
    rfl
  have passes : ∀ c ∈ [',', ' '].intercalate arguments, inside.Passes c := by
    intro c hc
    rcases holdsOnly_arguments names c hc with h | h
    · exact Nesting.passes_of_isWord h _
    · simp only [List.mem_cons, List.not_mem_nil, or_false] at h
      rcases h with rfl | rfl <;> decide
  have closes : ∀ before, cutFrom inside before ['~'] = [['~']] := by
    intro before
    simp [cutFrom, Nesting.cutsAt]
  have rest : cutFrom inside (some '~') ([',', ' '].intercalate arguments ++ ['~']) =
      [[',', ' '].intercalate arguments ++ ['~']] := by
    rw [cutFrom_run passes, closes]
    rfl
  have tilde : Nesting.none.cutsAt '~' = false := by decide
  simp only [cutFrom, opens, rest, tilde, Bool.false_eq_true, if_false, List.modifyHead_cons]

/-- Up to its type a written property passes where nothing is open. -/
theorem passes_typed_front {name : List Char} (h : IsName name) :
    ∀ c ∈ '+' :: (name ++ [':', ' ']), Nesting.none.Passes c := by
  intro c hc
  rw [← List.cons_append, List.mem_append] at hc
  rcases hc with hc | hc
  · exact passes_plus_name h c hc
  · simp only [List.mem_cons, List.not_mem_nil, or_false] at hc
    rcases hc with rfl | rfl
    · decide
    · decide

/-- A written property whose type is a word with brackets is not cut. -/
theorem cutFrom_typed_plain {name rest : List Char} {c : Char} (h : IsName name)
    (first : isWord c = true) (others : ∀ d ∈ rest, isWord d = true ∨ d = '[' ∨ d = ']')
    (before : Option Char) :
    cutFrom .none before (writtenTyped name (c :: rest)) = [writtenTyped name (c :: rest)] := by
  have shape : writtenTyped name (c :: rest) = ('+' :: (name ++ [':', ' '])) ++ c :: rest := by
    simp [writtenTyped]
  apply cutFrom_uncut
  intro d hd
  rw [shape] at hd
  rcases List.mem_append.mp hd with hd | hd
  · exact passes_typed_front h d hd
  · rcases List.mem_cons.mp hd with rfl | hd
    · exact Nesting.passes_of_isWord first _
    · rcases others d hd with word | rfl | rfl
      · exact Nesting.passes_of_isWord word _
      · decide
      · decide

/-- A written property whose type has arguments is not cut: the counter of tildes is at one while
they are passed. -/
theorem cutFrom_typed_generic {name outer : List Char} {arguments : List (List Char)}
    (h : IsName name) (outerName : IsTypeName outer) (nonempty : arguments ≠ [])
    (names : ∀ a ∈ arguments, IsTypeName a) :
    cutFrom .none (some ' ')
        (writtenTyped name (outer ++ '~' :: ([',', ' '].intercalate arguments ++ ['~']))) =
      [writtenTyped name (outer ++ '~' :: ([',', ' '].intercalate arguments ++ ['~']))] := by
  have front : ∀ d ∈ '+' :: (name ++ [':', ' ']) ++ outer, Nesting.none.Passes d := by
    intro d hd
    rcases List.mem_append.mp hd with hd | hd
    · exact passes_typed_front h d hd
    · exact Nesting.passes_of_isWord (outerName.isName.2 d hd) _
  have letter : Nesting.besideLetter
      (charBefore (some ' ') ('+' :: (name ++ [':', ' ']) ++ outer)) = true := by
    rw [charBefore, List.foldl_append]
    exact besideLetter_charBefore outerName _
  have shape : writtenTyped name (outer ++ '~' :: ([',', ' '].intercalate arguments ++ ['~'])) =
      ('+' :: (name ++ [':', ' ']) ++ outer) ++
        '~' :: ([',', ' '].intercalate arguments ++ ['~']) := by
    simp [writtenTyped]
  rw [shape, cutFrom_run front, cutFrom_arguments nonempty names letter]
  rfl

/-- A written property with a type is one entry. -/
theorem entries_writtenTyped {name type : List Char} (h : IsName name) (ht : IsWritableType type) :
    entries (memberIndent ++ writtenTyped name type) = [writtenTyped name type] := by
  refine entries_indented (List.cons_ne_nil _ _) (isTrimmed_writtenTyped ht.ne_nil ht.getLast?)
    (by simp [writtenTyped]) ?_
  cases ht with
  | plain first others => exact cutFrom_typed_plain h first others _
  | generic outerName nonempty names => exact cutFrom_typed_generic h outerName nonempty names

end DiagramDiff.Mermaid
