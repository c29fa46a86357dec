import DiagramDiff.Proofs.Mermaid.WrittenMembers

/-!
# Type arguments within type arguments

A type is a name with an optional list of type arguments, which are types themselves. Two readers
meet such a type, and they tell its lists apart by different means. Cutting a body into entries
counts the lists that are open, so it keeps a type in one piece however deep its lists are nested
(`cut_writtenTerm`). Reading a type pairs the tildes from left to right instead, so a list that
stands in an odd number of others lies outside every pair. Without a comma there this makes no
difference, and the type is read whole (`typeTail_chars`); a comma there ends it
(`exists_comma_typeTail_chars`). `TypeTerm.commasInPairs` tells the two cases apart.
-/

namespace DiagramDiff.Mermaid

open Text

/-! ## Types -/

/-- The name of a type. -/
structure TypeName where
  /-- Its characters. -/
  word : List Char
  /-- They are name letters. -/
  isTypeName : IsTypeName word

/-- A name with a list of type arguments; a type without arguments has the empty list. -/
inductive TypeTerm where
  /-- A type from its name and its arguments. -/
  | of (name : TypeName) (arguments : List TypeTerm)

namespace TypeTerm

mutual

/-- A type as it is written, such as `Map~String, List~int~~`. -/
def chars : TypeTerm → List Char
  | of name [] => name.word
  | of name (first :: others) => name.word ++ (['~'] ++ (first.chars ++ othersChars others))

/-- The type arguments after the first one, with the tilde that ends the list. -/
def othersChars : List TypeTerm → List Char
  | [] => ['~']
  | next :: others => [',', ' '] ++ (next.chars ++ othersChars others)

end

mutual

/-- Whether every comma of a type stands between paired tildes when the tildes are paired from left
to right; `inside` says whether the type itself stands between two of them. The list of a type that
does so lies outside, so it must not have more than one argument. -/
def commasInPairs (inside : Bool) : TypeTerm → Bool
  | of _ [] => true
  | of _ (first :: others) =>
    (!inside || others.isEmpty) && first.commasInPairs (!inside) &&
      othersInPairs (!inside) others

/-- Whether every comma within the further type arguments of a list stands between paired tildes. -/
def othersInPairs (inside : Bool) : List TypeTerm → Bool
  | [] => true
  | next :: others => next.commasInPairs inside && othersInPairs inside others

end

/-- The text of a type. -/
def text (t : TypeTerm) : String := String.ofList t.chars

/-- A type begins with a letter of its name. -/
theorem exists_cons (t : TypeTerm) :
    ∃ c rest, t.chars = c :: rest ∧ isWord c = true ∧ isNameLetter c = true := by
  obtain ⟨⟨word, isTypeName⟩, arguments⟩ := t
  obtain ⟨c, rest, rfl, hc, -⟩ := isTypeName.isName.exists_cons
  have letter : isNameLetter c = true := isTypeName.letters c List.mem_cons_self
  cases arguments with
  | nil => exact ⟨c, rest, rfl, hc, letter⟩
  | cons first others => exact ⟨c, _, rfl, hc, letter⟩

/-- A type is not empty. -/
theorem chars_ne_nil (t : TypeTerm) : t.chars ≠ [] := by
  obtain ⟨c, rest, shape, -⟩ := t.exists_cons
  rw [shape]
  exact List.cons_ne_nil c rest

/-- A type begins with a name letter, whatever comes after it. -/
theorem besideLetter_chars (t : TypeTerm) (rest : List Char) :
    Nesting.besideLetter (t.chars ++ rest).head? = true := by
  obtain ⟨c, tail, shape, -, letter⟩ := t.exists_cons
  rw [shape]
  exact letter

/-- What stands after the first type argument begins with a comma or a tilde, not with a letter. -/
theorem besideLetter_othersChars (others : List TypeTerm) (rest : List Char) :
    Nesting.besideLetter (othersChars others ++ rest).head? = false := by
  cases others with
  | nil =>
    rw [othersChars]
    exact (by decide : isNameLetter '~' = false)
  | cons next others =>
    rw [othersChars]
    exact (by decide : isNameLetter ',' = false)

/-- A list of type arguments ends with a tilde. -/
theorem getLast?_othersChars (others : List TypeTerm) :
    (othersChars others).getLast? = some '~' := by
  induction others with
  | nil => rw [othersChars]; rfl
  | cons next others ih =>
    rw [othersChars, List.getLast?_append, List.getLast?_append, ih]
    rfl

/-- There is a tilde after every type argument. -/
theorem tilde_mem_othersChars (others : List TypeTerm) (rest : List Char) :
    '~' ∈ othersChars others ++ rest :=
  List.mem_append_left _ (List.mem_of_getLast? (getLast?_othersChars others))

/-- The last character of a type is no white space. -/
theorem getLast?_chars (t : TypeTerm) : t.chars.getLast?.any isWhiteSpace = false := by
  obtain ⟨⟨word, isTypeName⟩, arguments⟩ := t
  cases arguments with
  | nil =>
    rw [chars]
    exact any_getLast?_eq_false fun c hc => isWhiteSpace_of_isWord (isTypeName.isName.2 c hc)
  | cons first others =>
    have last : (of ⟨word, isTypeName⟩ (first :: others)).chars.getLast? = some '~' := by
      rw [chars, List.getLast?_append, List.getLast?_append, List.getLast?_append,
        getLast?_othersChars]
      rfl
    rw [last]
    decide

mutual

/-- A type holds words, tildes, commas and spaces. -/
theorem holdsOnly_chars : (t : TypeTerm) → HoldsOnly ['~', ',', ' '] t.chars
  | of name [] => by
    rw [chars]
    exact name.isTypeName.isName.holdsOnly _
  | of name (first :: others) => by
    have tilde : HoldsOnly ['~', ',', ' '] ['~'] := .of_subset (by decide)
    rw [chars]
    exact (name.isTypeName.isName.holdsOnly _).append
      (tilde.append (first.holdsOnly_chars.append (holdsOnly_othersChars others)))

/-- Further type arguments hold words, tildes, commas and spaces. -/
theorem holdsOnly_othersChars : (others : List TypeTerm) →
    HoldsOnly ['~', ',', ' '] (othersChars others)
  | [] => by
    rw [othersChars]
    exact .of_subset (by decide)
  | next :: others => by
    have comma : HoldsOnly ['~', ',', ' '] [',', ' '] := .of_subset (by decide)
    rw [othersChars]
    exact comma.append (next.holdsOnly_chars.append (holdsOnly_othersChars others))

end

end TypeTerm

/-! ## Cutting: lists are counted -/

/-- The nesting within one more list of type arguments. -/
def Nesting.inList (n : Nesting) : Nesting := { n with arguments := n.arguments + 1 }

/-- A tilde between letters opens a list. -/
theorem uncut_opening {n : Nesting} {before : Option Char} {rest : List Char}
    (hb : Nesting.besideLetter before = true) (ha : Nesting.besideLetter rest.head? = true) :
    Uncut n n.inList before ['~'] rest := by
  refine .of_step (by simp [Nesting.cutsAt]) ?_
  simp only [Nesting.step, hb, ha]
  rfl

/-- A tilde with no letter after it closes a list. -/
theorem uncut_closing {n : Nesting} {before : Option Char} {rest : List Char}
    (ha : Nesting.besideLetter rest.head? = false) : Uncut n.inList n before ['~'] rest := by
  refine .of_step (by simp [Nesting.cutsAt]) ?_
  simp only [Nesting.step, ha, Bool.and_false]
  rfl

/-- The comma between type arguments does not cut, because a list is open there. -/
theorem uncut_comma (n : Nesting) (before : Option Char) (rest : List Char) :
    Uncut n.inList n.inList before [',', ' '] rest := by
  refine cutFrom_run (fun c hc => ?_) before rest
  simp only [List.mem_cons, List.not_mem_nil, or_false] at hc
  rcases hc with rfl | rfl
  · exact ⟨by decide, by decide, by decide, by simp [Nesting.cutsAt, Nesting.inList]⟩
  · exact ⟨by decide, by decide, by decide, by simp [Nesting.cutsAt]⟩

/-- The name of a type is not cut. -/
theorem uncut_name (name : TypeName) (n : Nesting) (before : Option Char) (rest : List Char) :
    Uncut n n before name.word rest :=
  cutFrom_run (fun c hc => Nesting.passes_of_isWord (name.isTypeName.isName.2 c hc) n) before rest

mutual

/-- A type is not cut, and behind it the nesting is as it was in front. -/
theorem uncut_chars : (t : TypeTerm) → (n : Nesting) → (before : Option Char) →
    (rest : List Char) → Nesting.besideLetter rest.head? = false →
    Uncut n n before t.chars rest
  | .of name [], n, before, rest, _ => by
    rw [TypeTerm.chars]
    exact uncut_name name n before rest
  | .of name (first :: others), n, before, rest, h => by
    have opening : Uncut n n.inList (charBefore before name.word) ['~']
        ((first.chars ++ TypeTerm.othersChars others) ++ rest) := by
      rw [List.append_assoc]
      exact uncut_opening (besideLetter_charBefore name.isTypeName before)
        (first.besideLetter_chars _)
    have argument := uncut_chars first n.inList
      (charBefore (charBefore before name.word) ['~']) (TypeTerm.othersChars others ++ rest)
      (TypeTerm.besideLetter_othersChars others rest)
    rw [TypeTerm.chars]
    exact (uncut_name name n before _).append
      (opening.append (argument.append (uncut_othersChars others n _ rest h)))

/-- Further type arguments are not cut, and the tilde behind them closes their list. -/
theorem uncut_othersChars : (others : List TypeTerm) → (n : Nesting) → (before : Option Char) →
    (rest : List Char) → Nesting.besideLetter rest.head? = false →
    Uncut n.inList n before (TypeTerm.othersChars others) rest
  | [], n, before, rest, h => by
    rw [TypeTerm.othersChars]
    exact uncut_closing h
  | next :: others, n, before, rest, h => by
    have argument := uncut_chars next n.inList (charBefore before [',', ' '])
      (TypeTerm.othersChars others ++ rest) (TypeTerm.besideLetter_othersChars others rest)
    rw [TypeTerm.othersChars]
    exact (uncut_comma n before _).append
      (argument.append (uncut_othersChars others n _ rest h))

end

/-! ## Reading: tildes are paired -/

/-- A run of characters that belongs to a type; `inside` and `inside'` say whether a list is open in
front of it and behind it. -/
def Taken (inside inside' : Bool) (run rest : List Char) : Prop :=
  typeTail inside (run ++ rest) = (run ++ (typeTail inside' rest).1, (typeTail inside' rest).2)

/-- A text at one of whose commas a type ends. -/
def EndsAtComma (inside : Bool) (text : List Char) : Prop :=
  ∃ after, (typeTail inside text).2 = ',' :: after

section taken

variable {inside inside' inside'' : Bool} {run more rest : List Char}

/-- One run after the other belongs to a type. -/
theorem Taken.append (h : Taken inside inside' run (more ++ rest))
    (h' : Taken inside' inside'' more rest) : Taken inside inside'' (run ++ more) rest := by
  unfold Taken at h h' ⊢
  rw [List.append_assoc, h, h', List.append_assoc]

/-- A type ends where it ends after a run that belongs to it. -/
theorem Taken.endsAtComma (h : Taken inside inside' run rest) (stop : EndsAtComma inside' rest) :
    EndsAtComma inside (run ++ rest) := by
  obtain ⟨after, stop⟩ := stop
  refine ⟨after, ?_⟩
  rw [h]
  exact stop

/-- A tilde opens a list or closes one, if there is another tilde to close the list it opens. -/
theorem taken_tilde (h : inside = false → '~' ∈ rest) : Taken inside (!inside) ['~'] rest := by
  have paired : (inside || rest.contains '~') = true := by
    cases inside with
    | false => simpa using h rfl
    | true => rfl
  simp only [Taken, List.singleton_append, typeTail, paired, if_true]

/-- The comma between type arguments belongs to a type within a pair of tildes. -/
theorem taken_comma (rest : List Char) : Taken true true [',', ' '] rest :=
  typeTail_run (forall_mem_of_all (by decide)) rest

/-- Outside every pair of tildes a comma ends a type. -/
theorem endsAtComma_outside (rest : List Char) : EndsAtComma false (',' :: rest) := by
  have other : isTypeChar ',' = false := by decide
  exact ⟨rest, by simp [typeTail, other]⟩

/-- The name of a type belongs to it. -/
theorem taken_name (name : TypeName) (inside : Bool) (rest : List Char) :
    Taken inside inside name.word rest :=
  typeTail_run (fun c hc => typeChar_of_isWord (name.isTypeName.isName.2 c hc) inside) rest

end taken

mutual

/-- A type all of whose commas stand between paired tildes is taken whole. -/
theorem taken_chars : (t : TypeTerm) → (inside : Bool) → (rest : List Char) →
    (inside = true → '~' ∈ rest) → t.commasInPairs inside = true →
    Taken inside inside t.chars rest
  | .of name [], inside, rest, _, _ => by
    rw [TypeTerm.chars]
    exact taken_name name inside rest
  | .of name (first :: others), inside, rest, closed, paired => by
    rw [TypeTerm.commasInPairs, Bool.and_eq_true, Bool.and_eq_true] at paired
    obtain ⟨⟨listed, inFirst⟩, inOthers⟩ := paired
    have tilde := TypeTerm.tilde_mem_othersChars others rest
    have opening : Taken inside (!inside) ['~']
        ((first.chars ++ TypeTerm.othersChars others) ++ rest) := by
      refine taken_tilde fun _ => ?_
      rw [List.append_assoc]
      exact List.mem_append_right _ tilde
    have argument := taken_chars first (!inside) (TypeTerm.othersChars others ++ rest)
      (fun _ => tilde) inFirst
    have further := taken_othersChars others (!inside) rest
      (fun outside => closed (by simpa using outside)) listed inOthers
    rw [Bool.not_not] at further
    rw [TypeTerm.chars]
    exact (taken_name name inside _).append (opening.append (argument.append further))

/-- Further type arguments are taken whole if they stand between paired tildes with their commas,
and also if there are none. -/
theorem taken_othersChars : (others : List TypeTerm) → (inside : Bool) → (rest : List Char) →
    (inside = false → '~' ∈ rest) → (inside || others.isEmpty) = true →
    TypeTerm.othersInPairs inside others = true →
    Taken inside (!inside) (TypeTerm.othersChars others) rest
  | [], inside, rest, closed, _, _ => by
    rw [TypeTerm.othersChars]
    exact taken_tilde closed
  | next :: others, inside, rest, closed, listed, paired => by
    obtain rfl : inside = true := by simpa using listed
    rw [TypeTerm.othersInPairs, Bool.and_eq_true] at paired
    have argument := taken_chars next true (TypeTerm.othersChars others ++ rest)
      (fun _ => TypeTerm.tilde_mem_othersChars others rest) paired.1
    have further := taken_othersChars others true rest closed rfl paired.2
    rw [TypeTerm.othersChars]
    exact (taken_comma _).append (argument.append further)

end

mutual

/-- A type with a comma outside every pair of tildes ends at such a comma. -/
theorem endsAtComma_chars : (t : TypeTerm) → (inside : Bool) → (rest : List Char) →
    (inside = true → '~' ∈ rest) → t.commasInPairs inside = false →
    EndsAtComma inside (t.chars ++ rest)
  | .of name [], _, _, _, unpaired => by
    rw [TypeTerm.commasInPairs] at unpaired
    cases unpaired
  | .of name (first :: others), inside, rest, closed, unpaired => by
    have tilde := TypeTerm.tilde_mem_othersChars others rest
    have opening : Taken inside (!inside) ['~']
        (first.chars ++ (TypeTerm.othersChars others ++ rest)) :=
      taken_tilde fun _ => List.mem_append_right _ tilde
    have stop : EndsAtComma (!inside) (first.chars ++ (TypeTerm.othersChars others ++ rest)) := by
      cases inFirst : first.commasInPairs (!inside) with
      | false => exact endsAtComma_chars first (!inside) _ (fun _ => tilde) inFirst
      | true =>
        rw [TypeTerm.commasInPairs, inFirst, Bool.and_true] at unpaired
        exact (taken_chars first (!inside) _ (fun _ => tilde) inFirst).endsAtComma
          (endsAtComma_othersChars others (!inside) rest
            (fun outside => closed (by simpa using outside)) unpaired)
    rw [TypeTerm.chars, List.append_assoc, List.append_assoc, List.append_assoc]
    exact (taken_name name inside _).endsAtComma (opening.endsAtComma stop)

/-- Further type arguments outside every pair of tildes end a type at the comma before them, and so
do those that hold a comma outside every pair. -/
theorem endsAtComma_othersChars : (others : List TypeTerm) → (inside : Bool) →
    (rest : List Char) → (inside = false → '~' ∈ rest) →
    ((inside || others.isEmpty) && TypeTerm.othersInPairs inside others) = false →
    EndsAtComma inside (TypeTerm.othersChars others ++ rest)
  | [], inside, _, _, unpaired => by
    simp [TypeTerm.othersInPairs] at unpaired
  | next :: others, false, rest, _, _ => by
    rw [TypeTerm.othersChars]
    exact endsAtComma_outside _
  | next :: others, true, rest, closed, unpaired => by
    have tilde := TypeTerm.tilde_mem_othersChars others rest
    have stop : EndsAtComma true (next.chars ++ (TypeTerm.othersChars others ++ rest)) := by
      cases inNext : next.commasInPairs true with
      | false => exact endsAtComma_chars next true _ (fun _ => tilde) inNext
      | true =>
        rw [TypeTerm.othersInPairs, inNext] at unpaired
        exact (taken_chars next true _ (fun _ => tilde) inNext).endsAtComma
          (endsAtComma_othersChars others true rest closed unpaired)
    rw [TypeTerm.othersChars, List.append_assoc, List.append_assoc]
    exact (taken_comma _).endsAtComma stop

end

end DiagramDiff.Mermaid
