import DiagramDiff.Proofs.Json.Atoms
import DiagramDiff.Proofs.Text.Lines

/-!
# JSON values, written and read

A value that is written compactly is read back (`ReadBack.ofText?_text`), provided its integers fit
into 64 bits, its floating point numbers are read back (`Readable`), and it is not nested too deeply.

The proof follows the structure of the value. A value ends where its text does, because what
follows it is a comma, a closing bracket or nothing. The count of steps that the reader recurses on
never runs out, since each level of the recursion has at least one character of its own: it is
enough that there are as many steps as characters.
-/

namespace DiagramDiff.Json

open Text

/-! ## Values that can be read back -/

mutual

/-- The numbers in a value are read back. -/
def Readable : Json → Prop
  | .int i => -(Binary64.pow2 63 : Int) ≤ i ∧ i < (Binary64.pow2 64 : Int)
  | .float x => x.ReadsBack
  | .array items => ItemsReadable items
  | .object members => MembersReadable members
  | _ => True

/-- The numbers in the items of an array are read back. -/
def ItemsReadable : List Json → Prop
  | [] => True
  | j :: rest => j.Readable ∧ ItemsReadable rest

/-- The numbers in the members of an object are read back. -/
def MembersReadable : List (String × Json) → Prop
  | [] => True
  | (_, j) :: rest => j.Readable ∧ MembersReadable rest

end

/-! ## How values begin -/

/-- Whether a value can begin with a character. -/
def startsValue (c : Char) : Bool := startsAtom c || c == '"' || c == '[' || c == '{'

/-- No value begins with white space. -/
theorem isSpace_of_startsValue {c : Char} (h : startsValue c = true) : isSpace c = false := by
  cases space : isSpace c with
  | false => rfl
  | true =>
    simp only [isSpace, Bool.or_eq_true, beq_iff_eq] at space
    rcases space with ((rfl | rfl) | rfl) | rfl <;> cases h

/-- A character with which an atom begins also begins a value. -/
theorem startsValue_of_startsAtom {c : Char} (h : startsAtom c = true) : startsValue c = true := by
  rw [startsValue, h]
  rfl

/-- No white space is skipped before a value. -/
theorem skipSpace_cons {c : Char} (h : startsValue c = true) (rest : List Char) :
    skipSpace (c :: rest) = c :: rest := by
  refine dropWhile_eq_self ?_
  exact isSpace_of_startsValue h

/-- No white space is skipped before a text that begins as a value does. -/
theorem skipSpace_of_starts {text : List Char} (h : text.head?.any startsValue = true)
    (rest : List Char) : skipSpace (text ++ rest) = text ++ rest := by
  cases text with
  | nil => cases h
  | cons c text => exact skipSpace_cons h (text ++ rest)

/-- The text of a value that is read back begins as a value does. -/
theorem Readable.starts {j : Json} (h : j.Readable) : j.compact.head?.any startsValue = true := by
  have atom : ∀ {text : List Char} {j : Json}, WritesAtom text j →
      text.head?.any startsValue = true := by
    intro text j writes
    have starts := writes.starts
    cases text with
    | nil => cases starts
    | cons c text => exact startsValue_of_startsAtom starts
  cases j with
  | null => rfl
  | bool b => cases b <;> rfl
  | int i =>
    rw [Readable] at h
    exact atom (writesAtom_of_readNumber? (readNumber?_int h.1 h.2))
  | float x => exact atom (writesAtom_of_readNumber? h)
  | string s => rfl
  | array items => rfl
  | object members => rfl

/-! ## Reading values -/

/-- An atom is read as a value. -/
theorem readValue_atom {text : List Char} {j : Json} (h : WritesAtom text j) {rest : List Char}
    (ends : rest.head?.any continuesNumber = false) (steps : Nat) :
    readValue (steps + 1) (text ++ rest) = some (j, rest) := by
  have read := h.read rest ends
  have starts := h.starts
  cases text with
  | nil => cases starts
  | cons c text =>
    have starts : startsAtom c = true := starts
    have skip : skipSpace (c :: text ++ rest) = c :: text ++ rest :=
      skipSpace_cons (startsValue_of_startsAtom starts) (text ++ rest)
    rw [readValue, skip]
    split
    · next same => cases (List.cons.inj same).1; cases starts
    · next same => cases (List.cons.inj same).1; cases starts
    · next same => cases (List.cons.inj same).1; cases starts
    · exact read

/-- A string is read as a value. -/
theorem readValue_quote (s : String) (rest : List Char) (steps : Nat) :
    readValue (steps + 1) (quote s ++ rest) = some (.string s, rest) := by
  have skip : skipSpace (quote s ++ rest) = quote s ++ rest := skipSpace_of_starts rfl rest
  have read := readChars_quoted s.toList rest
  rw [readValue, skip]
  simp only [quote, List.cons_append, List.append_assoc, List.nil_append, read, Option.map_some,
    String.ofList_toList]

/-- An array that is not empty is read as a value if its items are read. -/
theorem readValue_items {text rest : List Char} {items : List Json} {steps : Nat}
    (starts : text.head?.any startsValue = true)
    (read : readItems steps (text ++ rest) = some (items, rest)) :
    readValue (steps + 1) ('[' :: text ++ rest) = some (.array items, rest) := by
  have skip : skipSpace (text ++ rest) = text ++ rest := skipSpace_of_starts starts rest
  have open' : skipSpace ('[' :: text ++ rest) = '[' :: (text ++ rest) :=
    skipSpace_cons rfl (text ++ rest)
  rw [readValue, open']
  simp only [skip]
  split
  · next after same =>
    cases text with
    | nil => cases starts
    | cons c text =>
      cases (List.cons.inj same).1
      cases starts
  · rw [read]
    rfl

/-- An object that is not empty is read as a value if its members are read. -/
theorem readValue_members {text rest : List Char} {members : List (String × Json)} {steps : Nat}
    (starts : text.head? = some '"')
    (read : readMembers steps (text ++ rest) = some (members, rest)) :
    readValue (steps + 1) ('{' :: text ++ rest) = some (.object members, rest) := by
  obtain ⟨text, rfl⟩ := List.head?_eq_some_iff.mp starts
  have skip : skipSpace ('"' :: text ++ rest) = '"' :: (text ++ rest) :=
    skipSpace_cons rfl (text ++ rest)
  have open' : skipSpace ('{' :: '"' :: text ++ rest) = '{' :: ('"' :: text ++ rest) :=
    skipSpace_cons rfl ('"' :: text ++ rest)
  rw [readValue, open']
  simp only [skip]
  rw [← List.cons_append, read]
  rfl

/-- The last item of an array is read with the end of the array. -/
theorem readItems_last {text rest : List Char} {j : Json} {steps : Nat}
    (read : readValue steps text = some (j, ']' :: rest)) :
    readItems (steps + 1) text = some ([j], rest) := by
  rw [readItems, read]
  rfl

/-- An item of an array is read with those after it. -/
theorem readItems_next {text more rest : List Char} {j : Json} {items : List Json} {steps : Nat}
    (read : readValue steps text = some (j, ',' :: more))
    (later : readItems steps more = some (items, rest)) :
    readItems (steps + 1) text = some (j :: items, rest) := by
  rw [readItems, read]
  show consRead j (readItems steps more) = _
  rw [later]
  rfl

/-- What follows from the value of a member: the members after it, or the end of the object. -/
def readAfterValue (key : String) (steps : Nat) :
    Option (Json × List Char) → Option (List (String × Json) × List Char)
  | none => none
  | some (j, after) =>
    match skipSpace after with
    | ',' :: rest => consRead (key, j) (readMembers steps rest)
    | '}' :: rest => some ([(key, j)], rest)
    | _ => none

/-- The key of a member is read, and then its value. -/
theorem readMembers_key (key : String) (text : List Char) (steps : Nat) :
    readMembers (steps + 1) (quote key ++ ':' :: text) =
      readAfterValue key steps (readValue steps text) := by
  have skip : skipSpace (quote key ++ ':' :: text) = quote key ++ ':' :: text :=
    skipSpace_of_starts rfl (':' :: text)
  have read := readChars_quoted key.toList (':' :: text)
  have colon : skipSpace (':' :: text) = ':' :: text := rfl
  rw [readMembers, skip]
  simp only [quote, List.cons_append, List.append_assoc, List.nil_append, read, colon,
    String.ofList_toList]
  rfl

/-- The last member of an object is read with the end of the object. -/
theorem readMembers_last {key : String} {text rest : List Char} {j : Json} {steps : Nat}
    (read : readValue steps text = some (j, '}' :: rest)) :
    readMembers (steps + 1) (quote key ++ ':' :: text) = some ([(key, j)], rest) := by
  rw [readMembers_key, read]
  rfl

/-- A member of an object is read with those after it. -/
theorem readMembers_next {key : String} {text more rest : List Char} {j : Json}
    {members : List (String × Json)} {steps : Nat}
    (read : readValue steps text = some (j, ',' :: more))
    (later : readMembers steps more = some (members, rest)) :
    readMembers (steps + 1) (quote key ++ ':' :: text) = some ((key, j) :: members, rest) := by
  rw [readMembers_key, read]
  show consRead (key, j) (readMembers steps more) = _
  rw [later]
  rfl

mutual

/-- A value is read back from its compact text, whatever follows it. -/
theorem readValue_compact (j : Json) (h : j.Readable) {steps : Nat}
    (enough : j.compact.length ≤ steps) {rest : List Char}
    (ends : rest.head?.any continuesNumber = false) :
    readValue steps (j.compact ++ rest) = some (j, rest) := by
  obtain ⟨steps, rfl⟩ : ∃ n, steps = n + 1 := by
    have starts := h.starts
    cases steps with
    | zero =>
      rw [List.length_eq_zero_iff.mp (Nat.le_zero.mp enough)] at starts
      cases starts
    | succ n => exact ⟨n, rfl⟩
  match j with
  | .null => exact readValue_atom ⟨rfl, fun _ _ => rfl⟩ ends steps
  | .bool true => exact readValue_atom ⟨rfl, fun _ _ => rfl⟩ ends steps
  | .bool false => exact readValue_atom ⟨rfl, fun _ _ => rfl⟩ ends steps
  | .int i =>
    rw [Readable] at h
    exact readValue_atom (writesAtom_of_readNumber? (readNumber?_int h.1 h.2)) ends steps
  | .float x => exact readValue_atom (writesAtom_of_readNumber? h) ends steps
  | .string s => exact readValue_quote s rest steps
  | .array [] => rfl
  | .array (j :: items) =>
    rw [Readable] at h
    simp only [compact, List.length_cons, Nat.add_le_add_iff_right] at enough
    have starts : (compactItems (j :: items)).head?.any startsValue = true := by
      have first := h.1.starts
      cases items <;> simp only [compactItems] <;> cases text : j.compact <;> simp_all
    exact readValue_items starts (readItems_compact j items h enough)
  | .object [] => rfl
  | .object ((key, j) :: members) =>
    rw [Readable] at h
    simp only [compact, List.length_cons, Nat.add_le_add_iff_right] at enough
    have starts : (compactMembers ((key, j) :: members)).head? = some '"' := by
      cases members <;> rfl
    exact readValue_members starts (readMembers_compact key j members h enough)
termination_by steps

/-- The items of an array are read back from their compact text. -/
theorem readItems_compact (j : Json) (items : List Json) (h : ItemsReadable (j :: items))
    {steps : Nat} (enough : (compactItems (j :: items)).length ≤ steps) {rest : List Char} :
    readItems steps (compactItems (j :: items) ++ rest) = some (j :: items, rest) := by
  rw [ItemsReadable] at h
  match items with
  | [] =>
    simp only [compactItems, List.length_append, List.length_cons, List.length_nil] at enough
    obtain ⟨steps, rfl⟩ : ∃ n, steps = n + 1 := ⟨steps - 1, by omega⟩
    rw [compactItems, List.append_assoc]
    exact readItems_last (readValue_compact j h.1 (by omega) rfl)
  | next :: items =>
    simp only [compactItems, List.length_append, List.length_cons] at enough
    obtain ⟨steps, rfl⟩ : ∃ n, steps = n + 1 := ⟨steps - 1, by omega⟩
    have later : readItems steps (compactItems (next :: items) ++ rest) =
        some (next :: items, rest) := readItems_compact next items h.2 (by omega)
    rw [compactItems, List.append_assoc]
    · exact readItems_next (readValue_compact j h.1 (by omega) rfl) later
    · exact List.cons_ne_nil next items
termination_by steps

/-- The members of an object are read back from their compact text. -/
theorem readMembers_compact (key : String) (j : Json) (members : List (String × Json))
    (h : MembersReadable ((key, j) :: members)) {steps : Nat}
    (enough : (compactMembers ((key, j) :: members)).length ≤ steps) {rest : List Char} :
    readMembers steps (compactMembers ((key, j) :: members) ++ rest) =
      some ((key, j) :: members, rest) := by
  rw [MembersReadable] at h
  match members with
  | [] =>
    simp only [compactMembers, List.length_append, List.length_cons, List.length_nil] at enough
    obtain ⟨steps, rfl⟩ : ∃ n, steps = n + 1 := ⟨steps - 1, by omega⟩
    rw [compactMembers, List.append_assoc, List.cons_append, List.append_assoc]
    exact readMembers_last (readValue_compact j h.1 (by omega) rfl)
  | (next, value) :: members =>
    simp only [compactMembers, List.length_append, List.length_cons] at enough
    obtain ⟨steps, rfl⟩ : ∃ n, steps = n + 1 := ⟨steps - 1, by omega⟩
    have later : readMembers steps (compactMembers ((next, value) :: members) ++ rest) =
        some ((next, value) :: members, rest) :=
      readMembers_compact next value members h.2 (by omega)
    rw [compactMembers, List.append_assoc, List.cons_append, List.append_assoc]
    · exact readMembers_next (readValue_compact j h.1 (by omega) rfl) later
    · exact List.cons_ne_nil (next, value) members
termination_by steps

end

/-! ## Texts -/

/-- A value is read back from its text: its numbers are, and it is nested at most so deep. -/
structure ReadBack (n : Nat) (j : Json) : Prop where
  /-- The numbers are read back. -/
  readable : j.Readable
  /-- The value is nested no deeper. -/
  shallow : j.depth ≤ n

/-- A string is read back. -/
theorem ReadBack.string (n : Nat) (s : String) : ReadBack n (.string s) := ⟨trivial, Nat.zero_le n⟩

/-- A value that is read back is so with more levels allowed. -/
theorem ReadBack.mono {j : Json} {m n : Nat} (h : ReadBack m j) (le : m ≤ n) : ReadBack n j :=
  ⟨h.readable, Nat.le_trans h.shallow le⟩

/-- An array is read back one level deeper than its items. -/
theorem ReadBack.array {items : List Json} {n : Nat} (h : ∀ j ∈ items, ReadBack n j) :
    ReadBack (n + 1) (.array items) := by
  have both : ItemsReadable items ∧ itemsDepth items ≤ n := by
    induction items with
    | nil => exact ⟨trivial, Nat.zero_le n⟩
    | cons j items ih =>
      have first := h j List.mem_cons_self
      obtain ⟨readable, shallow⟩ := ih fun j' hj' => h j' (List.mem_cons_of_mem j hj')
      exact ⟨⟨first.readable, readable⟩, Nat.max_le.mpr ⟨first.shallow, shallow⟩⟩
  exact ⟨both.1, Nat.add_le_add_right both.2 1⟩

/-- An object is read back one level deeper than the values of its members. -/
theorem ReadBack.object {members : List (String × Json)} {n : Nat}
    (h : ∀ m ∈ members, ReadBack n m.2) : ReadBack (n + 1) (.object members) := by
  have both : MembersReadable members ∧ membersDepth members ≤ n := by
    induction members with
    | nil => exact ⟨trivial, Nat.zero_le n⟩
    | cons m members ih =>
      have first := h m List.mem_cons_self
      obtain ⟨readable, shallow⟩ := ih fun m' hm' => h m' (List.mem_cons_of_mem m hm')
      exact ⟨⟨first.readable, readable⟩, Nat.max_le.mpr ⟨first.shallow, shallow⟩⟩
  exact ⟨both.1, Nat.add_le_add_right both.2 1⟩

/-- A value that is not nested too deeply is read back from its text. -/
theorem ReadBack.ofText?_text {j : Json} {n : Nat} (h : ReadBack n j) (le : n ≤ maxDepth) :
    ofText? j.text = some j := by
  have read : readValue (2 * j.compact.length + 2) (j.compact ++ []) = some (j, []) :=
    readValue_compact j h.readable (by omega) rfl
  rw [List.append_nil] at read
  rw [ofText?, text, String.toList_ofList, ofChars?, read]
  simp only [decide_eq_true (Nat.le_trans h.shallow le)]
  rfl

/-! ## One line -/

/-- An integer is written on one line. -/
theorem newline_not_mem_int (i : Int) : '\n' ∉ (toString i).toList := by
  rw [Int.toString_eq_repr, Int.repr_eq_if]
  split <;> simp [not_mem_toDigits]

/-- A floating point number is written on one line. -/
theorem newline_not_mem_float (x : Binary64) :
    '\n' ∉ (Decimal.text Decimal.documentLayout x).toList := by
  have digits : ∀ n, '\n' ∉ Nat.toDigits 10 n := not_mem_toDigits (by decide)
  have taken : ∀ n k, '\n' ∉ (Nat.toDigits 10 n).take k := fun n k member =>
    digits n (List.mem_of_mem_take member)
  have dropped : ∀ n k, '\n' ∉ (Nat.toDigits 10 n).drop k := fun n k member =>
    digits n (List.mem_of_mem_drop member)
  have wholeEnd : '\n' ∉ Decimal.documentLayout.wholeEnd.toList := by decide
  have placed : ∀ d, '\n' ∉ (Decimal.placed Decimal.documentLayout d).toList := by
    intro d
    simp only [Decimal.placed]
    split
    · simp [digits, wholeEnd, List.mem_replicate]
    · split <;> simp [digits, taken, dropped, List.mem_replicate]
  have scientific : ∀ d, '\n' ∉ (Decimal.scientific d).toList := by
    intro d
    simp only [Decimal.scientific, String.toList_append, String.toList_ofList, List.mem_append,
      not_or]
    refine ⟨⟨⟨taken _ _, ?_⟩, by decide⟩, newline_not_mem_int _⟩
    split
    · exact List.not_mem_nil
    · exact List.not_mem_cons_of_ne_of_not_mem (by decide) (dropped _ _)
  have unsigned : '\n' ∉ (Decimal.unsignedText Decimal.documentLayout x).toList := by
    simp only [Decimal.unsignedText]
    split
    · decide
    · split
      · decide
      · split
        · exact placed _
        · exact scientific _
  unfold Decimal.text
  split
  · decide
  · split
    · simp [unsigned]
    · exact unsigned

/-- A string is written on one line. -/
theorem newline_not_mem_quote (s : String) : '\n' ∉ quote s := by
  have escaped : ∀ c, '\n' ∉ escapeChar c := by
    intro c
    by_cases control : c.toNat < 32
    · have codes : ∀ n < 32, '\n' ∉ escapeChar (Char.ofNat n) := by decide
      rw [← Char.ofNat_toNat c]
      exact codes c.toNat control
    · have other : '\n' ≠ c := by
        rintro rfl
        exact control (by decide)
      unfold escapeChar
      repeat' split
      all_goals first | decide | simp [other]
  simp [quote, escaped]

mutual

/-- A value is written on one line. -/
theorem newline_not_mem_compact (j : Json) : '\n' ∉ j.compact := by
  match j with
  | .null | .bool true | .bool false => decide
  | .int i => exact newline_not_mem_int i
  | .float x => exact newline_not_mem_float x
  | .string s => exact newline_not_mem_quote s
  | .array items => simp [compact, newline_not_mem_compactItems items]
  | .object members => simp [compact, newline_not_mem_compactMembers members]

/-- The items of an array are written on one line. -/
theorem newline_not_mem_compactItems (items : List Json) : '\n' ∉ compactItems items := by
  match items with
  | [] => decide
  | [j] => simp [compactItems, newline_not_mem_compact j]
  | j :: next :: rest =>
    simp [compactItems, newline_not_mem_compact j, newline_not_mem_compactItems (next :: rest)]

/-- The members of an object are written on one line. -/
theorem newline_not_mem_compactMembers (members : List (String × Json)) :
    '\n' ∉ compactMembers members := by
  match members with
  | [] => decide
  | [(key, j)] => simp [compactMembers, newline_not_mem_quote key, newline_not_mem_compact j]
  | (key, j) :: next :: rest =>
    simp [compactMembers, newline_not_mem_quote key, newline_not_mem_compact j,
      newline_not_mem_compactMembers (next :: rest)]

end

end DiagramDiff.Json
