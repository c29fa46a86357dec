import DiagramDiff.Json.Printer
import DiagramDiff.Json.Reader
import DiagramDiff.Proofs.Text.Characters

/-!
# Strings and numbers of JSON, written and read

A string is read back whatever it holds, because each character is (`readChars_escapeChar`). A
number is read back if its text is, whatever follows it: the readers of numbers look at one
character beyond the number, and only digits, a point and the marks of an exponent would be taken
for more of it (`readNumber?_append`).

Integers are read back as far as they fit into 64 bits. For floating point numbers this is a
condition, `Binary64.ReadsBack`, because the reader rounds twice and may miss the number that was
written by its last place.
-/

namespace DiagramDiff

namespace Json

open Text

/-! ## Strings -/

/-- A hexadecimal digit is read as its value. -/
theorem hexValue?_hexDigit (n : Nat) : hexValue? (hexDigit n) = some (n % 16) := by
  have digits : ∀ d < 16, hexValue? (Nat.digitChar d) = some d := by decide
  exact digits (n % 16) (Nat.mod_lt n (by decide))

/-- A control character is read back from its code. -/
theorem hexQuad?_control {c : Char} (h : c.toNat < 32) :
    hexQuad? '0' '0' (hexDigit (c.toNat / 16)) (hexDigit c.toNat) = some c.toNat := by
  have zero : hexValue? '0' = some 0 := by decide
  have code : ((0 * 16 + 0) * 16 + c.toNat / 16 % 16) * 16 + c.toNat % 16 = c.toNat := by omega
  simp only [hexQuad?, zero, hexValue?_hexDigit, code]

/-- A character is read back from the characters that write it. -/
theorem readChars_escapeChar (c : Char) (rest : List Char) :
    readChars (escapeChar c ++ rest) = consRead c (readChars rest) := by
  by_cases named : c ∈ ['"', '\\', '\n', '\r', '\t', '\x08', '\x0c']
  · simp only [List.mem_cons, List.not_mem_nil, or_false] at named
    rcases named with rfl | rfl | rfl | rfl | rfl | rfl | rfl <;> rfl
  · simp only [List.mem_cons, List.not_mem_nil, or_false, not_or] at named
    obtain ⟨quote, backslash, newline, carriage, tab, backspace, feed⟩ := named
    simp only [escapeChar, quote, backslash, newline, carriage, tab, backspace, feed, if_false]
    by_cases control : c.toNat < 32
    · have small : c.toNat < 0xD800 := by omega
      rw [if_pos control]
      simp only [List.cons_append, List.nil_append]
      rw [readChars, hexQuad?_control control]
      simp only [small, true_or, if_true, Char.ofNat_toNat]
    · rw [if_neg control]
      simp only [List.cons_append, List.nil_append]
      rw [readChars]
      · simp only [control, backslash, or_self, if_false]
      · exact quote
      · exact fun _ _ _ _ _ same _ => backslash same
      · exact fun _ _ same _ => backslash same

/-- A string is read back up to its closing quote. -/
theorem readChars_quoted (s rest : List Char) :
    readChars (s.flatMap escapeChar ++ '"' :: rest) = some (s, rest) := by
  induction s with
  | nil => rw [List.flatMap_nil, List.nil_append, readChars]
  | cons c s ih =>
    rw [List.flatMap_cons, List.append_assoc, readChars_escapeChar, ih]
    rfl

/-! ## Numbers and what follows them -/

/-- Whether a character after a number could belong to it. -/
def continuesNumber (c : Char) : Bool := c.isDigit || c == '.' || c == 'e' || c == 'E'

/-- Without a point there is no fraction. -/
theorem readFraction?_of_head {text : List Char} (h : text.head? ≠ some '.') :
    readFraction? text = some ([], text) := by
  unfold readFraction?
  split
  · exact absurd rfl h
  · rfl

/-- Whether an exponent is negative, and the text after its sign. -/
def exponentSign : List Char → Bool × List Char
  | '-' :: rest => (true, rest)
  | '+' :: rest => (false, rest)
  | text => (false, text)

/-- The sign of an exponent does not depend on what follows its text. -/
theorem exponentSign_append {text : List Char} (h : text ≠ []) (rest : List Char) :
    exponentSign (text ++ rest) = ((exponentSign text).1, (exponentSign text).2 ++ rest) := by
  cases text with
  | nil => exact absurd rfl h
  | cons c text =>
    by_cases sign : c = '-' ∨ c = '+'
    · rcases sign with rfl | rfl <;> rfl
    · obtain ⟨minus, plus⟩ := not_or.mp sign
      have unsigned : ∀ tail, exponentSign (c :: tail) = (false, c :: tail) := by
        intro tail
        unfold exponentSign
        split
        · next same => exact absurd (List.cons.inj same).1 minus
        · next same => exact absurd (List.cons.inj same).1 plus
        · rfl
      rw [List.cons_append, unsigned, unsigned]
      rfl

/-- After its mark an exponent has a sign, if any, and at least one digit. -/
theorem readExponent?_mark {c : Char} (h : c = 'e' ∨ c = 'E') (text : List Char) :
    readExponent? (c :: text) =
      match (exponentSign text).2.takeWhile Char.isDigit with
      | [] => none
      | digits =>
        some (some (if (exponentSign text).1 then -(ofDigits digits : Int) else ofDigits digits),
          (exponentSign text).2.dropWhile Char.isDigit) := by
  simp only [readExponent?, h, if_true]
  rfl

/-- Without a mark there is no exponent. -/
theorem readExponent?_of_head {text : List Char}
    (h : text.head?.any (fun c => c == 'e' || c == 'E') = false) :
    readExponent? text = some (none, text) := by
  cases text with
  | nil => rfl
  | cons c text =>
    have unmarked : ¬ (c = 'e' ∨ c = 'E') := by simpa using h
    simp only [readExponent?, unmarked, if_false]

/-- Without a sign in front a number is read from its first character on. -/
theorem readNumber?_of_head {c : Char} (h : c ≠ '-') (text : List Char) :
    readNumber? (c :: text) = readUnsigned? false (c :: text) := by
  unfold readNumber?
  split
  · next same => exact absurd (List.cons.inj same).1 h
  · rfl

section following

variable {text rest after : List Char} (h : rest.head?.any continuesNumber = false)

include h

/-- What ends a number begins with no character of a class that could continue it. -/
theorem any_head?_of_continuesNumber {p : Char → Bool}
    (hp : ∀ c, p c = true → continuesNumber c = true) : rest.head?.any p = false := by
  cases rest with
  | nil => rfl
  | cons c rest =>
    have ends : continuesNumber c = false := h
    show p c = false
    cases own : p c with
    | false => rfl
    | true =>
      rw [hp c own] at ends
      cases ends

/-- A run of digits ends where a number does. -/
theorem takeWhile_isDigit_append (text : List Char) :
    (text ++ rest).takeWhile Char.isDigit = text.takeWhile Char.isDigit := by
  induction text with
  | nil =>
    have stop := any_head?_of_continuesNumber h (p := Char.isDigit) fun c digit => by
      simp only [continuesNumber, digit, Bool.true_or]
    have none : ([] ++ rest).takeWhile Char.isDigit = [] :=
      takeWhile_append_of_head (fun _ hc => absurd hc List.not_mem_nil) stop
    rw [none, List.takeWhile_nil]
  | cons c text ih => by_cases digit : c.isDigit = true <;> simp [digit, ih]

/-- What follows a run of digits includes all that follows the number. -/
theorem dropWhile_isDigit_append (text : List Char) :
    (text ++ rest).dropWhile Char.isDigit = text.dropWhile Char.isDigit ++ rest := by
  induction text with
  | nil =>
    have stop := any_head?_of_continuesNumber h (p := Char.isDigit) fun c digit => by
      simp only [continuesNumber, digit, Bool.true_or]
    exact dropWhile_eq_self stop
  | cons c text ih => by_cases digit : c.isDigit = true <;> simp [digit, ih]

/-- A fraction is read alike whatever follows the number. -/
theorem readFraction?_append {digits : List Char} (read : readFraction? text = some (digits, after)) :
    readFraction? (text ++ rest) = some (digits, after ++ rest) := by
  by_cases point : text.head? = some '.'
  · obtain ⟨tail, rfl⟩ := List.head?_eq_some_iff.mp point
    simp only [List.cons_append, readFraction?] at read ⊢
    rw [takeWhile_isDigit_append h, dropWhile_isDigit_append h]
    cases run : tail.takeWhile Char.isDigit with
    | nil =>
      rw [run] at read
      cases read
    | cons d run =>
      rw [run] at read
      cases read
      rfl
  · have follows : (text ++ rest).head? ≠ some '.' := by
      cases text with
      | nil =>
        intro same
        have point := any_head?_of_continuesNumber h (p := (· == '.')) fun c point => by
          simp only [continuesNumber, point, Bool.or_true, Bool.true_or]
        rw [List.nil_append] at same
        rw [same] at point
        cases point
      | cons c text => exact point
    rw [readFraction?_of_head point] at read
    cases read
    exact readFraction?_of_head follows

/-- An exponent is read alike whatever follows the number. -/
theorem readExponent?_append {exponent : Option Int}
    (read : readExponent? text = some (exponent, after)) :
    readExponent? (text ++ rest) = some (exponent, after ++ rest) := by
  cases mark : text.head?.any (fun c => c == 'e' || c == 'E') with
  | false =>
    have follows : (text ++ rest).head?.any (fun c => c == 'e' || c == 'E') = false := by
      cases text with
      | nil =>
        refine any_head?_of_continuesNumber h fun c mark => ?_
        rw [continuesNumber, Bool.or_assoc, mark, Bool.or_true]
      | cons c text => exact mark
    rw [readExponent?_of_head mark] at read
    cases read
    exact readExponent?_of_head follows
  | true =>
    cases text with
    | nil => cases mark
    | cons c tail =>
      have marked : c = 'e' ∨ c = 'E' := by simpa using mark
      have more : tail ≠ [] := by
        rintro rfl
        rw [readExponent?_mark marked] at read
        cases read
      rw [readExponent?_mark marked] at read
      rw [List.cons_append, readExponent?_mark marked, exponentSign_append more]
      simp only [takeWhile_isDigit_append h, dropWhile_isDigit_append h]
      cases run : (exponentSign tail).2.takeWhile Char.isDigit with
      | nil =>
        rw [run] at read
        cases read
      | cons d digits =>
        rw [run] at read
        cases read
        rfl

/-- A number without its sign is read alike whatever follows it. -/
theorem readUnsigned?_append {negative : Bool} {j : Json}
    (read : readUnsigned? negative text = some (j, after)) :
    readUnsigned? negative (text ++ rest) = some (j, after ++ rest) := by
  unfold readUnsigned? at read ⊢
  rw [takeWhile_isDigit_append h, dropWhile_isDigit_append h]
  cases whole : text.takeWhile Char.isDigit with
  | nil =>
    rw [whole] at read
    cases read
  | cons d digits =>
    simp only [whole] at read ⊢
    split at read
    · cases read
    · next leading =>
      rw [if_neg leading]
      cases fraction : readFraction? (text.dropWhile Char.isDigit) with
      | none =>
        rw [fraction] at read
        cases read
      | some result =>
        obtain ⟨fraction', middle⟩ := result
        simp only [fraction, readFraction?_append h fraction] at read ⊢
        cases exponent : readExponent? middle with
        | none =>
          rw [exponent] at read
          cases read
        | some result =>
          obtain ⟨exponent', last⟩ := result
          simp only [exponent, readExponent?_append h exponent] at read ⊢
          obtain ⟨value, parts, same⟩ := Option.map_eq_some_iff.mp read
          cases same
          rw [parts]
          rfl

/-- A number is read alike whatever follows it. -/
theorem readNumber?_append {j : Json} (read : readNumber? text = some (j, after)) :
    readNumber? (text ++ rest) = some (j, after ++ rest) := by
  by_cases minus : text.head? = some '-'
  · obtain ⟨tail, rfl⟩ := List.head?_eq_some_iff.mp minus
    exact readUnsigned?_append h read
  · cases text with
    | nil => cases read
    | cons c tail =>
      have sign : c ≠ '-' := fun same => minus (congrArg some same)
      rw [readNumber?_of_head sign] at read
      rw [List.cons_append, readNumber?_of_head sign]
      exact readUnsigned?_append h read

end following

/-! ## Integers -/

/-- Digits whose number is small enough are all absorbed. -/
theorem absorb_eq {n : Nat} {digits : List Char}
    (h : Nat.ofDigitChars 10 digits n < Binary64.pow2 64) :
    absorb n digits = (Nat.ofDigitChars 10 digits n, []) := by
  induction digits generalizing n with
  | nil =>
    rw [Nat.ofDigitChars_nil]
    rfl
  | cons c digits ih =>
    have step : Nat.ofDigitChars 10 (c :: digits) n =
        Nat.ofDigitChars 10 digits (n * 10 + digitValue c) := by
      rw [Nat.ofDigitChars_cons, Nat.mul_comm 10 n]
      rfl
    have grows : n * 10 + digitValue c ≤ Nat.ofDigitChars 10 digits (n * 10 + digitValue c) := by
      rw [Nat.ofDigitChars_eq_ofDigitChars_zero]
      exact Nat.le_trans (Nat.le_mul_of_pos_left _ (Nat.pow_pos (by decide)))
        (Nat.le_add_right _ _)
    rw [step] at h ⊢
    rw [absorb, if_pos (Nat.lt_of_le_of_lt grows h), ih h]

/-- Only zero begins with the digit zero. -/
theorem eq_zero_of_head?_toDigits {n : Nat} (h : (Nat.toDigits 10 n).head? = some '0') : n = 0 := by
  induction n using Nat.strongRecOn with
  | _ n ih =>
    by_cases small : n < 10
    · rw [Nat.toDigits_of_lt_base small] at h
      exact Nat.digitChar_eq_zero.mp (Option.some.inj h)
    · have shorter : (Nat.toDigits 10 (n / 10)).head? = some '0' := by
        rw [Nat.toDigits_of_base_le (by decide) (Nat.not_lt.mp small), List.head?_append] at h
        cases first : (Nat.toDigits 10 (n / 10)).head? with
        | none => exact absurd (List.head?_eq_none_iff.mp first) Nat.toDigits_ne_nil
        | some d =>
          rw [first] at h
          exact h
      have zero := ih (n / 10) (by omega) shorter
      omega

/-- The digits of a natural number that fits into 64 bits are read as the integer with their
sign. -/
theorem readUnsigned?_toDigits (negative : Bool) {n : Nat} (h : n < Binary64.pow2 64) :
    readUnsigned? negative (Nat.toDigits 10 n) = some (integer negative n, []) := by
  have digits : ∀ c ∈ Nat.toDigits 10 n, c.isDigit = true := fun c hc =>
    Nat.isDigit_of_mem_toDigits (by decide) (by decide) hc
  have leading : ¬ ((Nat.toDigits 10 n).head? = some '0' ∧ 1 < (Nat.toDigits 10 n).length) := by
    rintro ⟨zero, long⟩
    rw [eq_zero_of_head?_toDigits zero] at long
    exact absurd long (by decide)
  have absorbed : absorb 0 (Nat.toDigits 10 n) = (n, []) := by
    rw [absorb_eq] <;> rw [Nat.ofDigitChars_ten_toDigits]
    exact h
  unfold readUnsigned?
  rw [takeWhile_eq_self digits, dropWhile_eq_nil digits]
  cases whole : Nat.toDigits 10 n with
  | nil => exact absurd whole Nat.toDigits_ne_nil
  | cons d rest =>
    rw [whole] at leading absorbed
    simp only [leading, if_false, readFraction?, readExponent?, ofParts?, absorbed]
    rfl

/-- An integer of 64 bits is read back. -/
theorem readNumber?_int {i : Int} (low : -(Binary64.pow2 63 : Int) ≤ i)
    (high : i < (Binary64.pow2 64 : Int)) :
    readNumber? (toString i).toList = some (.int i, []) := by
  rw [Int.toString_eq_repr, Int.repr_eq_if]
  split
  · next natural =>
    obtain ⟨n, rfl⟩ := Int.eq_ofNat_of_zero_le natural
    have fits : n < Binary64.pow2 64 := by omega
    rw [Int.toNat_natCast, Nat.toList_repr]
    cases digits : Nat.toDigits 10 n with
    | nil => exact absurd digits Nat.toDigits_ne_nil
    | cons d rest =>
      have digit : d.isDigit = true := by
        refine Nat.isDigit_of_mem_toDigits (b := 10) (n := n) (by decide) (by decide) ?_
        rw [digits]
        exact List.mem_cons_self
      have unsigned : d ≠ '-' := by
        rintro rfl
        cases digit
      rw [readNumber?_of_head unsigned, ← digits, readUnsigned?_toDigits false fits]
      rfl
  · next negative =>
    obtain ⟨n, rfl⟩ : ∃ n : Nat, i = -(n : Int) := ⟨i.natAbs, by omega⟩
    have positive : n ≠ 0 := by omega
    have fits : n < Binary64.pow2 64 := by
      have : Binary64.pow2 63 < Binary64.pow2 64 := by decide
      omega
    have small : ¬ (n = 0 ∨ Binary64.pow2 63 < n) := by omega
    rw [Int.neg_neg, Int.toNat_natCast, String.toList_append, Nat.toList_repr]
    show readUnsigned? true (Nat.toDigits 10 n) = _
    rw [readUnsigned?_toDigits true fits, integer, if_pos rfl, if_neg small]

/-! ## Atoms -/

/-- Whether a word or a number can begin with a character. -/
def startsAtom (c : Char) : Bool := c.isDigit || c == '-' || c == 'n' || c == 't' || c == 'f'

/-- A text is the text of an atom: it begins as one, and it is read as the atom whatever follows. -/
structure WritesAtom (text : List Char) (j : Json) : Prop where
  /-- The text begins with a letter, a digit or a sign. -/
  starts : text.head?.any startsAtom = true
  /-- The atom is read back. -/
  read : ∀ rest : List Char, rest.head?.any continuesNumber = false →
    readAtom? (text ++ rest) = some (j, rest)

/-- A number that is read begins with a sign or a digit. -/
theorem head_of_readNumber? {text rest : List Char} {j : Json}
    (h : readNumber? text = some (j, rest)) :
    ∃ c tail, text = c :: tail ∧ (c = '-' ∨ c.isDigit = true) := by
  cases text with
  | nil => cases h
  | cons c tail =>
    refine ⟨c, tail, rfl, ?_⟩
    by_cases minus : c = '-'
    · exact .inl minus
    · cases digit : c.isDigit with
      | true => exact .inr rfl
      | false =>
        rw [readNumber?_of_head minus, readUnsigned?, List.takeWhile_cons_of_neg (by simp [digit])]
          at h
        cases h

/-- A number that is read back is an atom. -/
theorem writesAtom_of_readNumber? {text : List Char} {j : Json}
    (h : readNumber? text = some (j, [])) : WritesAtom text j := by
  obtain ⟨c, tail, rfl, first⟩ := head_of_readNumber? h
  refine ⟨?_, fun rest ends => ?_⟩
  · show startsAtom c = true
    rcases first with rfl | digit
    · rfl
    · rw [startsAtom, digit]
      rfl
  · have apart : ∀ d, d.isDigit = false → d ≠ '-' → (c :: (tail ++ rest)).head?.any (· == d) = false := by
      intro d digit minus
      refine beq_eq_false_iff_ne.mpr ?_
      rintro rfl
      rcases first with rfl | digit'
      · exact minus rfl
      · rw [digit] at digit'
        cases digit'
    rw [readAtom?, List.cons_append]
    have null : "null".toList.isPrefixOf? (c :: (tail ++ rest)) = none :=
      isPrefixOf?_of_head (apart 'n' (by decide) (by decide))
    have true' : "true".toList.isPrefixOf? (c :: (tail ++ rest)) = none :=
      isPrefixOf?_of_head (apart 't' (by decide) (by decide))
    have false' : "false".toList.isPrefixOf? (c :: (tail ++ rest)) = none :=
      isPrefixOf?_of_head (apart 'f' (by decide) (by decide))
    rw [null, true', false']
    exact readNumber?_append ends h

end Json

/-- A floating point number is read back from its text in a document. -/
def Binary64.ReadsBack (x : Binary64) : Prop :=
  Json.readNumber? (Decimal.text Decimal.documentLayout x).toList = some (.float x, [])

end DiagramDiff
