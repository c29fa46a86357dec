import DiagramDiff.Text.Basic
import Mathlib.Data.List.Basic
import Mathlib.Data.List.TakeWhile

/-!
# Words apart from blanks and white space

The scanners of the notation decide everything by a few classes of characters, and the classes they
meet side by side are disjoint: a word holds neither a blank nor white space. For the tables beyond
ASCII this is a computation on ranges (`Ranges.apart`, `not_holds_of_apart`); the rest of the module
turns it into equations for maximal runs (`readWord?_append`, `dropBlanks_append_name`,
`trim_append`), which is the form in which the readers need it. What is written as a number has no
characters but digits (`not_mem_toString`).
-/

namespace DiagramDiff.Unicode.Ranges

/-- Whether no range of one table meets a range of another. -/
def apart (table other : Ranges) : Bool :=
  table.all fun r => other.all fun s => decide (r.2 < s.1 ∨ s.2 < r.1)

/-- Whatever a table holds lies in one of its ranges. -/
theorem exists_range_of_holds {table : Ranges} {n : Nat} (h : table.holds n = true) :
    ∃ r ∈ table, r.1 ≤ n ∧ n ≤ r.2 := by
  induction table with
  | nil => cases h
  | cons r rest ih =>
    rw [holds] at h
    by_cases low : n < r.1
    · simp [low] at h
    · by_cases high : n ≤ r.2
      · exact ⟨r, List.mem_cons_self, by omega, high⟩
      · simp only [low, high, if_false] at h
        obtain ⟨s, hs, both⟩ := ih h
        exact ⟨s, List.mem_cons_of_mem r hs, both⟩

/-- Tables that lie apart hold nothing in common. -/
theorem not_holds_of_apart {table other : Ranges} {n : Nat} (h : table.apart other = true)
    (ht : table.holds n = true) : other.holds n = false := by
  by_contra held
  obtain ⟨r, hr, hr₁, hr₂⟩ := exists_range_of_holds ht
  obtain ⟨s, hs, hs₁, hs₂⟩ := exists_range_of_holds (by simpa using held)
  have sides := List.all_eq_true.mp (List.all_eq_true.mp h r hr) s hs
  rw [decide_eq_true_eq] at sides
  omega

end DiagramDiff.Unicode.Ranges

namespace DiagramDiff.Text

open Unicode

/-! ## Disjoint classes -/

/-- The letters, digits and the underscore of ASCII are the first of the code points. -/
theorem toNat_lt_of_isAsciiWord {c : Char} (h : isAsciiWord c = true) : c.toNat < 128 := by
  have bound : ∀ {high : UInt32}, high.toNat < 128 → c.val ≤ high → c.toNat < 128 :=
    fun small within => Nat.lt_of_le_of_lt (UInt32.le_iff_toNat_le.mp within) small
  have parts : (((c.isUpper || c.isLower) || c.isDigit) || c == '_') = true := h
  simp only [Bool.or_eq_true] at parts
  rcases parts with ((upper | lower) | digit) | underscore
  · exact bound (by decide) (of_decide_eq_true upper).2
  · exact bound (by decide) (of_decide_eq_true (Bool.and_eq_true_iff.mp lower).2)
  · exact bound (by decide) (of_decide_eq_true (Bool.and_eq_true_iff.mp digit).2)
  · rw [eq_of_beq underscore]
    decide

/-- No ASCII letter, digit or underscore is white space. -/
theorem isWhiteSpace_of_isAsciiWord {c : Char} (h : isAsciiWord c = true) :
    isWhiteSpace c = false := by
  have small : ∀ n < 128, isAsciiWord (Char.ofNat n) = true → whiteSpace.holds n = false := by
    decide +kernel
  exact small c.toNat (toNat_lt_of_isAsciiWord h) (by rwa [Char.ofNat_toNat])

/-- No alphabetic character is white space. -/
theorem alphabetic_apart_whiteSpace : alphabetic.apart whiteSpace = true := by decide +kernel

/-- No decimal digit is white space. -/
theorem decimalDigit_apart_whiteSpace : decimalDigit.apart whiteSpace = true := by decide +kernel

/-- No character of a word is white space. -/
theorem isWhiteSpace_of_isWord {c : Char} (h : isWord c = true) : isWhiteSpace c = false := by
  unfold isWord at h
  by_cases ascii : c.toNat < 128
  · rw [if_pos ascii] at h
    exact isWhiteSpace_of_isAsciiWord h
  · have marks : mark.apart whiteSpace = true := by decide +kernel
    have connectors : connector.apart whiteSpace = true := by decide +kernel
    rw [if_neg ascii] at h
    simp only [Bool.or_eq_true] at h
    rcases h with ((h | h) | h) | h
    · exact Ranges.not_holds_of_apart alphabetic_apart_whiteSpace h
    · exact Ranges.not_holds_of_apart marks h
    · exact Ranges.not_holds_of_apart decimalDigit_apart_whiteSpace h
    · exact Ranges.not_holds_of_apart connectors h

/-- No name letter is white space. -/
theorem isWhiteSpace_of_isNameLetter {c : Char} (h : isNameLetter c = true) :
    isWhiteSpace c = false := by
  unfold isNameLetter at h
  by_cases ascii : c.toNat < 128
  · rw [if_pos ascii] at h
    exact isWhiteSpace_of_isAsciiWord h
  · have numbers : otherNumber.apart whiteSpace = true := by decide +kernel
    have recent : recentLetter.apart whiteSpace = true := by decide +kernel
    rw [if_neg ascii] at h
    simp only [Bool.or_eq_true] at h
    rcases h with ((h | h) | h) | h
    · exact Ranges.not_holds_of_apart alphabetic_apart_whiteSpace h
    · exact Ranges.not_holds_of_apart decimalDigit_apart_whiteSpace h
    · exact Ranges.not_holds_of_apart numbers h
    · exact Ranges.not_holds_of_apart recent h

/-- No character of a word is a blank. -/
theorem isBlank_of_isWord {c : Char} (h : isWord c = true) : isBlank c = false := by
  by_contra blank
  have white := isWhiteSpace_of_isBlank (by simpa using blank)
  rw [isWhiteSpace_of_isWord h] at white
  cases white

/-- A character of a word differs from every character that belongs to no word. -/
theorem ne_of_isWord {c d : Char} (hc : isWord c = true) (hd : isWord d = false) : c ≠ d := by
  rintro rfl
  rw [hc] at hd
  cases hd

/-- A line feed belongs to no word. -/
@[simp] theorem isWord_newline : isWord '\n' = false := by decide

/-- A space belongs to no word. -/
@[simp] theorem isWord_space : isWord ' ' = false := by decide

/-- A line feed is no blank. -/
@[simp] theorem isBlank_newline : isBlank '\n' = false := by decide

/-! ## Characters one by one -/

/-- A statement about the characters of a text is checked one by one. -/
theorem forall_mem_of_all {p : Char → Prop} [DecidablePred p] {text : List Char}
    (h : text.all (fun c => decide (p c)) = true) : ∀ c ∈ text, p c := by
  simpa using h

/-! ## Numbers -/

/-- A character that is no digit is not among the digits of a number. -/
theorem not_mem_toDigits {c : Char} (h : c.isDigit = false) (n : Nat) : c ∉ Nat.toDigits 10 n := by
  intro member
  rw [Nat.isDigit_of_mem_toDigits (by decide) (by decide) member] at h
  cases h

/-- The digits of a number are written one by one. -/
theorem toList_toString (n : Nat) : (toString n).toList = Nat.toDigits 10 n := by
  rw [Nat.toString_eq_ofList_toDigits, String.toList_ofList]

/-- A character that is no digit is not written in a number. -/
theorem not_mem_toString {c : Char} (h : c.isDigit = false) (n : Nat) :
    c ∉ (toString n).toList := by
  rw [toList_toString]
  exact not_mem_toDigits h n

/-! ## Runs that stop at a given character -/

section runs

variable {p : Char → Bool} {stop : Char}

/-- A run of a class ends at the latest before a character outside of it. -/
theorem takeWhile_append_stop (h : p stop = false) (text rest : List Char) :
    (text ++ stop :: rest).takeWhile p = text.takeWhile p := by
  induction text with
  | nil => simp [h]
  | cons c text ih => by_cases hc : p c = true <;> simp [hc, ih]

/-- What follows a run of a class includes everything from a character outside of it on. -/
theorem dropWhile_append_stop (h : p stop = false) (text rest : List Char) :
    (text ++ stop :: rest).dropWhile p = text.dropWhile p ++ stop :: rest := by
  induction text with
  | nil => simp [h]
  | cons c text ih => by_cases hc : p c = true <;> simp [hc, ih]

/-- A run of a class does not reach beyond a text with a character outside of it. -/
theorem takeWhile_append_of_mem {text : List Char} (h : p stop = false) (hs : stop ∈ text)
    (rest : List Char) : (text ++ rest).takeWhile p = text.takeWhile p := by
  obtain ⟨front, back, rfl⟩ := List.append_of_mem hs
  rw [List.append_assoc, List.cons_append, takeWhile_append_stop h, takeWhile_append_stop h]

/-- A character outside a class is left when a run of the class is dropped, with all that follows. -/
theorem dropWhile_append_of_mem {text : List Char} (h : p stop = false) (hs : stop ∈ text)
    (rest : List Char) :
    (text ++ rest).dropWhile p = text.dropWhile p ++ rest ∧ stop ∈ text.dropWhile p := by
  obtain ⟨front, back, rfl⟩ := List.append_of_mem hs
  rw [List.append_assoc, List.cons_append, dropWhile_append_stop h, dropWhile_append_stop h]
  simp

/-- Dropping changes nothing of a text whose first character is outside the class. -/
theorem dropWhile_eq_self {text : List Char} (h : text.head?.any p = false) :
    text.dropWhile p = text := by
  cases text with
  | nil => rfl
  | cons c rest => exact List.dropWhile_cons_of_neg (by simpa using h)

/-- Characters outside a class do not begin with one of it, nor does what follows them. -/
theorem any_head?_append {front back : List Char} (hf : ∀ c ∈ front, p c = false)
    (hb : back.head?.any p = false) : (front ++ back).head?.any p = false := by
  cases front with
  | nil => exact hb
  | cons c front => exact hf c List.mem_cons_self

/-- A text does not begin with a word whose first character it does not begin with. -/
theorem isPrefixOf?_of_head {c : Char} {word text : List Char}
    (h : text.head?.any (· == c) = false) : (c :: word).isPrefixOf? text = none := by
  cases text with
  | nil => rfl
  | cons d rest => simpa [List.isPrefixOf?] using fun same : c = d => by simp [same] at h

/-- A run of a class is taken whole where no further character of the class follows. -/
theorem takeWhile_append_of_head {run rest : List Char} (hrun : ∀ c ∈ run, p c = true)
    (hrest : rest.head?.any p = false) : (run ++ rest).takeWhile p = run := by
  rw [List.takeWhile_append_of_pos hrun]
  cases rest with
  | nil => simp
  | cons c rest =>
    have hc : p c = false := by simpa using hrest
    simp [hc]

/-- A run of a class is dropped whole, and only it where no further character of the class
follows. -/
theorem dropWhile_append_of_head {run rest : List Char} (hrun : ∀ c ∈ run, p c = true)
    (hrest : rest.head?.any p = false) : (run ++ rest).dropWhile p = rest := by
  rw [List.dropWhile_append_of_pos hrun, dropWhile_eq_self hrest]

/-- A text of a class is one run. -/
theorem takeWhile_eq_self {text : List Char} (h : ∀ c ∈ text, p c = true) :
    text.takeWhile p = text := by
  simpa using takeWhile_append_of_head h (rfl : ([] : List Char).head?.any p = false)

/-- Nothing is left of a text of a class when its run is dropped. -/
theorem dropWhile_eq_nil {text : List Char} (h : ∀ c ∈ text, p c = true) :
    text.dropWhile p = [] := by
  simpa using dropWhile_append_of_head h (rfl : ([] : List Char).head?.any p = false)

end runs

/-- A space in front of something else than a blank is all that is dropped. -/
theorem dropBlanks_space {text : List Char} (h : text.head?.any isBlank = false) :
    dropBlanks (' ' :: text) = text := by
  have blank : ∀ c ∈ [' '], isBlank c = true := forall_mem_of_all (by decide)
  exact dropWhile_append_of_head blank h

/-- Blanks in front of a text are blanks. -/
theorem exists_dropBlanks (text : List Char) :
    ∃ blanks, (∀ c ∈ blanks, isBlank c = true) ∧ text = blanks ++ dropBlanks text :=
  ⟨text.takeWhile isBlank, fun _ hc => List.mem_takeWhile_imp hc,
    List.takeWhile_append_dropWhile.symm⟩

/-- Blanks in front of something else are dropped. -/
theorem dropBlanks_append {blanks text : List Char} (hb : ∀ c ∈ blanks, isBlank c = true)
    (ht : text.head?.any isBlank = false) : dropBlanks (blanks ++ text) = text :=
  dropWhile_append_of_head hb ht

/-! ## Parts of a text -/

/-- What begins like a text and a character that it does not hold itself begins like the text. -/
theorem prefix_of_prefix_append_cons {front text rest : List Char} {c : Char} (hc : c ∉ front)
    (h : front <+: text ++ c :: rest) : front <+: text := by
  rcases List.prefix_or_prefix_of_prefix h (List.prefix_append text (c :: rest)) with short | long
  · exact short
  · obtain ⟨more, rfl⟩ := long
    cases more with
    | nil => simp
    | cons d more =>
      have next : d :: more <+: c :: rest := (List.prefix_append_right_inj text).mp h
      obtain rfl : d = c := (List.cons_prefix_cons.mp next).1
      exact absurd (List.mem_append_right text List.mem_cons_self) hc

/-- A part of two texts with a character between them that it does not hold is a part of one of
them. -/
theorem infix_of_infix_append_cons {part text rest : List Char} {c : Char} (hc : c ∉ part)
    (h : part <:+: text ++ c :: rest) : part <:+: text ∨ part <:+: rest := by
  induction text with
  | nil =>
    rcases List.infix_cons_iff.mp h with start | later
    · exact .inl (@prefix_of_prefix_append_cons part [] rest c hc start).isInfix
    · exact .inr later
  | cons d text ih =>
    rcases List.infix_cons_iff.mp h with start | later
    · exact .inl (@prefix_of_prefix_append_cons part (d :: text) rest c hc start).isInfix
    · exact (ih later).imp_left fun inside => inside.trans (List.suffix_cons d text).isInfix

/-! ## Words -/

/-- A word: a text of word characters only, and not empty. -/
def IsName (text : List Char) : Prop := text ≠ [] ∧ ∀ c ∈ text, isWord c = true

instance (text : List Char) : Decidable (IsName text) :=
  @instDecidableAnd _ _ _ (List.decidableBAll (fun c => isWord c = true) text)

namespace IsName

variable {word : List Char}

/-- A word has a first character, which belongs to it. -/
theorem exists_cons (h : IsName word) :
    ∃ c rest, word = c :: rest ∧ isWord c = true ∧ ∀ d ∈ rest, isWord d = true := by
  obtain ⟨nonempty, all⟩ := h
  cases word with
  | nil => exact absurd rfl nonempty
  | cons c rest =>
    exact ⟨c, rest, rfl, all c List.mem_cons_self, fun d hd => all d (List.mem_cons_of_mem c hd)⟩

/-- A word ends with a word character. -/
theorem exists_concat (h : IsName word) :
    ∃ most c, word = most ++ [c] ∧ isWord c = true := by
  obtain ⟨most, c, rfl⟩ := (List.eq_nil_or_concat word).resolve_left h.1
  rw [List.concat_eq_append] at h ⊢
  exact ⟨most, c, rfl, h.2 c (by simp)⟩

/-- Where a text begins with one word and with another that ends there, the first one is the other
or goes on. -/
theorem eq_or_continues (h : IsName word) {other after rest : List Char} (ho : IsName other)
    (hrest : rest.head?.any isWord = false) (parts : word ++ after = other ++ rest) :
    (word = other ∧ after = rest) ∨ ∃ c, after.head? = some c ∧ isWord c = true := by
  rcases List.append_eq_append_iff.mp parts with ⟨more, longer, behind⟩ | ⟨more, shorter, behind⟩
  · cases more with
    | nil => exact .inl ⟨by rw [longer, List.append_nil], behind⟩
    | cons c more =>
      refine .inr ⟨c, ?_, ho.2 c (longer ▸ by simp)⟩
      rw [behind]
      rfl
  · cases more with
    | nil => exact .inl ⟨by rw [shorter, List.append_nil], behind.symm⟩
    | cons c more =>
      have letter : isWord c = true := h.2 c (shorter ▸ by simp)
      rw [behind] at hrest
      exact absurd letter (by simpa using hrest)

/-- A text that begins with a word does not begin with a character of a class apart from words. -/
theorem any_head?_append (h : IsName word) {p : Char → Bool}
    (apart : ∀ c, isWord c = true → p c = false) (rest : List Char) :
    (word ++ rest).head?.any p = false := by
  obtain ⟨c, tail, rfl, hc, -⟩ := h.exists_cons
  exact apart c hc

/-- A character that belongs to no word does not occur in a word. -/
theorem not_mem (h : IsName word) {c : Char} (hc : isWord c = false) : c ∉ word := fun member =>
  ne_of_isWord (h.2 c member) hc rfl

end IsName

/-- A text of word characters and some others. -/
def HoldsOnly (others text : List Char) : Prop := ∀ c ∈ text, isWord c = true ∨ c ∈ others

namespace HoldsOnly

variable {others text : List Char}

/-- A text of words and of characters not listed does not hold a character that is neither. -/
theorem not_mem (h : HoldsOnly others text) {c : Char} (hc : isWord c = false)
    (hn : c ∉ others) : c ∉ text := by
  intro member
  rcases h c member with word | listed
  · exact ne_of_isWord word hc rfl
  · exact hn listed

/-- More characters may be allowed. -/
theorem mono (h : HoldsOnly others text) {more : List Char} (hm : others ⊆ more) :
    HoldsOnly more text := fun c hc => (h c hc).imp_right fun listed => hm listed

/-- Two texts of allowed characters in a row are one. -/
theorem append (h : HoldsOnly others text) {rest : List Char} (hr : HoldsOnly others rest) :
    HoldsOnly others (text ++ rest) := by
  intro c hc
  rcases List.mem_append.mp hc with hc | hc
  · exact h c hc
  · exact hr c hc

/-- Allowed characters are a text of them. -/
theorem of_subset (h : text ⊆ others) : HoldsOnly others text := fun _ hc => .inr (h hc)

end HoldsOnly

/-- A word holds nothing but word characters, whatever else is allowed. -/
theorem IsName.holdsOnly {word : List Char} (h : IsName word) (others : List Char) :
    HoldsOnly others word := fun c hc => .inl (h.2 c hc)

/-- A word is read whole where no word character follows. -/
theorem readWord?_append {word rest : List Char} (hw : IsName word)
    (hrest : rest.head?.any isWord = false) : readWord? (word ++ rest) = some (word, rest) := by
  rw [readWord?_eq_some_iff]
  exact ⟨hw.1, takeWhile_append_of_head hw.2 hrest, dropWhile_append_of_head hw.2 hrest⟩

/-- A text that starts with no word character starts with no word. -/
theorem readWord?_eq_none {text : List Char} (h : text.head?.any isWord = false) :
    readWord? text = none := by
  have empty : wordRun ([] ++ text) = [] := takeWhile_append_of_head (by simp) h
  rw [List.nil_append] at empty
  simp only [readWord?, empty]

/-- No blanks stand before a word. -/
theorem dropBlanks_append_name {word rest : List Char} (hw : IsName word) :
    dropBlanks (word ++ rest) = word ++ rest :=
  dropWhile_eq_self (hw.any_head?_append (fun _ => isBlank_of_isWord) rest)

/-! ## Trimming -/

/-- A text that begins and ends with something else than white space. -/
structure IsTrimmed (text : List Char) : Prop where
  /-- It does not begin with white space. -/
  head : text.head?.any isWhiteSpace = false
  /-- It does not end with white space. -/
  last : text.getLast?.any isWhiteSpace = false

instance (text : List Char) : Decidable (IsTrimmed text) :=
  decidable_of_iff
    (text.head?.any isWhiteSpace = false ∧ text.getLast?.any isWhiteSpace = false)
    ⟨fun h => ⟨h.1, h.2⟩, fun h => ⟨h.head, h.last⟩⟩

/-- A trimmed text begins with no blank. -/
theorem IsTrimmed.any_head?_isBlank {text : List Char} (h : IsTrimmed text) :
    text.head?.any isBlank = false := by
  cases first : text.head? with
  | none => rfl
  | some c =>
    have white : isWhiteSpace c = false := by simpa [first] using h.head
    by_contra blank
    rw [isWhiteSpace_of_isBlank (by simpa using blank)] at white
    cases white

/-- A text without characters of a class does not end with one. -/
theorem any_getLast?_eq_false {p : Char → Bool} {text : List Char} (h : ∀ c ∈ text, p c = false) :
    text.getLast?.any p = false := by
  cases last : text.getLast? with
  | none => rfl
  | some c => exact h c (List.mem_of_getLast? last)

/-- A text that ends with a word does not end with a character of a class apart from words. -/
theorem IsName.any_getLast?_append {word : List Char} (h : IsName word) {p : Char → Bool}
    (apart : ∀ c, isWord c = true → p c = false) (front : List Char) :
    (front ++ word).getLast?.any p = false := by
  rw [List.getLast?_append_of_ne_nil _ h.1]
  exact any_getLast?_eq_false fun c hc => apart c (h.2 c hc)

/-- Trimming takes white space off the start and nothing more of a text trimmed otherwise. -/
theorem trim_append {space text : List Char} (hs : ∀ c ∈ space, isWhiteSpace c = true)
    (ht : IsTrimmed text) : trim (space ++ text) = text := by
  have start : trimStart (space ++ text) = text := dropWhile_append_of_head hs ht.head
  have stop : text.reverse.dropWhile isWhiteSpace = text.reverse :=
    dropWhile_eq_self (by rw [List.head?_reverse]; exact ht.last)
  rw [trim, start, trimEnd, stop, List.reverse_reverse]

/-- Trimming changes nothing of a trimmed text. -/
theorem IsTrimmed.trim_eq {text : List Char} (h : IsTrimmed text) : trim text = text := by
  have trimmed : trim ([] ++ text) = text := trim_append (by simp) h
  exact trimmed

/-! ### Trimming by any class -/

/-- A run that is dropped ends at a character outside the class. -/
theorem any_head?_dropWhile (p : Char → Bool) (text : List Char) :
    (text.dropWhile p).head?.any p = false := by
  have stop := List.head?_dropWhile_not p text
  cases first : (text.dropWhile p).head? with
  | none => rfl
  | some c => simpa [first] using stop

/-- The text without the characters of a class at either end. -/
def trimOf (p : Char → Bool) (text : List Char) : List Char :=
  ((text.dropWhile p).reverse.dropWhile p).reverse

/-- Trimming is trimming of white space. -/
theorem trim_eq_trimOf (text : List Char) : trim text = trimOf isWhiteSpace text := rfl

/-- Trimming blanks is trimming, too. -/
theorem trimBlanks_eq_trimOf (text : List Char) : trimBlanks text = trimOf isBlank text := rfl

section trimOf

variable {p : Char → Bool}

/-- Trimming takes away a run at either end. -/
theorem exists_trimOf (p : Char → Bool) (text : List Char) :
    ∃ left right, (∀ c ∈ left, p c = true) ∧ (∀ c ∈ right, p c = true) ∧
      text = left ++ (trimOf p text ++ right) := by
  have front := List.takeWhile_append_dropWhile (p := p) (l := text)
  have back := List.takeWhile_append_dropWhile (p := p) (l := (text.dropWhile p).reverse)
  refine ⟨text.takeWhile p, ((text.dropWhile p).reverse.takeWhile p).reverse,
    fun c hc => List.mem_takeWhile_imp hc,
    fun c hc => List.mem_takeWhile_imp (List.mem_reverse.mp hc), ?_⟩
  rw [trimOf, ← List.reverse_append, back, List.reverse_reverse, front]

/-- Trimming adds nothing. -/
theorem trimOf_within (p : Char → Bool) (text : List Char) : trimOf p text <:+: text := by
  obtain ⟨left, right, -, -, parts⟩ := exists_trimOf p text
  exact ⟨left, right, by rw [List.append_assoc]; exact parts.symm⟩

/-- What is trimmed begins with a character outside the class. -/
theorem any_head?_trimOf (p : Char → Bool) (text : List Char) :
    (trimOf p text).head?.any p = false := by
  have behind : (text.dropWhile p).reverse.dropWhile p <:+ (text.dropWhile p).reverse :=
    List.dropWhile_suffix p
  obtain ⟨tail, whole⟩ : trimOf p text <+: text.dropWhile p := by
    rw [trimOf, ← List.reverse_suffix, List.reverse_reverse]
    exact behind
  have start := any_head?_dropWhile p text
  cases first : trimOf p text with
  | nil => rfl
  | cons c rest =>
    rw [← whole, first] at start
    exact start

/-- What is trimmed ends with a character outside the class. -/
theorem any_getLast?_trimOf (p : Char → Bool) (text : List Char) :
    (trimOf p text).getLast?.any p = false := by
  rw [trimOf, List.getLast?_reverse]
  exact any_head?_dropWhile p _

/-- Trimming takes nothing away between characters outside the class. -/
theorem trimOf_append {left core right : List Char} (hl : ∀ c ∈ left, p c = true)
    (hr : ∀ c ∈ right, p c = true) (head : core.head?.any p = false)
    (last : core.getLast?.any p = false) : trimOf p (left ++ (core ++ right)) = core := by
  cases core with
  | nil =>
    have all : ∀ c ∈ left ++ ([] ++ right), p c = true := by
      intro c hc
      rcases List.mem_append.mp hc with hc | hc
      · exact hl c hc
      · exact hr c hc
    rw [trimOf, dropWhile_eq_nil all]
    rfl
  | cons c core =>
    have start : (left ++ (c :: core ++ right)).dropWhile p = c :: core ++ right :=
      dropWhile_append_of_head hl head
    have stop : (right.reverse ++ (c :: core).reverse).dropWhile p = (c :: core).reverse :=
      dropWhile_append_of_head (fun d hd => hr d (List.mem_reverse.mp hd))
        (by rw [List.head?_reverse]; exact last)
    rw [trimOf, start, List.reverse_append, stop, List.reverse_reverse]

/-- Trimming twice is trimming once. -/
theorem trimOf_trimOf (text : List Char) : trimOf p (trimOf p text) = trimOf p text := by
  have again : trimOf p ([] ++ (trimOf p text ++ [])) = trimOf p text :=
    trimOf_append (by simp) (by simp) (any_head?_trimOf p text) (any_getLast?_trimOf p text)
  rwa [List.nil_append, List.append_nil] at again

/-- Characters of the class around a text do not matter for trimming it. -/
theorem trimOf_surround {left right : List Char} (hl : ∀ c ∈ left, p c = true)
    (hr : ∀ c ∈ right, p c = true) (text : List Char) :
    trimOf p (left ++ (text ++ right)) = trimOf p text := by
  obtain ⟨front, back, hf, hb, parts⟩ := exists_trimOf p text
  have shape : left ++ (text ++ right) =
      (left ++ front) ++ (trimOf p text ++ (back ++ right)) :=
    calc left ++ (text ++ right)
        = left ++ (front ++ (trimOf p text ++ back) ++ right) := by rw [← parts]
      _ = (left ++ front) ++ (trimOf p text ++ (back ++ right)) := by
        simp only [List.append_assoc]
  rw [shape]
  refine trimOf_append ?_ ?_ (any_head?_trimOf p text) (any_getLast?_trimOf p text)
  · intro c hc
    rcases List.mem_append.mp hc with hc | hc
    · exact hl c hc
    · exact hf c hc
  · intro c hc
    rcases List.mem_append.mp hc with hc | hc
    · exact hb c hc
    · exact hr c hc

end trimOf

/-- Blanks at the start of a text are trimmed in any case. -/
theorem trim_dropBlanks (text : List Char) : trim (dropBlanks text) = trim text := by
  obtain ⟨blanks, hb, parts⟩ := exists_dropBlanks text
  have white : ∀ c ∈ blanks, isWhiteSpace c = true := fun c hc => isWhiteSpace_of_isBlank (hb c hc)
  have start : trimStart (blanks ++ dropBlanks text) = trimStart (dropBlanks text) := by
    rw [trimStart, List.dropWhile_append, dropWhile_eq_nil white]
    rfl
  rw [← parts] at start
  rw [trim, trim, start]

/-- Blanks at the ends of a text are trimmed with the other white space. -/
theorem trim_trimBlanks (text : List Char) : trim (trimBlanks text) = trim text := by
  obtain ⟨left, right, hl, hr, parts⟩ := exists_trimOf isBlank text
  have white : ∀ {run : List Char}, (∀ c ∈ run, isBlank c = true) →
      ∀ c ∈ run, isWhiteSpace c = true := fun all c hc => isWhiteSpace_of_isBlank (all c hc)
  have around := trimOf_surround (white hl) (white hr) (trimOf isBlank text)
  rw [← parts] at around
  exact around.symm

/-- What is left without blanks at its ends decides what is left without white space there. -/
theorem trim_congr {text other : List Char} (h : trimBlanks text = trimBlanks other) :
    trim text = trim other := by
  rw [← trim_trimBlanks text, h, trim_trimBlanks]

/-- A trimmed text neither begins nor ends with white space. -/
theorem isTrimmed_trim (text : List Char) : IsTrimmed (trim text) :=
  ⟨any_head?_trimOf isWhiteSpace text, any_getLast?_trimOf isWhiteSpace text⟩

/-- Trimming adds nothing. -/
theorem trim_within (text : List Char) : trim text <:+: text := trimOf_within isWhiteSpace text

end DiagramDiff.Text
