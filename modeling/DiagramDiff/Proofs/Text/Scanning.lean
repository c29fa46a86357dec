import DiagramDiff.Proofs.Text.Characters
import DiagramDiff.Text.Search

/-!
# Scanning a text piece by piece

`segmentsFrom` counts down the characters of the last find; the statements here say what that
amounts to on a text that is given in pieces. A find takes exactly the characters that its
recogniser used (`segmentsFrom_used`), a piece at whose positions nothing is recognised is kept
(`segmentsFrom_kept`), and a recogniser that looks only where words begin is settled by one look at
each word (`segments_word`) and passes over everything between words (`segments_gap`). One that
looks everywhere does not depend on what stands before a text (`segmentsFrom_everywhere`).

A reader that *keeps to the line* answers the same whatever follows the next line feed. For such a
reader a scan of the whole text is a scan of its lines, one after another (`segments_line`), with no
assumption on the text.
-/

namespace DiagramDiff.Text

variable {α : Type}

/-! ## Readers -/

/-- A reader leaves the end of the text it was given, and has used something of it. -/
def Consumes (read : List Char → Option (α × List Char)) : Prop :=
  ∀ {text : List Char} {a : α} {rest : List Char}, read text = some (a, rest) →
    ∃ used, used ≠ [] ∧ text = used ++ rest

/-- A reader finds nothing in front of a character that belongs to no word. -/
def WordLed (read : List Char → Option (α × List Char)) : Prop :=
  ∀ {text : List Char}, text.head?.any isWord = false → read text = none

/-- A reader does not look beyond a line feed. -/
def KeepsToLine (read : List Char → Option (α × List Char)) : Prop :=
  ∀ text rest : List Char,
    read (text ++ '\n' :: rest) = (read text).map fun (a, left) => (a, left ++ '\n' :: rest)

/-- After what a reader found no word goes on: either none follows, or the find does not end with
one. -/
def EndsWord (read : List Char → Option (α × List Char)) : Prop :=
  ∀ {text : List Char} {a : α} {rest : List Char}, read text = some (a, rest) →
    ∃ used, used ≠ [] ∧ text = used ++ rest ∧
      (rest.head?.any isWord = false ∨ used.getLast?.any isWord = false)

/-- A reader after whose finds no word goes on uses something of the text. -/
theorem EndsWord.consumes {read : List Char → Option (α × List Char)} (h : EndsWord read) :
    Consumes read := by
  intro text a rest found
  obtain ⟨used, nonempty, parts, -⟩ := h found
  exact ⟨used, nonempty, parts⟩

/-- A reader that uses something finds nothing in an empty text. -/
theorem Consumes.nil {read : List Char → Option (α × List Char)} (h : Consumes read) :
    read [] = none := by
  cases found : read [] with
  | none => rfl
  | some result =>
    obtain ⟨a, rest⟩ := result
    obtain ⟨used, nonempty, parts⟩ := h found
    exact absurd (List.append_eq_nil_iff.mp parts.symm).1 nonempty

/-- It is enough to name the character with which a find ends if a word may follow it. -/
theorem Consumes.endsWord {read : List Char → Option (α × List Char)} (h : Consumes read)
    (ends : ∀ {text rest : List Char} {a : α}, read text = some (a, rest) →
      rest.head?.any isWord = false ∨ ∃ c, isWord c = false ∧ c :: rest <:+ text) :
    EndsWord read := by
  intro text a rest found
  obtain ⟨used, nonempty, parts⟩ := h found
  refine ⟨used, nonempty, parts, ?_⟩
  rcases ends found with next | ⟨c, hc, front, whole⟩
  · exact .inl next
  · have last : front ++ [c] = used := by
      rw [parts, List.append_cons] at whole
      exact List.append_cancel_right whole
    rw [← last, List.getLast?_append_of_ne_nil _ (by simp)]
    exact .inr hc

/-- A word and what follows it make up the text. -/
theorem readWord?_parts {text word rest : List Char} (h : readWord? text = some (word, rest)) :
    text = word ++ rest := by
  obtain ⟨-, run, after⟩ := readWord?_eq_some_iff.mp h
  rw [← run, ← after, wordRun_append_afterWord]

/-- The word that a text starts with is a part of it. -/
theorem consumes_readWord? : Consumes readWord? := by
  intro text word rest h
  exact ⟨word, (readWord?_eq_some_iff.mp h).1, readWord?_parts h⟩

/-- What is left after a word is the end of the text. -/
theorem readWord?_suffix {text word rest : List Char} (h : readWord? text = some (word, rest)) :
    rest <:+ text := by
  obtain ⟨used, -, parts⟩ := consumes_readWord? h
  exact ⟨used, parts.symm⟩

/-- What is read as a word is a word. -/
theorem isName_of_readWord? {text word rest : List Char} (h : readWord? text = some (word, rest)) :
    IsName word := by
  obtain ⟨nonempty, run, -⟩ := readWord?_eq_some_iff.mp h
  exact ⟨nonempty, fun c hc => isWord_of_mem_wordRun (run ▸ hc)⟩

/-- A word is read as far as it goes. -/
theorem any_head?_of_readWord? {text word rest : List Char}
    (h : readWord? text = some (word, rest)) : rest.head?.any isWord = false := by
  rw [← (readWord?_eq_some_iff.mp h).2.2]
  exact any_head?_dropWhile isWord text

/-- A text that begins with a word character begins with a word. -/
theorem exists_readWord? {text : List Char} (h : text.head?.any isWord = true) :
    ∃ word rest, readWord? text = some (word, rest) := by
  refine ⟨wordRun text, afterWord text, readWord?_eq_some_iff.mpr ⟨?_, rfl, rfl⟩⟩
  cases text with
  | nil => cases h
  | cons c rest =>
    have letter : isWord c = true := h
    simp [wordRun, letter]

/-- A find uses something of the text. -/
theorem Consumes.length_lt {read : List Char → Option (α × List Char)} (h : Consumes read)
    {text left : List Char} {a : α} (found : read text = some (a, left)) :
    left.length < text.length := by
  obtain ⟨used, nonempty, rfl⟩ := h found
  have some_used := List.length_pos_of_ne_nil nonempty
  rw [List.length_append]
  omega

/-! ## Finds and kept characters -/

/-- The character before a position, once the text `used` has been passed over. -/
def charBefore (before : Option Char) (used : List Char) : Option Char :=
  used.foldl (fun _ c => some c) before

/-- The character before a position is the last one that has been passed over. -/
theorem charBefore_eq_getLast? (before : Option Char) {used : List Char} (h : used ≠ []) :
    charBefore before used = used.getLast? := by
  obtain ⟨front, c, rfl⟩ := (List.eq_nil_or_concat used).resolve_left h
  rw [charBefore, List.concat_eq_append, List.foldl_append, List.getLast?_append_of_ne_nil _ (by simp)]
  rfl

section pieces

variable (recognise : Recogniser α)

/-- Characters of the last find are passed over. -/
theorem segmentsFrom_append_skip (before : Option Char) (used rest : List Char) :
    segmentsFrom recognise before used.length (used ++ rest) =
      segmentsFrom recognise (charBefore before used) 0 rest := by
  induction used generalizing before with
  | nil => rfl
  | cons c used ih => exact ih (some c)

variable {recognise}

/-- A find takes the characters that the recogniser used, and the search goes on after them. -/
theorem segmentsFrom_used {before : Option Char} {used rest : List Char} {a : α}
    (nonempty : used ≠ []) (h : recognise before (used ++ rest) = some (a, rest)) :
    segmentsFrom recognise before 0 (used ++ rest) =
      .found a :: segmentsFrom recognise (charBefore before used) 0 rest := by
  cases used with
  | nil => exact absurd rfl nonempty
  | cons c used =>
    have left : (used ++ rest).length - rest.length = used.length := by simp
    rw [List.cons_append] at h ⊢
    rw [segmentsFrom_found h, left, segmentsFrom_append_skip]
    rfl

/-- A piece at none of whose positions something is recognised is kept. -/
theorem segmentsFrom_kept {before : Option Char} {kept rest : List Char}
    (h : ∀ front c back, kept = front ++ c :: back →
      recognise (charBefore before front) (c :: (back ++ rest)) = none) :
    segmentsFrom recognise before 0 (kept ++ rest) =
      kept.map .plain ++ segmentsFrom recognise (charBefore before kept) 0 rest := by
  induction kept generalizing before with
  | nil => rfl
  | cons c kept ih =>
    have here : recognise before (c :: (kept ++ rest)) = none := h [] c kept rfl
    have later : segmentsFrom recognise (some c) 0 (kept ++ rest) = _ :=
      ih fun front d back parts => h (c :: front) d back (by rw [parts, List.cons_append])
    rw [List.cons_append, segmentsFrom_plain here, later]
    rfl

end pieces

/-- A text at none of whose positions something is recognised is all kept. -/
theorem segments_kept {recognise : Recogniser α} {text : List Char}
    (h : ∀ before suffix, suffix <:+ text → recognise before suffix = none) :
    segments recognise text = text.map .plain := by
  have kept : segmentsFrom recognise none 0 (text ++ []) = text.map .plain ++ _ :=
    segmentsFrom_kept fun front c back parts => h _ _ ⟨front, by rw [parts, List.append_nil]⟩
  rwa [List.append_nil, segmentsFrom_nil, List.append_nil] at kept

/-- A find was recognised at some position of the text. -/
theorem exists_of_found_mem_segmentsFrom {recognise : Recogniser α} {before : Option Char}
    {skip : Nat} {text : List Char} {a : α}
    (h : .found a ∈ segmentsFrom recognise before skip text) :
    ∃ place suffix rest, suffix <:+ text ∧ recognise place suffix = some (a, rest) := by
  induction text generalizing before skip with
  | nil => simp at h
  | cons c text ih =>
    have later : ∀ {before : Option Char} {skip : Nat},
        .found a ∈ segmentsFrom recognise before skip text →
          ∃ place suffix rest, suffix <:+ c :: text ∧ recognise place suffix = some (a, rest) := by
      intro before skip member
      obtain ⟨place, suffix, rest, behind, found⟩ := ih member
      exact ⟨place, suffix, rest, behind.trans (List.suffix_cons c text), found⟩
    cases skip with
    | succ skip => exact later h
    | zero =>
      cases here : recognise before (c :: text) with
      | none =>
        rw [segmentsFrom_plain here] at h
        exact later (by simpa using h)
      | some result =>
        obtain ⟨b, rest⟩ := result
        rw [segmentsFrom_found here] at h
        rcases List.mem_cons.mp h with same | h
        · cases same
          exact ⟨before, c :: text, rest, List.suffix_refl _, here⟩
        · exact later h

/-- What is found in a text was recognised at some position of it. -/
theorem exists_of_mem_finds {recognise : Recogniser α} {text : List Char} {a : α}
    (h : a ∈ finds recognise text) :
    ∃ before suffix rest, suffix <:+ text ∧ recognise before suffix = some (a, rest) := by
  obtain ⟨segment, member, same⟩ := List.mem_filterMap.mp h
  cases segment with
  | plain c => cases same
  | found b =>
    cases same
    exact exists_of_found_mem_segmentsFrom member

/-- A kept character is a character of the text. -/
theorem mem_of_plain_mem_segmentsFrom {recognise : Recogniser α} {before : Option Char}
    {skip : Nat} {text : List Char} {d : Char}
    (h : .plain d ∈ segmentsFrom recognise before skip text) : d ∈ text := by
  induction text generalizing before skip with
  | nil => simp at h
  | cons c text ih =>
    cases skip with
    | succ skip => exact List.mem_cons_of_mem c (ih h)
    | zero =>
      cases here : recognise before (c :: text) with
      | none =>
        rw [segmentsFrom_plain here] at h
        rcases List.mem_cons.mp h with same | h
        · cases same
          exact List.mem_cons_self
        · exact List.mem_cons_of_mem c (ih h)
      | some result =>
        rw [segmentsFrom_found here] at h
        exact List.mem_cons_of_mem c (ih (by simpa using h))

/-- What is left of a text without its finds stands in the text. -/
theorem withoutFinds_subset (recognise : Recogniser α) (text : List Char) :
    withoutFinds recognise text ⊆ text := by
  intro d hd
  obtain ⟨segment, member, same⟩ := List.mem_filterMap.mp hd
  cases segment with
  | plain c =>
    cases same
    exact mem_of_plain_mem_segmentsFrom member
  | found a => cases same

/-- Kept characters are no finds. -/
@[simp] theorem filterMap_found?_map_plain (kept : List Char) :
    (kept.map (Segment.plain (α := α))).filterMap Segment.found? = [] := by
  simp [List.filterMap_map, Segment.found?, Function.comp_def]

/-- Kept characters are left when the finds are taken out. -/
@[simp] theorem filterMap_plain?_map_plain (kept : List Char) :
    (kept.map (Segment.plain (α := α))).filterMap Segment.plain? = kept := by
  simp [List.filterMap_map, Segment.plain?, Function.comp_def]

/-- Kept characters stay as they are when finds are replaced. -/
@[simp] theorem flatMap_chars_map_plain (kept : List Char) :
    (kept.map Segment.plain).flatMap Segment.chars = kept := by
  simp [List.flatMap_map, Segment.chars]

/-! ## Looking everywhere -/

section everywhere

variable {read : List Char → Option (α × List Char)}

/-- A reader that is asked everywhere does not look at the character before a text. -/
theorem segmentsFrom_everywhere (before other : Option Char) (text : List Char) :
    segmentsFrom (fun _ => read) before 0 text = segmentsFrom (fun _ => read) other 0 text := by
  cases text with
  | nil => rfl
  | cons c rest => rfl

/-- A piece at none of whose positions something is read is left. -/
theorem withoutFinds_everywhere_kept {kept rest : List Char}
    (h : ∀ front c back, kept = front ++ c :: back → read (c :: (back ++ rest)) = none) :
    withoutFinds (fun _ => read) (kept ++ rest) = kept ++ withoutFinds (fun _ => read) rest := by
  have plain : segmentsFrom (fun _ => read) none 0 (kept ++ rest) = kept.map .plain ++ _ :=
    segmentsFrom_kept h
  rw [withoutFinds, segments, plain, segmentsFrom_everywhere _ none, List.filterMap_append,
    filterMap_plain?_map_plain]
  rfl

/-- What is read is not left. -/
theorem withoutFinds_everywhere_used {used rest : List Char} {a : α} (nonempty : used ≠ [])
    (h : read (used ++ rest) = some (a, rest)) :
    withoutFinds (fun _ => read) (used ++ rest) = withoutFinds (fun _ => read) rest := by
  have found : segmentsFrom (fun _ => read) none 0 (used ++ rest) = _ :=
    segmentsFrom_used nonempty h
  rw [withoutFinds, segments, found, segmentsFrom_everywhere _ none]
  rfl

end everywhere

/-! ## Looking only where a word begins -/

section words

variable {read : List Char → Option (α × List Char)} {before : Option Char}

/-- After a character that belongs to no word, or at the start, the reader decides. -/
theorem atWordStart_outside (text : List Char) (h : before.any isWord = false) :
    atWordStart read before text = read text := by
  cases before with
  | none => rfl
  | some c =>
    have hc : isWord c = false := by simpa using h
    simp [atWordStart, hc]

/-- Inside a word nothing is recognised. -/
theorem atWordStart_inside (text : List Char) (h : before.any isWord = true) :
    atWordStart read before text = none := by
  cases before with
  | none => cases h
  | some c =>
    have hc : isWord c = true := by simpa using h
    simp [atWordStart, hc]

/-- Where the reader finds nothing, nothing is recognised. -/
theorem atWordStart_eq_none {text : List Char} (h : read text = none) :
    atWordStart read before text = none := by
  cases inside : before.any isWord with
  | false => rw [atWordStart_outside text inside, h]
  | true => exact atWordStart_inside text inside

/-- Where something is recognised, the reader finds it. -/
theorem read_of_atWordStart {text : List Char} {result : α × List Char}
    (h : atWordStart read before text = some result) : read text = some result := by
  cases inside : before.any isWord with
  | false => rwa [atWordStart_outside text inside] at h
  | true =>
    rw [atWordStart_inside text inside] at h
    cases h

/-- What is found where words begin is found by the reader at some position of the text. -/
theorem exists_of_mem_finds_atWordStart {text : List Char} {a : α}
    (h : a ∈ finds (atWordStart read) text) :
    ∃ suffix rest, suffix <:+ text ∧ read suffix = some (a, rest) := by
  obtain ⟨place, suffix, rest, behind, found⟩ := exists_of_mem_finds h
  exact ⟨suffix, rest, behind, read_of_atWordStart found⟩

/-- The character before a text matters only as one inside or outside a word. -/
theorem segmentsFrom_atWordStart_congr (other : Option Char)
    (h : before.any isWord = other.any isWord) (text : List Char) :
    segmentsFrom (atWordStart read) before 0 text =
      segmentsFrom (atWordStart read) other 0 text := by
  cases text with
  | nil => simp
  | cons c rest =>
    have same : atWordStart read before (c :: rest) = atWordStart read other (c :: rest) := by
      cases inside : before.any isWord with
      | false => rw [atWordStart_outside _ inside, atWordStart_outside _ (h ▸ inside)]
      | true => rw [atWordStart_inside _ inside, atWordStart_inside _ (h ▸ inside)]
    simp only [segmentsFrom, same]

/-- In front of a character that belongs to no word, the search may start afresh. -/
theorem segmentsFrom_of_head (hr : WordLed read) {text : List Char}
    (h : text.head?.any isWord = false) :
    segmentsFrom (atWordStart read) before 0 text = segments (atWordStart read) text := by
  cases text with
  | nil => simp [segments]
  | cons c rest =>
    have nothing : read (c :: rest) = none := hr h
    rw [segments, segmentsFrom_plain (atWordStart_eq_none nothing),
      segmentsFrom_plain (atWordStart_eq_none nothing)]

/-- A find at the start of a text that no further word character follows. -/
theorem segments_used (hr : WordLed read) {used rest : List Char} {a : α} (nonempty : used ≠ [])
    (hrest : rest.head?.any isWord = false) (h : read (used ++ rest) = some (a, rest)) :
    segments (atWordStart read) (used ++ rest) =
      .found a :: segments (atWordStart read) rest := by
  rw [segments, segmentsFrom_used nonempty (by rwa [atWordStart_outside _ rfl]),
    segmentsFrom_of_head hr hrest]

/-- After a find the search starts afresh where no word goes on. -/
theorem segments_found (hr : WordLed read) (he : EndsWord read) {text left : List Char} {a : α}
    (h : read text = some (a, left)) :
    segments (atWordStart read) text = .found a :: segments (atWordStart read) left := by
  obtain ⟨used, nonempty, rfl, apart⟩ := he h
  rw [segments, segmentsFrom_used nonempty (by rwa [atWordStart_outside _ rfl]),
    charBefore_eq_getLast? none nonempty]
  rcases apart with next | last
  · rw [segmentsFrom_of_head hr next]
  · rw [segmentsFrom_atWordStart_congr none last, segments]

/-- A character that belongs to no word is kept. -/
theorem segments_cons (hr : WordLed read) {c : Char} (hc : isWord c = false) (rest : List Char) :
    segments (atWordStart read) (c :: rest) = .plain c :: segments (atWordStart read) rest := by
  have nothing : read (c :: rest) = none := hr hc
  rw [segments, segmentsFrom_plain (atWordStart_eq_none nothing),
    segmentsFrom_atWordStart_congr none (by simp [hc]), segments]

/-- Between words nothing is recognised. -/
theorem segments_gap (hr : WordLed read) {gap : List Char} (hgap : ∀ c ∈ gap, isWord c = false)
    (rest : List Char) :
    segments (atWordStart read) (gap ++ rest) =
      gap.map .plain ++ segments (atWordStart read) rest := by
  induction gap with
  | nil => rfl
  | cons c gap ih =>
    obtain ⟨hc, later⟩ := List.forall_mem_cons.mp hgap
    rw [List.cons_append, segments_cons hr hc, ih later]
    rfl

/-- Nothing but characters between words holds no finds. -/
theorem segments_of_gap (hr : WordLed read) {gap : List Char}
    (hgap : ∀ c ∈ gap, isWord c = false) :
    segments (atWordStart read) gap = gap.map .plain := by
  have whole := segments_gap hr hgap []
  rwa [List.append_nil, segments, segments, segmentsFrom_nil, List.append_nil] at whole

/-- The characters of a word from the second one on are inside the word. -/
theorem segmentsFrom_insideWord {word : List Char} (hw : ∀ c ∈ word, isWord c = true)
    (hb : before.any isWord = true) (rest : List Char) :
    segmentsFrom (atWordStart read) before 0 (word ++ rest) =
      word.map .plain ++ segmentsFrom (atWordStart read) (charBefore before word) 0 rest := by
  induction word generalizing before with
  | nil => rfl
  | cons c word ih =>
    have hc : isWord c = true := hw c List.mem_cons_self
    have tail : segmentsFrom (atWordStart read) (some c) 0 (word ++ rest) = _ :=
      ih (fun d hd => hw d (List.mem_cons_of_mem c hd)) (by simpa)
    rw [List.cons_append, segmentsFrom_plain (atWordStart_inside _ hb), tail]
    rfl

/-- A word at whose start nothing is recognised is kept. -/
theorem segments_word (hr : WordLed read) {word rest : List Char} (hw : IsName word)
    (hrest : rest.head?.any isWord = false) (h : read (word ++ rest) = none) :
    segments (atWordStart read) (word ++ rest) =
      word.map .plain ++ segments (atWordStart read) rest := by
  obtain ⟨c, tail, rfl, hc, htail⟩ := hw.exists_cons
  rw [List.cons_append] at h ⊢
  rw [segments, segmentsFrom_plain (atWordStart_eq_none h),
    segmentsFrom_insideWord htail (by simpa), segmentsFrom_of_head hr hrest]
  rfl

/-- What holds of the empty text and is kept by a character between words, by a word at which
nothing is found and by a find, holds of every text. -/
theorem scan_induction {P : List Char → Prop} (he : EndsWord read) (nil : P [])
    (gap : ∀ c rest, isWord c = false → P rest → P (c :: rest))
    (word : ∀ word rest, IsName word → rest.head?.any isWord = false →
      read (word ++ rest) = none → P rest → P (word ++ rest))
    (found : ∀ text a left, read text = some (a, left) → P left → P text) (text : List Char) :
    P text := by
  induction size : text.length using Nat.strong_induction_on generalizing text with
  | _ n ih =>
    subst size
    cases text with
    | nil => exact nil
    | cons c rest =>
      cases letter : isWord c with
      | false => exact gap c rest letter (ih _ (by simp) rest rfl)
      | true =>
        cases here : read (c :: rest) with
        | some result =>
          exact found _ _ _ here (ih _ (Consumes.length_lt he.consumes here) _ rfl)
        | none =>
          obtain ⟨name, after, first⟩ : ∃ name after, readWord? (c :: rest) = some (name, after) :=
            exists_readWord? letter
          have parts := readWord?_parts first
          rw [parts] at here ⊢
          exact word name after (isName_of_readWord? first) (any_head?_of_readWord? first) here
            (ih _ (consumes_readWord?.length_lt first) _ rfl)

/-! ### The finds alone -/

/-- A find at the start of a text comes before the finds after it. -/
theorem finds_used (hr : WordLed read) {used rest : List Char} {a : α} (nonempty : used ≠ [])
    (hrest : rest.head?.any isWord = false) (h : read (used ++ rest) = some (a, rest)) :
    finds (atWordStart read) (used ++ rest) = a :: finds (atWordStart read) rest := by
  rw [finds, segments_used hr nonempty hrest h]
  rfl

/-- A find at the start of a text comes before the finds in what it leaves. -/
theorem finds_found (hr : WordLed read) (he : EndsWord read) {text left : List Char} {a : α}
    (h : read text = some (a, left)) :
    finds (atWordStart read) text = a :: finds (atWordStart read) left := by
  rw [finds, segments_found hr he h]
  rfl

/-- Between words there are no finds. -/
theorem finds_gap (hr : WordLed read) {gap : List Char} (hgap : ∀ c ∈ gap, isWord c = false)
    (rest : List Char) :
    finds (atWordStart read) (gap ++ rest) = finds (atWordStart read) rest := by
  rw [finds, segments_gap hr hgap, List.filterMap_append, filterMap_found?_map_plain]
  rfl

/-- A word at whose start nothing is recognised holds no finds. -/
theorem finds_word (hr : WordLed read) {word rest : List Char} (hw : IsName word)
    (hrest : rest.head?.any isWord = false) (h : read (word ++ rest) = none) :
    finds (atWordStart read) (word ++ rest) = finds (atWordStart read) rest := by
  rw [finds, segments_word hr hw hrest h, List.filterMap_append, filterMap_found?_map_plain]
  rfl

end words

/-! ## Scanning line by line -/

section lines

variable {read : List Char → Option (α × List Char)}

/-- A line feed ends what a reader that keeps to the line can use, so the search starts afresh
behind it. The skipped characters are those of a find that began on the line. -/
theorem segmentsFrom_line (hc : Consumes read) (hl : KeepsToLine read) (before : Option Char)
    {skip : Nat} {text : List Char} (hskip : skip ≤ text.length) (rest : List Char) :
    segmentsFrom (atWordStart read) before skip (text ++ '\n' :: rest) =
      segmentsFrom (atWordStart read) before skip text ++
        .plain '\n' :: segments (atWordStart read) rest := by
  induction text generalizing before skip with
  | nil =>
    obtain rfl : skip = 0 := by simpa using hskip
    have nothing : read ('\n' :: rest) = none := by
      rw [← List.nil_append ('\n' :: rest), hl, hc.nil]
      rfl
    rw [List.nil_append, segmentsFrom_plain (atWordStart_eq_none nothing),
      segmentsFrom_atWordStart_congr none (by simp), segmentsFrom_nil, List.nil_append]
    rfl
  | cons c text ih =>
    cases skip with
    | succ skip => exact ih (some c) (by simpa using hskip)
    | zero =>
      cases inside : before.any isWord with
      | true =>
        rw [List.cons_append, segmentsFrom_plain (atWordStart_inside _ inside),
          segmentsFrom_plain (atWordStart_inside _ inside), ih (some c) (Nat.zero_le _)]
        rfl
      | false =>
        have long : read (c :: (text ++ '\n' :: rest)) = _ := hl (c :: text) rest
        cases found : read (c :: text) with
        | none =>
          rw [found] at long
          rw [List.cons_append, segmentsFrom_plain (atWordStart_eq_none found),
            segmentsFrom_plain (atWordStart_eq_none long), ih (some c) (Nat.zero_le _)]
          rfl
        | some result =>
          obtain ⟨a, left⟩ := result
          rw [found] at long
          have short : atWordStart read before (c :: text) = some (a, left) := by
            rw [atWordStart_outside _ inside, found]
          have whole : atWordStart read before (c :: (text ++ '\n' :: rest)) =
              some (a, left ++ '\n' :: rest) := by
            rw [atWordStart_outside _ inside, long]
            rfl
          have count : (text ++ '\n' :: rest).length - (left ++ '\n' :: rest).length =
              text.length - left.length := by
            simp only [List.length_append]
            omega
          rw [List.cons_append, segmentsFrom_found whole, segmentsFrom_found short, count,
            ih (some c) (Nat.sub_le _ _)]
          rfl

/-- A reader that keeps to the line scans two lines one after the other. -/
theorem segments_line (hc : Consumes read) (hl : KeepsToLine read) (text rest : List Char) :
    segments (atWordStart read) (text ++ '\n' :: rest) =
      segments (atWordStart read) text ++ .plain '\n' :: segments (atWordStart read) rest :=
  segmentsFrom_line hc hl none (Nat.zero_le _) rest

end lines

end DiagramDiff.Text
