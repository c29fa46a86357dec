import DiagramDiff.Proofs.Listing.ReportLines
import DiagramDiff.Proofs.Text.Scanning

/-!
# Colour

A terminal sequence begins with an escape character and a bracket and goes on to the next `m`. The
coloured forms of a report and of a listing differ from the plain ones in such sequences only, and
every sequence that switches an emphasis on is taken back by the next one, before anything else is
emphasised and before the text ends (`colour_adds_sequences`).

Both are said once, of a text and a painted form of it (`Paints`): characters are kept, and now and
then some of them stand between the two sequences of an emphasis. Painting composes, so each part of
a report or of a listing is looked at by itself. What is painted may hold brackets, digits and the
letter `m`, also right beside a sequence; what it must not hold is the escape character, since a
text that brings its own sequences would lose them.
-/

namespace DiagramDiff

open Text

/-! ## Sequences -/

/-- The sequence that a text begins with, told by what stands between its beginning and the next
`m`, and the text after it. -/
def readSequence? (text : List Char) : Option (List Char × List Char) :=
  match escape.toList.isPrefixOf? text with
  | none => none
  | some rest =>
    match rest.dropWhile (· != 'm') with
    | [] => none
    | _ :: after => some (rest.takeWhile (· != 'm'), after)

/-- What is left of a text when its sequences are taken out. -/
def withoutSequences (text : List Char) : List Char := withoutFinds (fun _ => readSequence?) text

/-- Every emphasis that is switched on in a text is switched off again by the next sequence. -/
def TakesBack (text : List Char) : Prop :=
  ∀ before (e : Emphasis) after, text = before ++ (e.on.toList ++ after) →
    ∃ inner rest, after = inner ++ (e.off.toList ++ rest) ∧ '\x1b' ∉ inner

/-- A sequence is read up to its `m`. -/
theorem readSequence?_sequence {code : List Char} (h : 'm' ∉ code) (rest : List Char) :
    readSequence? (escape.toList ++ (code ++ 'm' :: rest)) = some (code, rest) := by
  have begins : escape.toList.isPrefixOf? (escape.toList ++ (code ++ 'm' :: rest)) =
      some (code ++ 'm' :: rest) := by
    simp [List.isPrefixOf?_eq_some_iff_append_eq]
  have all : ∀ c ∈ code, (c != 'm') = true := by
    rintro c member
    rw [bne_iff_ne]
    rintro rfl
    exact h member
  unfold readSequence?
  rw [begins]
  simp only [List.dropWhile_append_of_pos all, List.takeWhile_append_of_pos all]
  simp

/-- No sequence begins with another character. -/
theorem readSequence?_cons {c : Char} (h : c ≠ '\x1b') (rest : List Char) :
    readSequence? (c :: rest) = none := by
  have other : escape.toList.isPrefixOf? (c :: rest) = none := by
    have begins : escape.toList = '\x1b' :: ['['] := rfl
    rw [begins, List.isPrefixOf?, if_neg]
    exact fun same => h (beq_iff_eq.mp same).symm
  rw [readSequence?, other]

namespace Emphasis

/-- What the sequence that switches an emphasis on says. -/
def onCode : Emphasis → List Char
  | .bold => ['1']
  | .yellow => ['3', '8', ';', '5', ';', '1', '1']
  | .red => ['3', '8', ';', '5', ';', '9']

/-- What the sequence that switches an emphasis off says. -/
def offCode : Emphasis → List Char
  | .bold => ['0']
  | .yellow | .red => ['3', '9']

/-- The sequence that switches an emphasis on is read. -/
theorem readSequence?_on (e : Emphasis) (rest : List Char) :
    readSequence? (e.on.toList ++ rest) = some (e.onCode, rest) := by
  have spelled : e.on.toList ++ rest = escape.toList ++ (e.onCode ++ 'm' :: rest) := by
    cases e <;> rfl
  rw [spelled]
  exact readSequence?_sequence (by cases e <;> decide) rest

/-- The sequence that switches an emphasis off is read. -/
theorem readSequence?_off (e : Emphasis) (rest : List Char) :
    readSequence? (e.off.toList ++ rest) = some (e.offCode, rest) := by
  have spelled : e.off.toList ++ rest = escape.toList ++ (e.offCode ++ 'm' :: rest) := by
    cases e <;> rfl
  rw [spelled]
  exact readSequence?_sequence (by cases e <;> decide) rest

/-- A text begins with the sequence of one emphasis only. -/
theorem on_append_inj {e f : Emphasis} {rest rest' : List Char}
    (h : e.on.toList ++ rest = f.on.toList ++ rest') : e = f ∧ rest = rest' := by
  have read := readSequence?_on e rest
  rw [h, readSequence?_on, Option.some.injEq, Prod.mk.injEq] at read
  refine ⟨?_, read.2.symm⟩
  have codes := read.1
  cases e <;> cases f <;> first | rfl | cases codes

/-- No sequence switches one emphasis on and another off. -/
theorem on_append_ne_off_append (e f : Emphasis) (rest rest' : List Char) :
    e.on.toList ++ rest ≠ f.off.toList ++ rest' := by
  intro same
  have read := readSequence?_on e rest
  rw [same, readSequence?_off, Option.some.injEq, Prod.mk.injEq] at read
  have codes := read.1
  cases e <;> cases f <;> cases codes

end Emphasis

/-! ## Texts without sequences -/

/-- A text without escape characters stays when sequences are taken out. -/
theorem withoutSequences_append {run : List Char} (h : '\x1b' ∉ run) (rest : List Char) :
    withoutSequences (run ++ rest) = run ++ withoutSequences rest := by
  refine withoutFinds_everywhere_kept fun front c back parts => readSequence?_cons ?_ _
  rintro rfl
  exact h (parts ▸ List.mem_append_right front List.mem_cons_self)

/-- A sequence that is read is taken out. -/
theorem withoutSequences_of_read {used rest code : List Char} (nonempty : used ≠ [])
    (h : readSequence? (used ++ rest) = some (code, rest)) :
    withoutSequences (used ++ rest) = withoutSequences rest :=
  withoutFinds_everywhere_used nonempty h

/-- What is emphasised stays when sequences are taken out. -/
theorem withoutSequences_emphasised (e : Emphasis) {inner : List Char} (h : '\x1b' ∉ inner)
    (rest : List Char) :
    withoutSequences (e.on.toList ++ (inner ++ (e.off.toList ++ rest))) =
      inner ++ withoutSequences rest := by
  have on : e.on.toList ≠ [] := by cases e <;> decide
  have off : e.off.toList ≠ [] := by cases e <;> decide
  rw [withoutSequences_of_read on (e.readSequence?_on _), withoutSequences_append h,
    withoutSequences_of_read off (e.readSequence?_off _)]

/-! ## Emphases that are taken back -/

/-- A text takes its emphases back if what follows its first character does and one that is
switched on right at its beginning is switched off. -/
theorem TakesBack.cons {c : Char} {rest : List Char} (h : TakesBack rest)
    (start : ∀ (e : Emphasis) after, c :: rest = e.on.toList ++ after →
      ∃ inner left, after = inner ++ (e.off.toList ++ left) ∧ '\x1b' ∉ inner) :
    TakesBack (c :: rest) := by
  intro before e after parts
  cases before with
  | nil => exact start e after parts
  | cons b before => exact h before e after (List.cons.inj parts).2

/-- Nothing is switched on by other characters. -/
theorem TakesBack.append {run rest : List Char} (h : TakesBack rest) (plain : '\x1b' ∉ run) :
    TakesBack (run ++ rest) := by
  induction run with
  | nil => exact h
  | cons c run ih =>
    rw [List.mem_cons, not_or] at plain
    refine (ih plain.2).cons fun e after begins => ?_
    have read := e.readSequence?_on after
    rw [← begins, readSequence?_cons (Ne.symm plain.1)] at read
    cases read

/-- Both sequences of an emphasis are an escape character and some others. -/
theorem Emphasis.exists_tail (e : Emphasis) :
    (∃ tail, e.on.toList = '\x1b' :: tail ∧ '\x1b' ∉ tail) ∧
      ∃ tail, e.off.toList = '\x1b' :: tail ∧ '\x1b' ∉ tail := by
  cases e <;> exact ⟨⟨_, rfl, by decide⟩, ⟨_, rfl, by decide⟩⟩

/-- Nothing is switched on where an emphasis is switched off. -/
theorem TakesBack.off_append {rest : List Char} (h : TakesBack rest) (e : Emphasis) :
    TakesBack (e.off.toList ++ rest) := by
  obtain ⟨-, tail, off, plain⟩ := e.exists_tail
  have later : TakesBack (tail ++ rest) := h.append plain
  rw [off, List.cons_append]
  refine later.cons fun f after begins => ?_
  rw [← List.cons_append, ← off] at begins
  exact absurd begins.symm (f.on_append_ne_off_append e _ _)

/-- An emphasis is switched off directly behind what it emphasises. -/
theorem TakesBack.emphasised {inner rest : List Char} (h : TakesBack rest) (e : Emphasis)
    (plain : '\x1b' ∉ inner) :
    TakesBack (e.on.toList ++ (inner ++ (e.off.toList ++ rest))) := by
  obtain ⟨⟨tail, on, plain_tail⟩, -⟩ := e.exists_tail
  -- Behind its first character the sequence that switches on is text like any other.
  have later : TakesBack (tail ++ (inner ++ (e.off.toList ++ rest))) :=
    ((h.off_append e).append plain).append plain_tail
  rw [on, List.cons_append]
  refine later.cons fun f after begins => ?_
  rw [← List.cons_append, ← on] at begins
  obtain ⟨rfl, rfl⟩ := Emphasis.on_append_inj begins
  exact ⟨inner, rest, rfl, plain⟩

/-! ## Painted texts -/

/-- `painted` is `text` with some parts of it between the two sequences of an emphasis. -/
inductive Paints : List Char → List Char → Prop where
  /-- Nothing is painted. -/
  | nil : Paints [] []
  /-- A character stays as it is. -/
  | plain {c : Char} {text painted : List Char} (h : c ≠ '\x1b') (later : Paints text painted) :
      Paints (c :: text) (c :: painted)
  /-- A part is emphasised. -/
  | emphasised (e : Emphasis) {inner text painted : List Char} (h : '\x1b' ∉ inner)
      (later : Paints text painted) :
      Paints (inner ++ text) (e.on.toList ++ (inner ++ (e.off.toList ++ painted)))

namespace Paints

/-- Taking the sequences out of a painted text gives the text. -/
theorem withoutSequences_eq {text painted : List Char} (h : Paints text painted) :
    withoutSequences painted = text := by
  induction h with
  | nil => rfl
  | plain other _ ih =>
    rw [← List.singleton_append,
      withoutSequences_append (fun inside => other (List.mem_singleton.mp inside).symm), ih]
    rfl
  | emphasised e free _ ih => rw [withoutSequences_emphasised e free, ih]

/-- A painted text takes its emphases back. -/
theorem takesBack {text painted : List Char} (h : Paints text painted) : TakesBack painted := by
  induction h with
  | nil =>
    intro before e after parts
    obtain ⟨⟨tail, on, -⟩, -⟩ := e.exists_tail
    rw [on] at parts
    exact absurd (parts ▸ List.mem_append_right before List.mem_cons_self) List.not_mem_nil
  | plain other _ ih =>
    exact ih.append fun inside => other (List.mem_singleton.mp inside).symm
  | emphasised e free _ ih => exact ih.emphasised e free

/-- Painted texts one after the other are a painted text. -/
theorem append {text text' painted painted' : List Char} (h : Paints text painted)
    (h' : Paints text' painted') : Paints (text ++ text') (painted ++ painted') := by
  induction h with
  | nil => exact h'
  | plain other _ ih => exact .plain other ih
  | emphasised e free _ ih =>
    simp only [List.append_assoc]
    exact .emphasised e free ih

/-- A text may be left as it is. -/
theorem refl {text : List Char} (h : '\x1b' ∉ text) : Paints text text := by
  induction text with
  | nil => exact .nil
  | cons c text ih =>
    rw [List.mem_cons, not_or] at h
    exact .plain (Ne.symm h.1) (ih h.2)

/-- The front of a text may be left as it is. -/
theorem behind {front text painted : String} (h : '\x1b' ∉ front.toList)
    (later : Paints text.toList painted.toList) :
    Paints (front ++ text).toList (front ++ painted).toList := by
  rw [String.toList_append, String.toList_append]
  exact (Paints.refl h).append later

/-- A text may be emphasised as a whole. -/
theorem wrap (e : Emphasis) {text : String} (h : '\x1b' ∉ text.toList) :
    Paints text.toList (e.wrap text).toList := by
  have whole := Paints.emphasised e h .nil
  rw [List.append_nil, List.append_nil, ← List.append_assoc] at whole
  rw [Emphasis.wrap, String.toList_append, String.toList_append]
  exact whole

/-- Lines may be painted one by one. -/
theorem endedLines {lines painted : List String}
    (h : List.Forall₂ (fun line row => Paints line.toList row.toList) lines painted) :
    Paints (endedLines lines).toList (endedLines painted).toList := by
  rw [toList_endedLines, toList_endedLines]
  induction h with
  | nil => exact .nil
  | cons first _ ih =>
    rw [List.map_cons, List.map_cons, textOfLines_cons, textOfLines_cons]
    exact first.append (.plain (by decide) ih)

/-- A text in the colour of its mark is a painted text. -/
theorem paint (mark : Option Mark) {text : String} (h : '\x1b' ∉ text.toList) :
    Paints text.toList (paint true mark text).toList := by
  cases mark with
  | none => exact .refl h
  | some m => exact .wrap m.emphasis h

end Paints

/-! ## Reports and listings -/

/-- The line of a difference is painted where the message stands. -/
theorem Report.paints_differenceLine {d : Difference} (h : '\x1b' ∉ d.message.toList) :
    Paints (differenceLine false d).toList (differenceLine true d).toList := by
  rw [differenceLine, differenceLine, paint_false]
  exact .behind (by decide) (.paint _ h)

/-- The row of a line is painted where the text of the line stands. -/
theorem MarkedLine.paints_row (width : Nat) {line : MarkedLine} (h : '\x1b' ∉ line.text.toList) :
    Paints (line.row false width).toList (line.row true width).toList := by
  have gutter : '\x1b' ≠ line.gutter := fun same => absurd (same ▸ line.gutter_mem) (by decide)
  have digits : '\x1b' ∉ Nat.toDigits 10 line.number := not_mem_toDigits (by decide) _
  rw [row, row, paint_false]
  refine .behind ?_ (.paint line.mark h)
  simp [toList_padLeft, gutter, digits]

/-- A coloured report is a painted one. -/
theorem Report.paints_render {r : Report}
    (differences : ∀ d ∈ r.differences, '\x1b' ∉ d.message.toList)
    (hints : ∀ h ∈ r.hints, '\x1b' ∉ h.message.toList) :
    Paints (r.render false).toList (r.render true).toList := by
  refine .endedLines (.cons (.wrap .bold (r.not_mem_verdict (by decide) (by decide))) ?_)
  split
  · exact .nil
  · refine List.rel_append ?_ ?_
    · rw [List.forall₂_map_left_iff, List.forall₂_map_right_iff, List.forall₂_same]
      exact fun d hd => paints_differenceLine (differences d hd)
    · rw [List.forall₂_map_left_iff, List.forall₂_map_right_iff, List.forall₂_same]
      exact fun hint member => .behind (by decide) (.refl (hints hint member))

/-- A coloured listing is a painted one. -/
theorem paints_renderListing {lines : List MarkedLine}
    (texts : ∀ line ∈ lines, '\x1b' ∉ line.text.toList) :
    Paints (renderListing false lines).toList (renderListing true lines).toList := by
  refine .endedLines ?_
  rw [List.forall₂_map_left_iff, List.forall₂_map_right_iff, List.forall₂_same]
  exact fun line hl => line.paints_row _ (texts line hl)

/-- The colour of a report and of a listing is made of sequences: taking them out gives the plain
text, and every emphasis is switched off by the next sequence after the one that switches it on. -/
theorem colour_adds_sequences (r : Report) (lines : List MarkedLine)
    (differences : ∀ d ∈ r.differences, '\x1b' ∉ d.message.toList)
    (hints : ∀ h ∈ r.hints, '\x1b' ∉ h.message.toList)
    (texts : ∀ line ∈ lines, '\x1b' ∉ line.text.toList) :
    (withoutSequences (r.render true).toList = (r.render false).toList ∧
        TakesBack (r.render true).toList) ∧
      withoutSequences (renderListing true lines).toList = (renderListing false lines).toList ∧
        TakesBack (renderListing true lines).toList := by
  have report := Report.paints_render differences hints
  have listing := paints_renderListing texts
  exact ⟨⟨report.withoutSequences_eq, report.takesBack⟩, listing.withoutSequences_eq,
    listing.takesBack⟩

/-- What is painted may look like the end of a sequence. -/
theorem colour_adds_sequences_dog :
    let r : Report := .ofDifferences [(Finding.classesAdded ["[39m"]).difference]
    let lines : List MarkedLine := [⟨1, "class Dog [39m", some .unexpected, some 0⟩]
    (∀ d ∈ r.differences, '\x1b' ∉ d.message.toList) ∧
      (∀ h ∈ r.hints, '\x1b' ∉ h.message.toList) ∧
      (∀ line ∈ lines, '\x1b' ∉ line.text.toList) ∧
      renderListing true lines = "! 1 | \x1b[38;5;9mclass Dog [39m\x1b[39m\n" ∧
      withoutSequences (renderListing true lines).toList = "! 1 | class Dog [39m\n".toList ∧
      TakesBack (r.render true).toList := by
  intro r lines
  have differences : ∀ d ∈ r.differences, '\x1b' ∉ d.message.toList := by decide +kernel
  have hints : ∀ h ∈ r.hints, '\x1b' ∉ h.message.toList := by decide +kernel
  have texts : ∀ line ∈ lines, '\x1b' ∉ line.text.toList := by decide +kernel
  have coloured := colour_adds_sequences r lines differences hints texts
  have plain : renderListing false lines = "! 1 | class Dog [39m\n" := by decide +kernel
  refine ⟨differences, hints, texts, by decide +kernel, ?_, coloured.1.2⟩
  rw [coloured.2.1, plain]

end DiagramDiff
