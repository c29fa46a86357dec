import DiagramDiff.Proofs.Mermaid.ClassHeaders
import DiagramDiff.Proofs.Mermaid.ClassLayout

/-!
# Bodies on one line

The members of a class may stand in its braces on one line, with commas between them, or one on
each line. The two are read alike (`ofText_inlineBody`) if every member is `SelfContained`: taken
alone it is not cut, and nothing is open at its end.

On one line no line feed closes what a member leaves open, so the counters go on from one member to
the next, and a tilde is judged by neighbours that are not part of the member. It is the comma
behind a member and the blank in front of it that keep the members apart. They are no letters, so
every tilde is judged as it is in the member alone (`uncut_of_atEnd?`), and the entries of the row
are those of its members (`entries_inlineBody`).
-/

namespace DiagramDiff.Mermaid

open Text

/-! ## Members that are not cut -/

/-- The nesting at the end of a text, given the nesting and the character in front of it; there is
none if the text is cut. -/
def Nesting.atEnd? (n : Nesting) (before : Option Char) : List Char → Option Nesting
  | [] => some n
  | c :: rest =>
    if n.cutsAt c then .none else (n.step before rest.head? c).atEnd? (some c) rest

/-- A member that is not cut when it stands alone, and that closes what it opens. -/
def SelfContained (member : List Char) : Prop := Nesting.none.atEnd? .none member = some .none

instance (member : List Char) : Decidable (SelfContained member) :=
  inferInstanceAs (Decidable (_ = _))

/-- A text that is not cut alone is not cut in front of another text that does not begin with a
letter. -/
theorem uncut_of_atEnd? {n n' : Nesting} {before : Option Char} {text rest : List Char}
    (h : n.atEnd? before text = some n') (hrest : Nesting.besideLetter rest.head? = false) :
    Uncut n n' before text rest := by
  induction text generalizing n before with
  | nil =>
    cases h
    exact (congrFun List.modifyHead_id (cutFrom n' before rest)).symm
  | cons c text ih =>
    rw [Nesting.atEnd?] at h
    split at h
    · cases h
    · next uncut =>
      -- Behind the last character comes the other text instead of nothing; neither is a letter.
      have beside : Nesting.besideLetter (text ++ rest).head? =
          Nesting.besideLetter text.head? := by
        cases text with
        | nil => exact hrest
        | cons d text => rfl
      have step : n.step before (text ++ rest).head? c = n.step before text.head? c := by
        simp only [Nesting.step, beside]
      have first : Uncut n (n.step before text.head? c) before [c] (text ++ rest) :=
        .of_step (by simpa using uncut) step
      exact first.append (ih h)

namespace SelfContained

variable {member : List Char} (h : SelfContained member)

include h

/-- A self-contained member is one piece. -/
theorem cut_eq : cut member = [member] := by
  have uncut : Uncut .none .none .none member [] := uncut_of_atEnd? h rfl
  simpa [Uncut, cutFrom, cut] using uncut

/-- A comma ends a self-contained member. -/
theorem cut_comma (rest : List Char) : cut (member ++ ',' :: rest) = member :: cut rest := by
  have comma : Nesting.besideLetter (some ',') = false := by decide
  have uncut : Uncut .none .none .none member (',' :: rest) := uncut_of_atEnd? h comma
  have behind : ∀ before, cutFrom .none before (',' :: rest) = [] :: cut rest := by
    intro before
    have cuts : Nesting.none.cutsAt ',' = true := by decide
    have step : Nesting.none.step before rest.head? ',' = .none := by simp [Nesting.step]
    have fresh : cutFrom .none (some ',') rest = cut rest := cutFrom_congr comma _ _
    simp only [cutFrom, cuts, step, fresh, if_true]
  rw [cut, uncut, behind, List.modifyHead_cons, List.append_nil]

/-- A comma and a space end the entries of a self-contained member. -/
theorem entries_comma (rest : List Char) :
    entries (member ++ ',' :: ' ' :: rest) = entries member ++ entries rest := by
  have space : IsWhite [' '] := forall_mem_of_all (by decide)
  have behind : entries (' ' :: rest) = entries rest := entries_white_append space rest
  rw [← behind, entries_eq_entriesOf, h.cut_comma, entries_eq_entriesOf member, h.cut_eq,
    ← List.singleton_append, entriesOf_append, ← entries_eq_entriesOf]

/-- A self-contained member that is a comment gives no entries. -/
theorem entries_emptyComment : entries (emptyComment member) = entries member := by
  unfold emptyComment
  split
  · next comment =>
    have trimmed : isComment (trim member) = true := (isComment_trim member).trans comment
    rw [entries_eq_entriesOf member, h.cut_eq]
    simp [entriesOf, trimmed, entries, cut, cutFrom]
  · rfl

/-- A self-contained member stands on one line. -/
theorem newline_not_mem : '\n' ∉ member := by
  intro feed
  have whole : member ∈ cut member := h.cut_eq ▸ List.mem_singleton_self member
  exact (mem_of_mem_cutFrom whole feed).2 rfl

end SelfContained

/-- A member that is read alike on a line of its own and between commas. -/
structure IsInlineMember (member : List Char) : Prop where
  /-- It is not cut and closes what it opens. -/
  selfContained : SelfContained member
  /-- It does not end the body. -/
  brace : '}' ∉ member
  /-- It is no annotation line. -/
  angle : '<' ∉ member
  /-- It is no link. -/
  markerless : Markerless member

/-! ## The entries of a body -/

/-- The members of a class in a row, with a comma and a space between each two. -/
def inlineBody (members : List (List Char)) : List Char := [',', ' '].intercalate members

/-- The members of a class on lines of their own, those emptied that are comments. -/
def linedBody (members : List (List Char)) : List Char :=
  '\n' :: textOfLines (members.map emptyComment)

/-- A row of members begins with the first of them. -/
theorem inlineBody_cons_cons (member next : List Char) (members : List (List Char)) :
    inlineBody (member :: next :: members) =
      member ++ ',' :: ' ' :: inlineBody (next :: members) := by
  simp [inlineBody, List.intercalate_cons_cons]

section bodies

variable {members : List (List Char)}

/-- The entries of members in a row are those of the members. -/
theorem entries_inlineBody (h : ∀ member ∈ members, SelfContained member) :
    entries (inlineBody members) = members.flatMap entries := by
  induction members with
  | nil => rfl
  | cons member members ih =>
    obtain ⟨first, others⟩ := List.forall_mem_cons.mp h
    cases members with
    | nil => simp [inlineBody]
    | cons next members =>
      rw [inlineBody_cons_cons, first.entries_comma, ih others]
      rfl

/-- The entries of members on lines of their own are those of the members. -/
theorem entries_linedBody (h : ∀ member ∈ members, SelfContained member) :
    entries (linedBody members) = members.flatMap entries := by
  have lines := entries_line [] (textOfLines (members.map emptyComment))
  have each : ∀ member ∈ members, entries (emptyComment member) = entries member :=
    fun member hm => (h member hm).entries_emptyComment
  rw [List.nil_append, read_textOfLines entries_line rfl, List.flatMap_map,
    List.flatMap_congr each] at lines
  exact lines

/-! ## The characters of a body -/

/-- What holds of every member and of two texts with a comma and a space between them holds of the
members in a row. -/
theorem inlineBody_forall {P : List Char → Prop} (nil : P [])
    (comma : ∀ text rest, P text → P rest → P (text ++ ',' :: ' ' :: rest))
    (h : ∀ member ∈ members, P member) : P (inlineBody members) := by
  induction members with
  | nil => exact nil
  | cons member members ih =>
    obtain ⟨first, others⟩ := List.forall_mem_cons.mp h
    cases members with
    | nil => simpa [inlineBody] using first
    | cons next members =>
      rw [inlineBody_cons_cons]
      exact comma _ _ first (ih others)

/-- Apart from commas and spaces members in a row hold what the members hold. -/
theorem not_mem_inlineBody {c : Char} (hc : c ∉ [',', ' ']) (h : ∀ member ∈ members, c ∉ member) :
    c ∉ inlineBody members := by
  refine inlineBody_forall List.not_mem_nil (fun text rest front back => ?_) h
  simp only [List.mem_cons, List.not_mem_nil, or_false, not_or] at hc
  simp [front, back, hc]

/-- Members in a row hold no marker. -/
theorem markerless_inlineBody (h : ∀ member ∈ members, Markerless member) :
    Markerless (inlineBody members) := by
  refine inlineBody_forall .nil (fun text rest front back => ?_) h
  have space : Markerless ([] ++ ' ' :: rest) :=
    Markerless.nil.append_cons back (by decide) (by decide)
  exact front.append_cons space (by decide) (by decide)

/-- Lines without markers make up a text without markers. -/
theorem markerless_textOfLines {lines : List (List Char)} (h : ∀ line ∈ lines, Markerless line)
    {rest : List Char} (hr : Markerless rest) : Markerless (textOfLines lines ++ rest) := by
  induction lines with
  | nil => exact hr
  | cons line lines ih =>
    obtain ⟨first, others⟩ := List.forall_mem_cons.mp h
    rw [textOfLines_cons, List.append_assoc, List.cons_append]
    exact first.append_cons (ih others) (by decide) (by decide)

/-- A line without markers has none when it is emptied either. -/
theorem markerless_emptyComment {line : List Char} (h : Markerless line) :
    Markerless (emptyComment line) := by
  unfold emptyComment
  split
  · exact .nil
  · exact h

end bodies

end DiagramDiff.Mermaid

namespace DiagramDiff.Diagram

open Mermaid Text

/-- Of a text without markers and annotation lines nothing but its classes is read. -/
theorem ofChars_of_markerless {text source : List Char} (spoken : stripComments text = source)
    (links : Markerless source) (angle : '<' ∉ text) :
    ofChars text = { classes := declaredClasses source, links := [] } := by
  have tags : tagLines source = [] := by
    rw [← spoken, tagLines_stripComments, tagLines_of_not_mem angle]
  rw [ofChars, spoken, links.blankLabels_eq_self, textLinks, links.linkTexts_eq_nil, textClasses,
    tags]
  rfl

section bodies

variable {name : List Char} (hn : IsName name) {members : List (List Char)}
  (h : ∀ member ∈ members, IsInlineMember member)

include hn h

/-- The class whose members stand on one line. -/
theorem ofChars_inlineBody :
    ofChars (HeaderLayout.compact.chars name ++ (inlineBody members ++ ['}'])) =
      { classes := [classOfBody (String.ofList name) (inlineBody members)], links := [] } := by
  have feed : '\n' ∉ inlineBody members :=
    not_mem_inlineBody (by decide) fun member hm => (h member hm).selfContained.newline_not_mem
  have brace : '}' ∉ inlineBody members :=
    not_mem_inlineBody (by decide) fun member hm => (h member hm).brace
  have angle : '<' ∉ inlineBody members :=
    not_mem_inlineBody (by decide) fun member hm => (h member hm).angle
  have spoken : stripComments (HeaderLayout.compact.chars name ++ (inlineBody members ++ ['}'])) =
      HeaderLayout.compact.chars name ++ (inlineBody members ++ ['}']) := by
    refine stripComments_of_not_comment ?_ ?_
    · simp [HeaderLayout.chars_compact, classHeader, hn.not_mem isWord_newline, feed]
    · exact @isComment_of_head [] _ 'c' (by simp) (by decide) (by decide)
  have body : Markerless (inlineBody members ++ ['}']) :=
    (markerless_inlineBody fun member hm => (h member hm).markerless).append_cons .nil (by decide)
      (by decide)
  have header : '<' ∉ HeaderLayout.compact.chars name :=
    HeaderLayout.compact.not_mem_chars hn (by decide) (by decide) (by decide)
  rw [ofChars_of_markerless spoken (HeaderLayout.compact.markerless_append hn body)
    (by simp [header, angle]), HeaderLayout.compact.declaredClasses_chars hn brace]

/-- The class whose members stand on lines of their own. -/
theorem ofChars_linedBody :
    ofChars (HeaderLayout.plain.chars name ++ '\n' :: (textOfLines members ++ ['}'])) =
      { classes := [classOfBody (String.ofList name) (linedBody members)], links := [] } := by
  have brace : '}' ∉ linedBody members := by
    have lines : '}' ∉ textOfLines (members.map emptyComment) :=
      not_mem_textOfLines (List.forall_mem_map.mpr fun member hm inside =>
        (h member hm).brace (emptyComment_subset member inside)) (by decide)
    simp [linedBody, lines]
  have angle : '<' ∉ textOfLines members :=
    not_mem_textOfLines (fun member hm => (h member hm).angle) (by decide)
  have lines : stripComments (textOfLines members ++ ['}']) =
      textOfLines (members.map emptyComment) ++ ['}'] := by
    have each : ∀ member ∈ members, stripComments member = emptyComment member :=
      fun member hm => stripComments_eq_emptyComment (h member hm).selfContained.newline_not_mem
    rw [rewrite_textOfLines_append stripComments_line, List.map_congr_left each]
    rfl
  have spoken : stripComments
      (HeaderLayout.plain.chars name ++ '\n' :: (textOfLines members ++ ['}'])) =
        HeaderLayout.plain.chars name ++ (linedBody members ++ ['}']) := by
    have percent : '%' ∉ HeaderLayout.plain.chars name :=
      HeaderLayout.plain.not_mem_chars hn (by decide) (by decide) (by decide)
    rw [stripComments_line, lines, stripComments_of_not_mem percent]
    rfl
  have body : Markerless (linedBody members ++ ['}']) := by
    have closing : Markerless ['}'] := .of_not_mem (by decide) (by decide)
    have behind : Markerless (textOfLines (members.map emptyComment) ++ ['}']) :=
      markerless_textOfLines (List.forall_mem_map.mpr fun member hm =>
        markerless_emptyComment (h member hm).markerless) closing
    exact Markerless.nil.append_cons behind (by decide) (by decide)
  have header : '<' ∉ HeaderLayout.plain.chars name :=
    HeaderLayout.plain.not_mem_chars hn (by decide) (by decide) (by decide)
  rw [ofChars_of_markerless spoken (HeaderLayout.plain.markerless_append hn body)
    (by simp [header, angle]), HeaderLayout.plain.declaredClasses_chars hn brace]

end bodies

/-- A class is read alike from members on one line, with commas between them, and from members on
lines of their own. It has the members that its body has, and nothing else is read. -/
theorem ofText_inlineBody {name : String} (hn : IsName name.toList) {members : List String}
    (h : ∀ member ∈ members, IsInlineMember member.toList) :
    ofText ("class " ++ name ++ "\x7b" ++ ", ".intercalate members ++ "\x7d") =
        ofText ("class " ++ name ++ " \x7b\n" ++ String.join (members.map (· ++ "\n")) ++
          "\x7d") ∧
      ofText ("class " ++ name ++ "\x7b" ++ ", ".intercalate members ++ "\x7d") =
        { classes := [classOfBody name (inlineBody (members.map String.toList))]
          links := [] } := by
  have each : ∀ member ∈ members.map String.toList, IsInlineMember member :=
    List.forall_mem_map.mpr h
  have contained : ∀ member ∈ members.map String.toList, SelfContained member :=
    fun member hm => (each member hm).selfContained
  have inline : ("class " ++ name ++ "\x7b" ++ ", ".intercalate members ++ "\x7d").toList =
      HeaderLayout.compact.chars name.toList ++
        (inlineBody (members.map String.toList) ++ ['}']) := by
    simp [HeaderLayout.chars_compact, classHeader, inlineBody]
  have lined : ("class " ++ name ++ " \x7b\n" ++ String.join (members.map (· ++ "\n")) ++
      "\x7d").toList = HeaderLayout.plain.chars name.toList ++
        '\n' :: (textOfLines (members.map String.toList) ++ ['}']) := by
    simp [HeaderLayout.chars_plain, classHeader, textOfLines, List.flatMap_map]
  have same : entries (inlineBody (members.map String.toList)) =
      entries (linedBody (members.map String.toList)) :=
    (entries_inlineBody contained).trans (entries_linedBody contained).symm
  have read := ofChars_inlineBody hn each
  rw [String.ofList_toList] at read
  refine ⟨?_, by rw [ofText, inline, read]⟩
  rw [ofText, ofText, inline, lined, read, ofChars_linedBody hn each, String.ofList_toList,
    classOfBody_congr same]

/-- A method with two parameters, a type with two arguments, a member that begins with a tilde, and
a comment. -/
def cacheMembers : List String :=
  ["+put(key: K, value: V)", "~entries: Map~K, V~", "~int size", " %% not yet"]

/-- The members of that list can stand on one line: the tilde with which one of them begins is not
judged by the end of the one before it. -/
theorem ofText_inlineBody_cache :
    (∀ member ∈ cacheMembers, IsInlineMember member.toList) ∧
      ofText ("class Cache\x7b" ++
          "+put(key: K, value: V), ~entries: Map~K, V~, ~int size,  %% not yet\x7d") =
        ofText ("class Cache \x7b\n" ++
          "+put(key: K, value: V)\n~entries: Map~K, V~\n~int size\n %% not yet\n\x7d") ∧
      ofText ("class Cache\x7b" ++
          "+put(key: K, value: V), ~entries: Map~K, V~, ~int size,  %% not yet\x7d") =
        { classes := [⟨"Cache", [⟨"entries", "Map~K, V~"⟩, ⟨"size", "int"⟩], ["put"], []⟩]
          links := [] } := by
  have all : ∀ member ∈ cacheMembers, IsInlineMember member.toList := by
    have each : ∀ member ∈ cacheMembers, SelfContained member.toList ∧ '}' ∉ member.toList ∧
        '<' ∉ member.toList ∧ ¬ ['-', '-'] <:+: member.toList ∧
          ¬ ['.', '.'] <:+: member.toList := by
      decide +kernel
    intro member hm
    obtain ⟨contained, brace, angle, hyphens, stops⟩ := each member hm
    exact ⟨contained, brace, angle, hyphens, stops⟩
  have read := @ofText_inlineBody "Cache" (by decide) cacheMembers all
  have body : classOfBody "Cache" (inlineBody (cacheMembers.map String.toList)) =
      ⟨"Cache", [⟨"entries", "Map~K, V~"⟩, ⟨"size", "int"⟩], ["put"], []⟩ := by
    decide +kernel
  rw [body] at read
  exact ⟨all, read⟩

end DiagramDiff.Diagram
