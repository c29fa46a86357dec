import DiagramDiff.Proofs.Mermaid.LinkLayout
import DiagramDiff.Proofs.Mermaid.TagLines

/-!
# What may stand in the place of a label

A label stands behind a colon and blanks, and reaches to the end of its line. What the reader of
links makes of a text that ends in a colon and blanks is settled there, whatever follows: it finds
nothing, or a link that lies in front of the colon, or a link whose label the colon starts
(`foreseen_readLink?`). The one thing that could look further is the quote of a cardinality, so what
follows must not close one (`Unclosed`).

So the reader answers alike if a label further on is exchanged for another text on one line: where
it finds nothing (`readLink?_exchange_none`), at a link in front of the label
(`readLink?_exchange_within`), and at the link that has the label (`readLink?_exchange_label`).
-/

namespace DiagramDiff.Mermaid

open Text

/-! ## Texts that end in a colon -/

/-- A text that ends in a colon and blanks. -/
def ColonEnded (text : List Char) : Prop :=
  ∃ front blanks, text = front ++ ':' :: blanks ∧ ∀ c ∈ blanks, isBlank c = true

namespace ColonEnded

variable {text used rest : List Char}

/-- There is a colon in it. -/
theorem colon_mem (h : ColonEnded text) : ':' ∈ text := by
  obtain ⟨front, blanks, rfl, -⟩ := h
  exact List.mem_append_right _ List.mem_cons_self

/-- It is not empty. -/
theorem ne_nil (h : ColonEnded text) : text ≠ [] := List.ne_nil_of_mem h.colon_mem

/-- Anything may stand in front of it. -/
theorem append_left (h : ColonEnded text) (front : List Char) : ColonEnded (front ++ text) := by
  obtain ⟨first, blanks, rfl, hb⟩ := h
  exact ⟨front ++ first, blanks, (List.append_assoc _ _ _).symm, hb⟩

/-- Of two parts the second ends in a colon, or it is blank and the first one does. -/
theorem append_cases (h : ColonEnded (used ++ rest)) :
    ColonEnded rest ∨ (ColonEnded used ∧ ∀ c ∈ rest, isBlank c = true) := by
  obtain ⟨front, blanks, parts, hb⟩ := h
  rcases List.append_eq_append_iff.mp parts with ⟨middle, -, second⟩ | ⟨middle, first, second⟩
  · exact .inl ⟨middle, blanks, second, hb⟩
  · cases middle with
    | nil => exact .inl ⟨[], blanks, second.symm, hb⟩
    | cons c middle =>
      obtain ⟨rfl, rfl⟩ := List.cons.inj second
      exact .inr ⟨⟨front, middle, first, fun d hd => hb d (List.mem_append_left _ hd)⟩,
        fun d hd => hb d (List.mem_append_right _ hd)⟩

/-- A part without colons may be taken off in front. -/
theorem of_append (h : ColonEnded (used ++ rest)) (colon : ':' ∉ used) : ColonEnded rest :=
  h.append_cases.resolve_right fun ended => colon ended.1.colon_mem

/-- Behind a character that is neither blank nor a colon it goes on to its colon. -/
theorem behind {front : List Char} {c : Char} (h : ColonEnded (front ++ c :: rest))
    (dark : isBlank c = false) (colon : c ≠ ':') : ColonEnded rest := by
  rw [List.append_cons] at h
  refine h.append_cases.resolve_right fun ended => ?_
  rcases ended.1.append_cases with single | ⟨-, blank⟩
  · exact colon (List.mem_singleton.mp single.colon_mem).symm
  · rw [blank c List.mem_cons_self] at dark
    cases dark

/-- What follows it does not change its first character. -/
theorem head?_append (h : ColonEnded text) (x : List Char) :
    (text ++ x).head? = text.head? := by
  rw [List.head?_append_of_ne_nil _ h.ne_nil]

end ColonEnded

/-- A text that does not close a quote opened before it. -/
def Unclosed (text : List Char) : Prop :=
  (text.dropWhile isQuotable).head?.any (· == '"') = false

/-! ## The parts of a link in front of a colon -/

section parts

variable {p : List Char} (hp : ColonEnded p)

include hp

/-- Blanks are dropped in front of the colon. -/
theorem dropBlanks_colonEnded :
    ColonEnded (dropBlanks p) ∧ ∀ x, dropBlanks (p ++ x) = dropBlanks p ++ x := by
  have stop : isBlank ':' = false := by decide
  refine ⟨?_, fun x => (dropWhile_append_of_mem stop hp.colon_mem x).1⟩
  rw [← List.takeWhile_append_dropWhile (p := isBlank) (l := p)] at hp
  refine hp.of_append fun colon => ?_
  rw [List.mem_takeWhile_imp colon] at stop
  cases stop

/-- A cardinality is skipped in front of the colon, or its quote is not closed. -/
theorem skipCardinality_colonEnded :
    ColonEnded (skipCardinality p) ∧
      ∀ x, Unclosed x → skipCardinality (p ++ x) = skipCardinality p ++ x := by
  obtain ⟨c, rest, rfl⟩ := List.exists_cons_of_ne_nil hp.ne_nil
  by_cases quote : c = '"'
  · subst quote
    cases left : rest.dropWhile isQuotable with
    | nil =>
      have inner : ∀ x, (rest ++ x).dropWhile isQuotable = x.dropWhile isQuotable := by
        intro x
        rw [List.dropWhile_append, left]
        rfl
      have alone : skipCardinality ('"' :: rest) = '"' :: rest :=
        skipCardinality_unquoted (by rw [left]; rfl)
      rw [alone]
      exact ⟨hp, fun x hx => skipCardinality_unquoted ((inner x).symm ▸ hx)⟩
    | cons d after =>
      have inner : ∀ x, (rest ++ x).dropWhile isQuotable = d :: (after ++ x) := by
        intro x
        rw [List.dropWhile_append, left]
        rfl
      by_cases closing : d = '"'
      · subst closing
        have ended : ColonEnded after := by
          rw [← List.takeWhile_append_dropWhile (p := isQuotable) (l := rest), left,
            ← List.cons_append] at hp
          exact hp.behind (by decide) (by decide)
        obtain ⟨blanks, pass⟩ := dropBlanks_colonEnded ended
        rw [skipCardinality_quoted left]
        exact ⟨blanks, fun x _ => (skipCardinality_quoted (inner x)).trans (pass x)⟩
      · have alone : skipCardinality ('"' :: rest) = '"' :: rest :=
          skipCardinality_unquoted (by rw [left]; simpa using closing)
        rw [alone]
        refine ⟨hp, fun x _ => ?_⟩
        rw [List.cons_append]
        exact skipCardinality_unquoted (by rw [inner]; simpa using closing)
  · have unquoted : ∀ text : List Char, skipCardinality (c :: text) = c :: text := fun text =>
      skipCardinality_of_head (by simpa using quote)
    rw [unquoted]
    exact ⟨hp, fun x _ => unquoted (rest ++ x)⟩

/-- A word is read in front of the colon. -/
theorem readWord?_colonEnded :
    (∀ word left, readWord? p = some (word, left) → ColonEnded left) ∧
      ∀ x, readWord? (p ++ x) = (readWord? p).map fun (word, left) => (word, left ++ x) := by
  have stop : isWord ':' = false := by decide
  constructor
  · intro word left read
    rw [readWord?_parts read] at hp
    exact hp.of_append ((isName_of_readWord? read).not_mem stop)
  · intro x
    have run : wordRun (p ++ x) = wordRun p := takeWhile_append_of_mem stop hp.colon_mem x
    have after : afterWord (p ++ x) = afterWord p ++ x :=
      (dropWhile_append_of_mem stop hp.colon_mem x).1
    simp only [readWord?, run, after]
    cases wordRun p with
    | nil => rfl
    | cons c word => rfl

end parts

/-- A text without a character is found at the start of one that has it, or missed there, whatever
follows. -/
theorem isPrefixOf?_append_of_mem {marker text : List Char} {stop : Char} (hm : stop ∉ marker)
    (hs : stop ∈ text) (x : List Char) :
    marker.isPrefixOf? (text ++ x) = (marker.isPrefixOf? text).map (· ++ x) := by
  induction marker generalizing text with
  | nil => rfl
  | cons m marker ih =>
    rw [List.mem_cons, not_or] at hm
    cases text with
    | nil => cases hs
    | cons c text =>
      simp only [List.cons_append, List.isPrefixOf?]
      by_cases same : (m == c) = true
      · have other : stop ≠ c := fun e => hm.1 (e.trans (eq_of_beq same).symm)
        rw [if_pos same, if_pos same, ih hm.2 ((List.mem_cons.mp hs).resolve_left other)]
      · rw [if_neg same, if_neg same]
        rfl

/-! ## The reader of links in front of a colon -/

/-- What a reader makes of the text `x` that follows a colon and blanks. -/
inductive Foreseen (read : List Char → Option (LinkText × List Char)) : Prop where
  /-- There is no link. -/
  | nothing (same : ∀ x, Unclosed x → read x = none)
  /-- There is a link in front of the colon, and the colon is left. -/
  | within (link : LinkText) {left : List Char} (ended : ColonEnded left)
      (same : ∀ x, Unclosed x → read x = some (link, left ++ x))
  /-- There is a link whose label ends with the line of `x`. -/
  | labelled (link : LinkText) {line : List Char} (feed : '\n' ∉ line)
      (same : ∀ x, Unclosed x → read x =
        some ({ link with label := some ((dropBlanks (line ++ x)).takeWhile isInLine) },
          (dropBlanks (line ++ x)).dropWhile isInLine))

namespace Foreseen

variable {read other : List Char → Option (LinkText × List Char)}

/-- Readers that agree behind the colon make the same of what follows. -/
theorem congr (h : Foreseen read) (same : ∀ x, Unclosed x → other x = read x) :
    Foreseen other := by
  cases h with
  | nothing none => exact .nothing fun x hx => (same x hx).trans (none x hx)
  | within link ended found => exact .within link ended fun x hx => (same x hx).trans (found x hx)
  | labelled link feed found =>
    exact .labelled link feed fun x hx => (same x hx).trans (found x hx)

/-- The first of several readers that finds something is the same whatever follows. -/
theorem findSome? {α : Type} {f : α → List Char → Option (LinkText × List Char)} {l : List α}
    (h : ∀ a ∈ l, Foreseen (f a)) : Foreseen fun x => l.findSome? fun a => f a x := by
  induction l with
  | nil => exact .nothing fun _ _ => rfl
  | cons a l ih =>
    obtain ⟨first, later⟩ := List.forall_mem_cons.mp h
    cases first with
    | nothing none =>
      exact (ih later).congr fun x hx => by rw [List.findSome?_cons, none x hx]
    | within link ended found =>
      exact .within link ended fun x hx => by rw [List.findSome?_cons, found x hx]
    | labelled link feed found =>
      exact .labelled link feed fun x hx => by rw [List.findSome?_cons, found x hx]

end Foreseen

/-- A label that ends in front of a line feed lies in front of the colon that comes after it. -/
theorem label_colonEnded {rest : List Char} (h : ColonEnded (':' :: rest)) (feed : '\n' ∈ rest) :
    ColonEnded ((dropBlanks rest).dropWhile isInLine) ∧
      ∀ x, (dropBlanks (rest ++ x)).takeWhile isInLine = (dropBlanks rest).takeWhile isInLine ∧
        (dropBlanks (rest ++ x)).dropWhile isInLine =
          (dropBlanks rest).dropWhile isInLine ++ x := by
  have stop : isInLine '\n' = false := by decide
  obtain ⟨line, more, rfl, -⟩ := List.eq_append_cons_of_mem feed
  have behind : ColonEnded more :=
    @ColonEnded.behind more (':' :: line) '\n' h (by decide) (by decide)
  constructor
  · rw [dropBlanks_line, dropWhile_append_stop stop, List.append_cons]
    exact behind.append_left _
  · intro x
    rw [List.append_assoc, List.cons_append, dropBlanks_line, dropBlanks_line,
      takeWhile_append_stop stop, takeWhile_append_stop stop, dropWhile_append_stop stop,
      dropWhile_append_stop stop, List.append_assoc, List.cons_append]
    exact ⟨rfl, rfl⟩

/-- A link whose label a colon starts: the label ends on its line, or the line goes on behind the
last colon. -/
theorem foreseen_label {rest : List Char} (h : ColonEnded (':' :: rest)) (link : LinkText) :
    Foreseen fun x => some
      ({ link with label := some ((dropBlanks (rest ++ x)).takeWhile isInLine) },
        (dropBlanks (rest ++ x)).dropWhile isInLine) := by
  by_cases feed : '\n' ∈ rest
  · obtain ⟨behind, same⟩ := label_colonEnded h feed
    refine .within { link with label := some ((dropBlanks rest).takeWhile isInLine) } behind
      fun x _ => ?_
    rw [(same x).1, (same x).2]
  · exact .labelled link feed fun _ _ => rfl

/-- What follows a marker is settled in front of the colon. -/
theorem foreseen_readTarget? {p : List Char} (hp : ColonEnded p) (source : List Char)
    (marker : String) :
    Foreseen fun x => (readTarget? (p ++ x)).map fun (target, label, after) =>
      (⟨source, marker, target, label⟩, after) := by
  obtain ⟨hb, blanks⟩ := dropBlanks_colonEnded hp
  obtain ⟨hq, quoted⟩ := skipCardinality_colonEnded hb
  obtain ⟨ended, word⟩ := readWord?_colonEnded hq
  cases found : readWord? (skipCardinality (dropBlanks p)) with
  | none =>
    refine .nothing fun x hx => ?_
    simp only [readTarget?, blanks, quoted x hx, word, found, Option.map_none]
  | some result =>
    obtain ⟨target, after⟩ := result
    have ha : ColonEnded after := ended target after found
    obtain ⟨hd, pass⟩ := dropBlanks_colonEnded ha
    have read : ∀ x, Unclosed x →
        readWord? (skipCardinality (dropBlanks (p ++ x))) = some (target, after ++ x) := by
      intro x hx
      rw [blanks, quoted x hx, word, found]
      rfl
    obtain ⟨c, rest, first⟩ := List.exists_cons_of_ne_nil hd.ne_nil
    by_cases colon : c = ':'
    · subst colon
      refine (foreseen_label (first ▸ hd) ⟨source, marker, target, none⟩).congr fun x hx => ?_
      rw [readTarget?_labelled (read x hx) (by rw [pass, first, List.cons_append])]
      rfl
    · refine .within ⟨source, marker, target, none⟩ ha fun x hx => ?_
      rw [readTarget?_plain (read x hx) (by rw [pass, first]; simpa using colon)]
      rfl

/-- A link with a given marker is settled in front of the colon. -/
theorem foreseen_readMarked? {p : List Char} (hp : ColonEnded p) (source : List Char)
    {marker : String} (hm : marker ∈ Link.markers) :
    Foreseen fun x => readMarked? source (p ++ x) marker := by
  have colon : ':' ∉ marker.toList := by
    have all : ∀ m ∈ Link.markers, ':' ∉ m.toList := by decide
    exact all marker hm
  have start := isPrefixOf?_append_of_mem colon hp.colon_mem
  cases found : marker.toList.isPrefixOf? p with
  | none =>
    refine .nothing fun x _ => ?_
    simp only [readMarked?, start, found, Option.map_none]
  | some rest =>
    have ended : ColonEnded rest := by
      rw [← List.append_eq_of_isPrefixOf?_eq_some found] at hp
      exact hp.of_append colon
    refine (foreseen_readTarget? ended source marker).congr fun x _ => ?_
    simp only [readMarked?, start, found, Option.map_some]

/-- A link is settled in front of the colon. -/
theorem foreseen_readLink? {p : List Char} (hp : ColonEnded p) :
    Foreseen fun x => readLink? (p ++ x) := by
  obtain ⟨ended, word⟩ := readWord?_colonEnded hp
  cases found : readWord? p with
  | none =>
    refine .nothing fun x _ => ?_
    simp only [readLink?, word, found, Option.map_none]
  | some result =>
    obtain ⟨source, after⟩ := result
    obtain ⟨hb, blanks⟩ := dropBlanks_colonEnded (ended source after found)
    obtain ⟨hq, quoted⟩ := skipCardinality_colonEnded hb
    refine (Foreseen.findSome? fun marker hm => foreseen_readMarked? hq source hm).congr
      fun x hx => ?_
    simp only [readLink?, word, found, Option.map_some, blanks, quoted x hx]

/-! ## Exchanging a label -/

/-- A text in which a label stands between what is in front of it and what comes after it. -/
structure IsLabelAt (front label after : List Char) : Prop where
  /-- In front of the label stand a colon and blanks. -/
  ended : ColonEnded front
  /-- The label is on one line. -/
  feed : '\n' ∉ label
  /-- The label reaches to the end of the line. -/
  line : after.head?.all (· == '\n') = true

/-- A label without quotes closes none. -/
theorem unclosed_label {label after : List Char} (feed : '\n' ∉ label) (quote : '"' ∉ label)
    (line : after.head?.all (· == '\n') = true) : Unclosed (label ++ after) := by
  have quotable : ∀ c ∈ label, isQuotable c = true := by
    intro c hc
    have other : c ≠ '"' := fun e => quote (e ▸ hc)
    have inner : c ≠ '\n' := fun e => feed (e ▸ hc)
    simp [isQuotable, other, inner]
  have run : (label ++ after).dropWhile isQuotable = after :=
    dropWhile_append_of_head quotable (any_head?_after line (by decide))
  rw [Unclosed, run]
  exact any_head?_after line (by decide)

/-- A label reaches from behind its blanks to the end of the line. -/
theorem readLabel {text after : List Char} (feed : '\n' ∉ text)
    (line : after.head?.all (· == '\n') = true) :
    (dropBlanks (text ++ after)).takeWhile isInLine = dropBlanks text ∧
      (dropBlanks (text ++ after)).dropWhile isInLine = after := by
  have split : dropBlanks (text ++ after) = dropBlanks text ++ after := by
    cases after with
    | nil => rw [List.append_nil, List.append_nil]
    | cons c rest =>
      obtain rfl : c = '\n' := by simpa using line
      exact dropBlanks_line text rest
  have inLine : ∀ c ∈ dropBlanks text, isInLine c = true := by
    intro c hc
    have other : c ≠ '\n' := fun e =>
      feed (e ▸ (List.dropWhile_suffix isBlank).subset hc)
    simpa [isInLine] using other
  have stop : after.head?.any isInLine = false := any_head?_after line (by decide)
  rw [split]
  exact ⟨takeWhile_append_of_head inLine stop, dropWhile_append_of_head inLine stop⟩

/-- If nothing but a given end is left when blanks are dropped, then they stood in front of it. -/
theorem isBlank_of_dropBlanks_append {front label : List Char}
    (h : dropBlanks (front ++ label) = label) : ∀ c ∈ front, isBlank c = true := by
  intro c hc
  by_contra dark
  obtain ⟨left, member⟩ := dropWhile_append_of_mem (Bool.not_eq_true _ ▸ dark) hc label
  rw [dropBlanks, left] at h
  have none : front.dropWhile isBlank = [] :=
    List.append_cancel_right (h.trans (List.nil_append label).symm)
  rw [none] at member
  cases member

/-- Behind blanks the same is left when blanks are dropped. -/
theorem dropBlanks_blanks_append {blanks : List Char} (hb : ∀ c ∈ blanks, isBlank c = true)
    (text : List Char) : dropBlanks (blanks ++ text) = dropBlanks text := by
  rw [dropBlanks, List.dropWhile_append, dropWhile_eq_nil hb]
  rfl

/-- A link with another text in the place of its label. -/
def LinkText.relabel (t : LinkText) (text : List Char) : LinkText :=
  { t with label := some (dropBlanks text) }

/-- The label of such a link is that text, trimmed. -/
theorem LinkText.link_relabel (t : LinkText) (text : List Char) :
    (t.relabel text).link = { t.link with label := String.ofList (trim text) } := by
  simp only [LinkText.link, relabel, Option.getD_some, trim_dropBlanks]

section exchange

variable {front label after new : List Char}

/-- Where there is no link, there is none with another label further on. -/
theorem readLink?_exchange_none (place : IsLabelAt front label after) (quote : '"' ∉ label)
    (hn : '\n' ∉ new) (hq : '"' ∉ new) (h : readLink? (front ++ (label ++ after)) = none) :
    readLink? (front ++ (new ++ after)) = none := by
  have old := unclosed_label place.feed quote place.line
  cases foreseen_readLink? place.ended with
  | nothing none => exact none _ (unclosed_label hn hq place.line)
  | within link ended same => exact absurd ((same _ old).symm.trans h) (by simp)
  | labelled link feed same => exact absurd ((same _ old).symm.trans h) (by simp)

/-- A link in front of a label is the same with another label. -/
theorem readLink?_exchange_within {used : List Char} {link : LinkText}
    (place : IsLabelAt front label after) (quote : '"' ∉ label) (hn : '\n' ∉ new)
    (hq : '"' ∉ new)
    (h : readLink? (used ++ (front ++ (label ++ after))) = some (link, front ++ (label ++ after))) :
    readLink? (used ++ (front ++ (new ++ after))) = some (link, front ++ (new ++ after)) := by
  have old := unclosed_label place.feed quote place.line
  have fresh := unclosed_label hn hq place.line
  rw [← List.append_assoc] at h ⊢
  cases foreseen_readLink? (place.ended.append_left used) with
  | nothing none => exact absurd ((none _ old).symm.trans h) (by simp)
  | within other ended same =>
    obtain ⟨rfl, left⟩ := Prod.mk.inj (Option.some.inj ((same _ old).symm.trans h))
    rw [same _ fresh, List.append_cancel_right left]
  | @labelled other line feed same =>
    -- A label that starts in front of this place leaves no more than what comes after it.
    obtain ⟨-, left⟩ := Prod.mk.inj (Option.some.inj ((same _ old).symm.trans h))
    have oneLine : '\n' ∉ line ++ label := by simp [feed, place.feed]
    rw [← List.append_assoc, (readLabel oneLine place.line).2] at left
    have more := List.length_pos_of_ne_nil place.ended.ne_nil
    have count := congrArg List.length left
    simp only [List.length_append] at count
    omega

/-- A link with a label is the same with another label, but for the label. -/
theorem readLink?_exchange_label {link : LinkText} (place : IsLabelAt front label after)
    (quote : '"' ∉ label) (hn : '\n' ∉ new) (hq : '"' ∉ new)
    (h : readLink? (front ++ (label ++ after)) = some (link, after))
    (hl : link.label = some label) :
    readLink? (front ++ (new ++ after)) =
      some (link.relabel new, after) := by
  have old := unclosed_label place.feed quote place.line
  have fresh := unclosed_label hn hq place.line
  cases foreseen_readLink? place.ended with
  | nothing none => exact absurd ((none _ old).symm.trans h) (by simp)
  | @within other left ended same =>
    obtain ⟨-, shape⟩ := Prod.mk.inj (Option.some.inj ((same _ old).symm.trans h))
    have more := List.length_pos_of_ne_nil ended.ne_nil
    have count := congrArg List.length shape
    simp only [List.length_append] at count
    omega
  | @labelled other line feed same =>
    obtain ⟨found, -⟩ := Prod.mk.inj (Option.some.inj ((same _ old).symm.trans h))
    have oneLine : '\n' ∉ line ++ label := by simp [feed, place.feed]
    have oneLine' : '\n' ∉ line ++ new := by simp [feed, hn]
    have whole : dropBlanks (line ++ label) = label := by
      rw [← found, ← List.append_assoc, (readLabel oneLine place.line).1] at hl
      exact Option.some.inj hl
    have blanks := isBlank_of_dropBlanks_append whole
    rw [same _ fresh, ← List.append_assoc, (readLabel oneLine' place.line).1,
      (readLabel oneLine' place.line).2, dropBlanks_blanks_append blanks, LinkText.relabel, ← found]

end exchange

end DiagramDiff.Mermaid
