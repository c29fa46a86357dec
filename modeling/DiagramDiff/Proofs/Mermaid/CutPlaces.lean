import DiagramDiff.Proofs.Mermaid.Entries

/-!
# Where a body is cut

A body is cut by one walk that carries two counters along. Here the same is said by positions and
without a walk: how much is open in front of a position (`openBefore`), whether the body is cut
there (`isCutAt`), and what stands between the places where it is cut (`piecesBetween`).

One step of the walk takes the counters from a position to the next one (`nestingAt_succ`), so a
walk from any position on finds the places from there on, whatever was left open before
(`cutFrom_eq_piecesBetween`). Between them nothing of the body is lost and nothing is there twice:
the pieces and the characters that cut them make up the body again (`putBack_piecesBetween`).
-/

namespace DiagramDiff.Mermaid

open Text

/-! ## What is open in front of a position -/

/-- The character in front of a position, if there is one. -/
def inFront (body : List Char) : Nat → Option Char
  | 0 => none
  | i + 1 => body[i]?

/-- How much of what the line has opened in front of a position is open there, if it is known at
which positions something opens and closes. Closing more than is open has no effect, and a line
feed closes everything. -/
def openBefore (body : List Char) (opens closes : Nat → Bool) : Nat → Nat
  | 0 => 0
  | i + 1 =>
    if body[i]? = some '\n' then 0
    else if opens i then openBefore body opens closes i + 1
    else if closes i then openBefore body opens closes i - 1
    else openBefore body opens closes i

/-- The parentheses that are open in front of a position. -/
def openParentheses (body : List Char) : Nat → Nat :=
  openBefore body (fun i => body[i]? == some '(') fun i => body[i]? == some ')'

/-- Whether a tilde at a position opens a list of type arguments: it stands between two name
letters. -/
def opensArguments (body : List Char) (i : Nat) : Bool :=
  body[i]? == some '~' && (inFront body i).any isNameLetter && body[i + 1]?.any isNameLetter

/-- The lists of type arguments that are open in front of a position. A tilde that opens none
closes one. -/
def openArguments (body : List Char) : Nat → Nat :=
  openBefore body (opensArguments body) fun i => body[i]? == some '~'

/-! ## Places and pieces -/

/-- Whether a body is cut at a position: at every line feed, and at a comma or a semicolon where
nothing is open. -/
def isCutAt (body : List Char) (i : Nat) : Bool :=
  body[i]? == some '\n' ||
    ((body[i]? == some ',' || body[i]? == some ';') &&
      openParentheses body i == 0 && openArguments body i == 0)

/-- The positions from a given one on at which a body is cut. -/
def cutPlacesFrom (body : List Char) (start : Nat) : List Nat :=
  (List.range' start (body.length - start)).filter (isCutAt body)

/-- The positions at which a body is cut. -/
def cutPlaces (body : List Char) : List Nat := cutPlacesFrom body 0

/-- The pieces of a body from a position on, between the given places. -/
def piecesBetween (body : List Char) : Nat → List Nat → List (List Char)
  | start, [] => [body.drop start]
  | start, place :: places =>
    body.extract start place :: piecesBetween body (place + 1) places

/-- The characters of a body at the given places. -/
def charsAt (body : List Char) (places : List Nat) : List Char := places.filterMap (body[·]?)

/-- Pieces with the characters that cut them put back between them. -/
def putBack : List (List Char) → List Char → List Char
  | piece :: pieces, c :: separators => piece ++ c :: putBack pieces separators
  | pieces, _ => pieces.flatten

/-- A semicolon cuts; a comma in parentheses does not, nor does one in a list of arguments. -/
example : cutPlaces "f(x, y); m: Map~K, V~\n)a, b".toList = [7, 21, 24] := by decide

/-! ## A step of the walk -/

/-- The counters in front of a position. -/
def nestingAt (body : List Char) (i : Nat) : Nesting :=
  ⟨openParentheses body i, openArguments body i⟩

/-- A neighbour counts only if it is a name letter. -/
theorem besideLetter_eq_any (c : Option Char) : Nesting.besideLetter c = c.any isNameLetter := by
  cases c <;> rfl

/-- A step takes the counters from a position to the next one. -/
theorem nestingAt_succ {body : List Char} {i : Nat} {c : Char} (h : body[i]? = some c) :
    nestingAt body (i + 1) = (nestingAt body i).step (inFront body i) body[i + 1]? c := by
  have opens : opensArguments body i =
      (c == '~' && Nesting.besideLetter (inFront body i) && Nesting.besideLetter body[i + 1]?) := by
    simp [opensArguments, h, besideLetter_eq_any]
  simp only [nestingAt, openParentheses, openArguments, openBefore, opens, h, Nesting.step]
  by_cases opening : c = '('
  · subst opening
    simp
  by_cases closing : c = ')'
  · subst closing
    simp
  by_cases tilde : c = '~'
  · subst tilde
    by_cases letters : (Nesting.besideLetter (inFront body i) &&
        Nesting.besideLetter body[i + 1]?) = true <;> simp [letters]
  by_cases feed : c = '\n'
  · subst feed
    simp [Nesting.none]
  · simp [opening, closing, tilde, feed]

/-- The walk cuts at a position if the body is cut there. -/
theorem cutsAt_nestingAt {body : List Char} {i : Nat} {c : Char} (h : body[i]? = some c) :
    (nestingAt body i).cutsAt c = isCutAt body i := by
  simp [Nesting.cutsAt, nestingAt, isCutAt, h]

/-! ## The walk from a position on -/

/-- If a body is not cut at a position, the first piece from there on begins with the character
that stands there. -/
theorem piecesBetween_uncut {body : List Char} {start : Nat} {c : Char} {places : List Nat}
    (first : body.drop start = c :: body.drop (start + 1)) (later : ∀ p ∈ places, start < p) :
    piecesBetween body start places =
      (piecesBetween body (start + 1) places).modifyHead (c :: ·) := by
  cases places with
  | nil => simp only [piecesBetween, first, List.modifyHead_cons]
  | cons place places =>
    have after : start < place := later place List.mem_cons_self
    have count : place - start = place - (start + 1) + 1 := by omega
    simp only [piecesBetween, List.modifyHead_cons, List.extract_eq_take_drop, first, count,
      List.take_succ_cons]

/-- A walk from a position on finds the pieces from there on. -/
theorem cutFrom_eq_piecesBetween (body : List Char) (start : Nat) :
    cutFrom (nestingAt body start) (inFront body start) (body.drop start) =
      piecesBetween body start (cutPlacesFrom body start) := by
  unfold cutPlacesFrom
  induction left : body.length - start generalizing start with
  | zero =>
    have nothing : body.drop start = [] := List.drop_eq_nil_of_le (by omega)
    rw [nothing, List.range'_zero, List.filter_nil, piecesBetween, nothing, cutFrom]
  | succ n ih =>
    have inside : start < body.length := by omega
    obtain ⟨c, here⟩ : ∃ c, body[start]? = some c := ⟨_, List.getElem?_eq_getElem inside⟩
    have first : body.drop start = c :: body.drop (start + 1) := by
      rw [List.drop_eq_getElem_cons inside, ← Option.some.inj (here.symm.trans
        (List.getElem?_eq_getElem inside))]
    have next : (body.drop (start + 1)).head? = body[start + 1]? := List.head?_drop
    have walk := ih (start + 1) (by omega)
    rw [nestingAt_succ here, inFront, here] at walk
    rw [first, cutFrom, next, walk, cutsAt_nestingAt here, List.range'_succ]
    by_cases cut : isCutAt body start = true
    · rw [if_pos cut, List.filter_cons_of_pos cut, piecesBetween]
      simp
    · rw [if_neg cut, List.filter_cons_of_neg cut, piecesBetween_uncut first]
      intro p hp
      have := List.mem_range'_1.mp (List.mem_of_mem_filter hp)
      omega

/-- The pieces of a body are those between the places where it is cut. -/
theorem cut_eq_piecesBetween (body : List Char) :
    cut body = piecesBetween body 0 (cutPlaces body) :=
  cutFrom_eq_piecesBetween body 0

/-! ## Nothing is lost -/

/-- There is one piece more than there are places. -/
theorem length_piecesBetween (body : List Char) (start : Nat) (places : List Nat) :
    (piecesBetween body start places).length = places.length + 1 := by
  induction places generalizing start with
  | nil => rfl
  | cons place places ih => rw [piecesBetween, List.length_cons, ih, List.length_cons]

/-- At every place of a body there is a character. -/
theorem length_charsAt {body : List Char} {places : List Nat}
    (inside : ∀ p ∈ places, p < body.length) : (charsAt body places).length = places.length := by
  induction places with
  | nil => rfl
  | cons place places ih =>
    obtain ⟨here, later⟩ := List.forall_mem_cons.mp inside
    have first : body[place]? = some body[place] := List.getElem?_eq_getElem here
    rw [charsAt, List.filterMap_cons_some first, List.length_cons, List.length_cons, ← ih later]
    rfl

/-- The pieces between ascending places, with the characters at the places put back, make up the
body from the first piece on. -/
theorem putBack_piecesBetween {body : List Char} {start : Nat} {places : List Nat}
    (ascending : places.Pairwise (· < ·)) (inside : ∀ p ∈ places, start ≤ p ∧ p < body.length) :
    putBack (piecesBetween body start places) (charsAt body places) = body.drop start := by
  induction places generalizing start with
  | nil => exact List.append_nil _
  | cons place places ih =>
    obtain ⟨first, later⟩ := List.pairwise_cons.mp ascending
    obtain ⟨here, others⟩ := List.forall_mem_cons.mp inside
    have rest : putBack (piecesBetween body (place + 1) places) (charsAt body places) =
        body.drop (place + 1) := ih later fun p hp => ⟨first p hp, (others p hp).2⟩
    have single : body[place]? = some body[place] := List.getElem?_eq_getElem here.2
    have parts : (body.drop start).drop (place - start) = body.drop place := by
      rw [List.drop_drop]
      congr 1
      omega
    calc putBack (piecesBetween body start (place :: places)) (charsAt body (place :: places))
        = body.extract start place ++ body[place] ::
            putBack (piecesBetween body (place + 1) places) (charsAt body places) := by
          rw [piecesBetween, charsAt, List.filterMap_cons_some single, putBack]
          rfl
      _ = body.extract start place ++ body.drop place := by
          rw [rest, ← List.drop_eq_getElem_cons here.2]
      _ = body.drop start := by
          rw [List.extract_eq_take_drop, ← parts, List.take_append_drop]

/-- Places ascend. -/
theorem pairwise_cutPlaces (body : List Char) : (cutPlaces body).Pairwise (· < ·) :=
  (List.pairwise_lt_range').filter _

/-- Places lie in the body. -/
theorem lt_length_of_mem_cutPlaces {body : List Char} {p : Nat} (h : p ∈ cutPlaces body) :
    p < body.length := by
  have := List.mem_range'_1.mp (List.mem_of_mem_filter h)
  omega

/-! ## Entries -/

/-- A trimmed text is a comment if it begins with two percent signs. -/
theorem isComment_of_isTrimmed {text : List Char} (h : IsTrimmed text) :
    isComment text = ['%', '%'].isPrefixOf text := by
  rw [isComment, trimStart, dropWhile_eq_self h.head]

/-- The entries of a body are the trimmed pieces between the places where it is cut, in their order,
without the blank ones and those that begin with two percent signs. The pieces and the characters
that cut them make up the body, no entry reaches over a line feed, and the entries of two bodies
with a line feed between them are those of the one and then those of the other. -/
theorem entries_between_cuts (body : List Char) :
    entries body =
        ((piecesBetween body 0 (cutPlaces body)).map trim).filter
          (fun entry => !entry.isEmpty && !(['%', '%'].isPrefixOf entry)) ∧
      (piecesBetween body 0 (cutPlaces body)).length =
        (charsAt body (cutPlaces body)).length + 1 ∧
      putBack (piecesBetween body 0 (cutPlaces body)) (charsAt body (cutPlaces body)) = body ∧
      (∀ entry ∈ entries body, '\n' ∉ entry) ∧
      ∀ rest : List Char, entries (body ++ '\n' :: rest) = entries body ++ entries rest := by
  have inside : ∀ p ∈ cutPlaces body, p < body.length := fun _ => lt_length_of_mem_cutPlaces
  refine ⟨?_, ?_, ?_, fun _ => newline_not_mem_entries, entries_line body⟩
  · rw [entries, cut_eq_piecesBetween]
    refine List.filter_congr fun entry member => ?_
    obtain ⟨piece, -, rfl⟩ := List.mem_map.mp member
    rw [isComment_of_isTrimmed (isTrimmed_trim piece)]
  · rw [length_piecesBetween, length_charsAt inside]
  · exact putBack_piecesBetween (pairwise_cutPlaces body) fun p hp => ⟨Nat.zero_le p, inside p hp⟩

end DiagramDiff.Mermaid
