import DiagramDiff.Attribution
import DiagramDiff.Proofs.Attribution.MemberPlaces

/-!
# Which lines open a body

Scopes are opened by lines that look like the header of a class. A line that begins with a header
and its brace opens the body of the class, whatever the header has in the way of type arguments
(`openedClass?_of_isHeader`). A line that begins with anything but the keyword opens none
(`openedClass?_of_start`).
-/

namespace DiagramDiff

open Text Mermaid

/-- Words and white space reach to the first tilde or brace. -/
theorem takeWhile_takeWhile_run {run : List Char} {stop : Char}
    (h : ∀ c ∈ run, isWhiteSpace c = true ∨ isWord c = true) (hs : stop = '~' ∨ stop = '{')
    (more : List Char) :
    ((run ++ stop :: more).takeWhile (· != '{')).takeWhile (· != '~') = run := by
  have other : ∀ {d : Char}, isWhiteSpace d = false → isWord d = false →
      ∀ c ∈ run, (c != d) = true := by
    intro d dark apart c hc
    rcases h c hc with space | letter
    · exact bne_iff_ne.mpr (beq_eq_false_iff_ne.mp (beq_of_isWhiteSpace dark space))
    · exact bne_iff_ne.mpr (ne_of_isWord letter apart)
  have tilde : ∀ c ∈ run, (c != '~') = true := other (by decide) (by decide)
  have brace : ∀ c ∈ run, (c != '{') = true := other (by decide) (by decide)
  rcases hs with rfl | rfl
  · rw [List.takeWhile_append_of_pos brace]
    exact takeWhile_append_of_head tilde rfl
  · rw [takeWhile_append_of_head brace rfl]
    exact takeWhile_eq_self tilde

/-- Between the keyword and the brace the name of the class is found again. -/
theorem trim_takeWhile_header {name gap arguments : List Char} (className : IsName name)
    (blanks : ∀ c ∈ gap, isBlank c = true) (ends : IsWhite arguments ∨ arguments.head? = some '~')
    (tail : List Char) :
    trim (((gap ++ (name ++ (arguments ++ '{' :: tail))).takeWhile (· != '{')).takeWhile
      (· != '~')) = name := by
  -- Type arguments may hold a brace, but what counts ends with the tilde in front of them.
  obtain ⟨right, stop, more, parts, space, hs⟩ : ∃ right stop more,
      arguments ++ '{' :: tail = right ++ stop :: more ∧ IsWhite right ∧
        (stop = '~' ∨ stop = '{') := by
    rcases ends with space | tilde
    · exact ⟨arguments, '{', tail, rfl, space, .inr rfl⟩
    · cases arguments with
      | nil => cases tilde
      | cons c arguments =>
        obtain rfl := Option.some.inj tilde
        exact ⟨[], '~', arguments ++ '{' :: tail, rfl, .nil, .inl rfl⟩
  have white : IsWhite gap := fun c hc => isWhiteSpace_of_isBlank (blanks c hc)
  have run : ∀ c ∈ gap ++ (name ++ right), isWhiteSpace c = true ∨ isWord c = true := by
    intro c hc
    simp only [List.mem_append] at hc
    rcases hc with hc | hc | hc
    · exact .inl (white c hc)
    · exact .inr (className.2 c hc)
    · exact .inl (space c hc)
  have shape : gap ++ (name ++ (right ++ stop :: more)) =
      (gap ++ (name ++ right)) ++ stop :: more := by simp only [List.append_assoc]
  have head : name.head?.any isWhiteSpace = false := by
    have first := className.any_head?_append (fun _ => isWhiteSpace_of_isWord) []
    rwa [List.append_nil] at first
  have last : name.getLast?.any isWhiteSpace = false :=
    className.any_getLast?_append (fun _ => isWhiteSpace_of_isWord) []
  rw [parts, shape, takeWhile_takeWhile_run run hs]
  exact trimOf_append white space head last

/-- A line opens the body of the class that it names between the keyword and the brace, unless it
closes a body. -/
theorem openedClass?_of_parts {indent rest name : List Char} (hi : IsWhite indent)
    (blank : rest.head?.any isBlank = true) (brace : '{' ∈ rest) (closes : '}' ∉ rest)
    (named : trim ((rest.takeWhile (· != '{')).takeWhile (· != '~')) = name) (solid : name ≠ []) :
    openedClass? (indent ++ ("class".toList ++ rest)) = some name := by
  have start : trimStart (indent ++ ("class".toList ++ rest)) = "class".toList ++ rest :=
    dropWhile_append_of_head hi (by decide : isWhiteSpace 'c' = false)
  have keyword : "class".toList.isPrefixOf? ("class".toList ++ rest) = some rest :=
    List.isPrefixOf?_eq_some_iff_append_eq.mpr rfl
  have filled : name.isEmpty = false := by simpa using solid
  unfold openedClass?
  rw [start, keyword]
  simp only [blank, if_true, named, filled]
  cases opened : rest.dropWhile (· != '{') with
  | nil => simpa using List.dropWhile_eq_nil_iff.mp opened '{' brace
  | cons c body =>
    have behind : c :: body <:+ rest := opened ▸ List.dropWhile_suffix _
    have absent : '}' ∉ body := fun inside =>
      closes (behind.subset (List.mem_cons_of_mem c inside))
    have unclosed : body.contains '}' = false := by simpa using absent
    simp only [unclosed]
    rfl

/-- A line that begins with a header and the brace, and closes no body, opens the body of the
class. -/
theorem openedClass?_of_isHeader {name head indent line : List Char} (h : IsHeader name head)
    (hi : IsWhite indent) (begins : indent ++ (head ++ ['{']) <+: line) (closes : '}' ∉ line) :
    openedClass? line = some name := by
  obtain ⟨tail, rfl⟩ := begins
  cases h with
  | @intro gap arguments className blanks apart ends =>
    have shape : indent ++ ("class".toList ++ (gap ++ (name ++ arguments)) ++ ['{']) ++ tail =
        indent ++ ("class".toList ++ (gap ++ (name ++ (arguments ++ '{' :: tail)))) := by
      simp only [List.append_assoc, List.cons_append, List.nil_append]
    have blank : (gap ++ (name ++ (arguments ++ '{' :: tail))).head?.any isBlank = true := by
      cases gap with
      | nil => exact absurd rfl apart
      | cons c gap => exact blanks c List.mem_cons_self
    rw [shape] at closes ⊢
    refine openedClass?_of_parts hi blank (by simp) (fun inside => closes ?_)
      (trim_takeWhile_header className blanks ends tail) className.1
    exact List.mem_append_right _ (List.mem_append_right _ inside)

/-- A line whose first character beyond white space does not begin the keyword opens no body. -/
theorem openedClass?_of_start {space line : List Char} {c : Char} (hs : IsWhite space)
    (dark : isWhiteSpace c = false) (other : c ≠ 'c') (begins : space ++ [c] <+: line) :
    openedClass? line = none := by
  obtain ⟨rest, rfl⟩ := begins
  have start : trimStart (space ++ [c] ++ rest) = c :: rest := by
    rw [List.append_assoc]
    exact dropWhile_append_of_head hs (by simpa using dark)
  have keyword : "class".toList.isPrefixOf? (c :: rest) = none := by
    show (if 'c' == c then _ else none) = none
    rw [if_neg (by simpa using Ne.symm other)]
  unfold openedClass?
  rw [start, keyword]

end DiagramDiff
