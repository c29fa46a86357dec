import DiagramDiff.Comparison
import Mathlib.Data.List.Basic

/-!
# What is selected from a list

A comparison picks parts of lists: the first element of a kind, all elements with a property, each
kind once. Here these parts are described without a way to compute them, so that what a comparison
reports can be stated independently of the loops that collect it.

`ListsFirsts` is the delicate one. A list without repetitions is described by its elements and by
their order, the order in which they first occur in the source, and there is only one such list
(`ListsFirsts.unique`). Being a sublist of the source would not determine the order: `[b, a]` is a
sublist of `[a, b, a]`.
-/

namespace DiagramDiff

variable {α : Type}

/-! ## The first of a kind -/

/-- `a` is the first element of the list for which `P` holds. -/
def IsFirst (P : α → Prop) (l : List α) (a : α) : Prop :=
  ∃ before after, l = before ++ a :: after ∧ P a ∧ ∀ b ∈ before, ¬ P b

/-- Searching finds the first. -/
theorem find?_eq_some_iff_isFirst {p : α → Bool} {l : List α} {a : α} :
    l.find? p = some a ↔ IsFirst (fun b => p b = true) l a := by
  rw [List.find?_eq_some_iff_append]
  constructor
  · rintro ⟨ha, before, after, parts, others⟩
    refine ⟨before, after, parts, ha, fun b hb => ?_⟩
    simpa using others b hb
  · rintro ⟨before, after, parts, ha, others⟩
    refine ⟨ha, before, after, parts, fun b hb => ?_⟩
    simpa using others b hb

/-- The first element of a list is the first of its kind, unless it is of another kind. -/
theorem isFirst_cons {P : α → Prop} {a b : α} {l : List α} :
    IsFirst P (b :: l) a ↔ (P b ∧ b = a) ∨ (¬ P b ∧ IsFirst P l a) := by
  constructor
  · rintro ⟨before, after, parts, ha, others⟩
    cases before with
    | nil =>
      obtain ⟨rfl, rfl⟩ := List.cons.inj parts
      exact .inl ⟨ha, rfl⟩
    | cons c before =>
      obtain ⟨rfl, rfl⟩ := List.cons.inj parts
      refine .inr ⟨others b List.mem_cons_self, before, after, rfl, ha, fun d hd => ?_⟩
      exact others d (List.mem_cons_of_mem b hd)
  · rintro (⟨hb, rfl⟩ | ⟨hb, before, after, rfl, ha, others⟩)
    · exact ⟨[], l, rfl, hb, fun _ h => absurd h List.not_mem_nil⟩
    · refine ⟨b :: before, after, rfl, ha, fun d hd => ?_⟩
      rcases List.mem_cons.mp hd with rfl | hd
      · exact hb
      · exact others d hd

/-- An empty list has no first element. -/
theorem not_isFirst_nil {P : α → Prop} {a : α} : ¬ IsFirst P [] a := by
  rintro ⟨before, after, parts, -⟩
  simp at parts

/-- The first of a kind is an element and of that kind. -/
theorem IsFirst.mem {P : α → Prop} {l : List α} {a : α} (h : IsFirst P l a) : a ∈ l ∧ P a := by
  obtain ⟨before, after, rfl, ha, -⟩ := h
  exact ⟨List.mem_append_right before List.mem_cons_self, ha⟩

/-- There is only one first of a kind. -/
theorem IsFirst.unique {P : α → Prop} {l : List α} {a b : α} (ha : IsFirst P l a)
    (hb : IsFirst P l b) : a = b := by
  induction l with
  | nil => exact absurd ha not_isFirst_nil
  | cons c l ih =>
    rcases isFirst_cons.mp ha with ⟨-, rfl⟩ | ⟨other, ha⟩
    · rcases isFirst_cons.mp hb with ⟨-, rfl⟩ | ⟨other, -⟩
      · rfl
      · exact absurd ha.mem.2 other
    · rcases isFirst_cons.mp hb with ⟨here, -⟩ | ⟨-, hb⟩
      · exact absurd here other
      · exact ih ha hb

/-! ## All with a property -/

/-- `part` holds the elements of `whole` for which `P` holds, as often and in the order in which
they stand there. -/
inductive Selects (P : α → Prop) : List α → List α → Prop where
  /-- Nothing is selected from nothing. -/
  | nil : Selects P [] []
  /-- An element with the property is selected. -/
  | keep {a : α} {whole part : List α} (h : P a) (rest : Selects P whole part) :
      Selects P (a :: whole) (a :: part)
  /-- An element without it is passed over. -/
  | skip {a : α} {whole part : List α} (h : ¬ P a) (rest : Selects P whole part) :
      Selects P (a :: whole) part

/-- Filtering selects, and nothing else does. -/
theorem selects_iff {P : α → Prop} {p : α → Bool} (hp : ∀ a, p a = true ↔ P a)
    {whole part : List α} : Selects P whole part ↔ part = whole.filter p := by
  constructor
  · intro h
    induction h with
    | nil => rfl
    | keep ha _ ih => rw [List.filter_cons_of_pos ((hp _).mpr ha), ih]
    | skip ha _ ih => rw [List.filter_cons_of_neg (fun h => ha ((hp _).mp h)), ih]
  · rintro rfl
    induction whole with
    | nil => exact .nil
    | cons a whole ih =>
      by_cases ha : p a = true
      · rw [List.filter_cons_of_pos ha]
        exact .keep ((hp a).mp ha) ih
      · rw [List.filter_cons_of_neg ha]
        exact .skip (fun h => ha ((hp a).mpr h)) ih

/-! ## Each kind once -/

/-- An element like `a` occurs in the list before any element like `b` does. -/
def Precedes (same : α → α → Prop) (l : List α) (a b : α) : Prop :=
  ∃ before after, l = before ++ after ∧ (∃ c ∈ before, same a c) ∧ ∀ c ∈ before, ¬ same b c

/-- `listed` holds of each wanted kind of elements of `source` the first one, in the order in which
they occur there. -/
structure ListsFirsts (same : α → α → Prop) (wanted : α → Prop) (source listed : List α) :
    Prop where
  /-- Listed are the wanted elements that are the first of their kind. -/
  mem : ∀ a, a ∈ listed ↔ wanted a ∧ IsFirst (same a) source a
  /-- They stand in the order of their first occurrence. -/
  ordered : listed.Pairwise (Precedes same source)

/-- Of two elements at most one precedes the other. -/
theorem Precedes.asymm {same : α → α → Prop} {l : List α} {a b : α} (h : Precedes same l a b) :
    ¬ Precedes same l b a := by
  rintro ⟨short, rest, parts, ⟨d, hd, other⟩, none⟩
  obtain ⟨before, after, rfl, ⟨c, hc, like⟩, nothing⟩ := h
  rcases List.append_eq_append_iff.mp parts with ⟨more, rfl, -⟩ | ⟨more, rfl, -⟩
  · exact none c (List.mem_append_left more hc) like
  · exact nothing d (List.mem_append_left more hd) other

/-- Elements each of which precedes the later ones are distinct. -/
theorem nodup_of_precedes {same : α → α → Prop} {source l : List α}
    (h : l.Pairwise (Precedes same source)) : l.Nodup := by
  refine h.imp ?_
  rintro a b before rfl
  exact before.asymm before

/-- There is only one list of firsts. -/
theorem ListsFirsts.unique {same : α → α → Prop} {wanted : α → Prop} {source listed other : List α}
    (h : ListsFirsts same wanted source listed) (h' : ListsFirsts same wanted source other) :
    listed = other := by
  have elements : listed.Perm other := by
    rw [List.perm_ext_iff_of_nodup (nodup_of_precedes h.ordered) (nodup_of_precedes h'.ordered)]
    intro a
    rw [h.mem, h'.mem]
  refine List.Perm.eq_of_pairwise ?_ h.ordered h'.ordered elements
  intro a b _ _ before after
  exact absurd after before.asymm

/-! ### The first occurrences of a list -/

/-- First occurrences are elements. -/
theorem mem_of_mem_firstOccurrences {same : α → α → Bool} {a : α} {l : List α}
    (h : a ∈ firstOccurrences same l) : a ∈ l := by
  induction l with
  | nil => cases h
  | cons b l ih =>
    rcases List.mem_cons.mp h with rfl | later
    · exact List.mem_cons_self
    · exact List.mem_cons_of_mem b (ih (List.mem_filter.mp later).1)

/-- First occurrences are taken before or after a choice that does not tell elements of a kind
apart. -/
theorem firstOccurrences_filter {same : α → α → Bool} {p : α → Bool}
    (kind : ∀ a b, same a b = true → p b = p a) (l : List α) :
    firstOccurrences same (l.filter p) = (firstOccurrences same l).filter p := by
  induction l with
  | nil => rfl
  | cons a l ih =>
    by_cases ha : p a = true
    · rw [List.filter_cons_of_pos ha, firstOccurrences, firstOccurrences,
        List.filter_cons_of_pos ha, ih, List.filter_comm]
    · rw [List.filter_cons_of_neg ha, firstOccurrences, List.filter_cons_of_neg ha, ih,
        List.filter_filter]
      refine List.filter_congr fun b _ => ?_
      cases hb : p b with
      | false => rfl
      | true =>
        have other : same a b = false := by
          rw [← Bool.not_eq_true]
          intro h
          exact ha ((kind a b h).symm.trans hb)
        rw [other]
        rfl

/-- First occurrences of images are images of first occurrences. -/
theorem firstOccurrences_map {β : Type} (f : α → β) (same : β → β → Bool) (l : List α) :
    firstOccurrences same (l.map f) =
      (firstOccurrences (fun a b => same (f a) (f b)) l).map f := by
  induction l with
  | nil => rfl
  | cons a l ih =>
    rw [List.map_cons, firstOccurrences, firstOccurrences, List.map_cons, ih, List.filter_map]
    rfl

section firsts

variable {alike : α → α → Prop} {same : α → α → Bool} (kinds : Equivalence alike)
  (ha : ∀ a b, same a b = true ↔ alike a b)

include kinds ha

/-- The first occurrences are the elements that are the first of their kind. -/
theorem mem_firstOccurrences_iff {a : α} {l : List α} :
    a ∈ firstOccurrences same l ↔ IsFirst (alike a) l a := by
  induction l with
  | nil => simp [firstOccurrences, not_isFirst_nil]
  | cons b l ih =>
    have swap : same b a = true ↔ alike a b := by
      rw [ha]
      exact ⟨kinds.symm, kinds.symm⟩
    rw [firstOccurrences, List.mem_cons, List.mem_filter, ih, isFirst_cons, Bool.not_eq_true',
      ← Bool.not_eq_true, swap]
    constructor
    · rintro (rfl | ⟨first, other⟩)
      · exact .inl ⟨kinds.refl a, rfl⟩
      · exact .inr ⟨other, first⟩
    · rintro (⟨-, rfl⟩ | ⟨other, first⟩)
      · exact .inl rfl
      · exact .inr ⟨first, other⟩

/-- The first occurrences stand in their order. -/
theorem pairwise_firstOccurrences (l : List α) :
    (firstOccurrences same l).Pairwise (Precedes alike l) := by
  induction l with
  | nil => exact List.Pairwise.nil
  | cons b l ih =>
    -- What is left after `b` is of another kind.
    have other : ∀ c, (!same b c) = true → ¬ alike c b := by
      intro c left h
      rw [(ha b c).mpr (kinds.symm h)] at left
      cases left
    rw [firstOccurrences, List.pairwise_cons]
    constructor
    · intro c hc
      refine ⟨[b], l, rfl, ⟨b, List.mem_singleton_self b, kinds.refl b⟩, ?_⟩
      intro d hd
      rw [List.mem_singleton.mp hd]
      exact other c (List.mem_filter.mp hc).2
    · rw [List.pairwise_filter]
      refine ih.imp fun precedes _ left => ?_
      obtain ⟨before, after, rfl, ⟨c, hc, like⟩, none⟩ := precedes
      refine ⟨b :: before, after, rfl, ⟨c, List.mem_cons_of_mem b hc, like⟩, ?_⟩
      intro d hd
      rcases List.mem_cons.mp hd with rfl | hd
      · exact other _ left
      · exact none d hd

/-- The first occurrences among the wanted elements are the one list of firsts. -/
theorem listsFirsts_iff {wanted : α → Prop} {p : α → Bool} (hp : ∀ a, p a = true ↔ wanted a)
    (agree : ∀ a b, alike a b → (wanted a ↔ wanted b)) {source listed : List α} :
    ListsFirsts alike wanted source listed ↔
      listed = firstOccurrences same (source.filter p) := by
  have kind : ∀ a b, same a b = true → p b = p a := by
    intro a b h
    rw [Bool.eq_iff_iff, hp, hp]
    exact (agree a b ((ha a b).mp h)).symm
  have firsts : ListsFirsts alike wanted source ((firstOccurrences same source).filter p) := by
    constructor
    · intro a
      rw [List.mem_filter, mem_firstOccurrences_iff kinds ha, hp, and_comm]
    · exact (pairwise_firstOccurrences kinds ha source).filter p
  rw [firstOccurrences_filter kind]
  constructor
  · intro h
    exact h.unique firsts
  · rintro rfl
    exact firsts

end firsts

end DiagramDiff
