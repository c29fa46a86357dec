import DiagramDiff.Codec.Report
import Mathlib.Data.List.Forall2

/-!
# Documents with unknown keys

A document may come from a program that writes more than this one reads. Its objects then have
further members under keys that are unknown here, at any place among the members and at any depth.
Decoding such a document gives what it gives without them.

Which keys are unknown depends on the object: the keys of a class are unknown in a link, and those
of one kind of difference in another. So there is one relation for objects, `Extended`, which is
told the known keys and how the value under each key may be extended in turn, and every type of
document instantiates it.
-/

namespace DiagramDiff

namespace Json

/-! ## Lookups -/

/-- The last member of a name is looked up among the later members first. -/
theorem lookup?_cons (name : String) (j : Json) (members : List (String × Json)) (key : String) :
    lookup? ((name, j) :: members) key =
      (lookup? members key).or (if name = key then some j else none) := by
  rw [lookup?, List.reverse_cons, List.find?_append, Option.map_or]
  by_cases own : name = key <;> simp [lookup?, own]

/-! ## Extended values -/

/-- Members with further ones under unknown keys among them. The values of the others may be
extended too, each as its key allows. -/
inductive Extended (keys : List String) (related : String → Json → Json → Prop) :
    List (String × Json) → List (String × Json) → Prop where
  /-- Nothing is added. -/
  | nil : Extended keys related [] []
  /-- A member is there as before, its value possibly extended. -/
  | shared {key : String} {j j' : Json} {members members' : List (String × Json)}
    (value : related key j j') (rest : Extended keys related members members') :
    Extended keys related ((key, j) :: members) ((key, j') :: members')
  /-- A member with an unknown key is added. -/
  | added {key : String} {j : Json} {members members' : List (String × Json)}
    (unknown : key ∉ keys) (rest : Extended keys related members members') :
    Extended keys related members ((key, j) :: members')

/-- An object whose members are extended. -/
inductive ObjectExtended (keys : List String) (related : String → Json → Json → Prop) :
    Json → Json → Prop where
  /-- The members are extended. -/
  | object {members members' : List (String × Json)} (h : Extended keys related members members') :
    ObjectExtended keys related (.object members) (.object members')

/-- An array each of whose items is extended. -/
inductive ItemsExtended (related : Json → Json → Prop) : Json → Json → Prop where
  /-- The items are extended. -/
  | array {items items' : List Json} (h : List.Forall₂ related items items') :
    ItemsExtended related (.array items) (.array items')

/-- A list is decoded from an extended array as from the array, if its items are. -/
theorem ItemsExtended.list?_eq {α : Type} {related : Json → Json → Prop} {decode : Json → Option α}
    {j j' : Json} (h : ItemsExtended related j j')
    (same : ∀ j j', related j j' → decode j' = decode j) :
    list? decode j' = list? decode j := by
  obtain ⟨h⟩ := h
  show List.mapM decode _ = List.mapM decode _
  induction h with
  | nil => rfl
  | cons first rest ih => rw [List.mapM_cons, List.mapM_cons, same _ _ first, ih]

namespace Extended

variable {keys : List String} {related : String → Json → Json → Prop}
  {members members' : List (String × Json)} {key : String} {α : Type} {decode : Json → Option α}

/-- Under a known key there is what was there before, possibly extended. -/
theorem lookup?_rel (h : Extended keys related members members') (known : key ∈ keys) :
    Option.Rel (related key) (lookup? members key) (lookup? members' key) := by
  induction h with
  | nil => exact .none
  | @shared name j j' members members' value rest ih =>
    rw [lookup?_cons, lookup?_cons]
    generalize lookup? members key = before, lookup? members' key = after at ih ⊢
    cases ih with
    | some later => exact .some later
    | none =>
      by_cases own : name = key
      · rw [if_pos own, if_pos own]
        exact .some (own ▸ value)
      · rw [if_neg own, if_neg own]
        exact .none
  | @added name j members members' unknown rest ih =>
    have other : name ≠ key := by
      rintro rfl
      exact unknown known
    rw [lookup?_cons, if_neg other, Option.or_none]
    exact ih

/-- Under a known key whose value is not extended there is what was there before. -/
theorem lookup?_plain (h : Extended keys related members members') (known : key ∈ keys)
    (plain : related key = Eq) : lookup? members' key = lookup? members key := by
  have found := h.lookup?_rel known
  rw [plain] at found
  generalize lookup? members key = before, lookup? members' key = after at found ⊢
  cases found with
  | none => rfl
  | some value => rw [value]

/-- A required field whose value is not extended is decoded as before. -/
theorem required_plain (h : Extended keys related members members') (known : key ∈ keys)
    (plain : related key = Eq) (decode : Json → Option α) :
    required members' key decode = required members key decode := by
  rw [required, required, h.lookup?_plain known plain]

/-- A field with a default whose value is not extended is decoded as before. -/
theorem defaulted_plain (h : Extended keys related members members') (known : key ∈ keys)
    (plain : related key = Eq) (default : α) (decode : Json → Option α) :
    defaulted members' key default decode = defaulted members key default decode := by
  rw [defaulted, defaulted, h.lookup?_plain known plain]

/-- A field that may be absent and whose value is not extended is decoded as before. -/
theorem optional_plain (h : Extended keys related members members') (known : key ∈ keys)
    (plain : related key = Eq) (decode : Json → Option α) :
    optional members' key decode = optional members key decode := by
  rw [optional, optional, h.lookup?_plain known plain]

variable {extends' : Json → Json → Prop}

/-- A required list whose items are extended is decoded as before, if the items are. -/
theorem required_items (h : Extended keys related members members') (known : key ∈ keys)
    (nested : related key = ItemsExtended extends')
    (same : ∀ j j', extends' j j' → decode j' = decode j) :
    required members' key (list? decode) = required members key (list? decode) := by
  have found := h.lookup?_rel known
  rw [nested] at found
  unfold required
  generalize lookup? members key = before, lookup? members' key = after at found ⊢
  cases found with
  | none => rfl
  | some value => exact value.list?_eq same

/-- A list with a default whose items are extended is decoded as before, if the items are. -/
theorem defaulted_items (h : Extended keys related members members') (known : key ∈ keys)
    (nested : related key = ItemsExtended extends') (default : List α)
    (same : ∀ j j', extends' j j' → decode j' = decode j) :
    defaulted members' key default (list? decode) =
      defaulted members key default (list? decode) := by
  have found := h.lookup?_rel known
  rw [nested] at found
  unfold defaulted
  generalize lookup? members key = before, lookup? members' key = after at found ⊢
  cases found with
  | none => rfl
  | some value => exact value.list?_eq same

end Extended

end Json

open Json (Extended ObjectExtended ItemsExtended fields? lookup?)

/-! ## Extended diagrams -/

/-- A property with unknown keys added. -/
def Property.Extends : Json → Json → Prop := ObjectExtended ["name", "type"] fun _ => Eq

/-- A link with unknown keys added. -/
def Link.Extends : Json → Json → Prop :=
  ObjectExtended ["from", "to", "type", "label"] fun _ => Eq

/-- A class with unknown keys added to it and its properties. -/
def ClassNode.Extends : Json → Json → Prop :=
  ObjectExtended ["name", "properties", "methods", "annotations"] fun key =>
    if key = "properties" then ItemsExtended Property.Extends else Eq

/-- A diagram with unknown keys added to it, its classes and its links. -/
def Diagram.Extends : Json → Json → Prop :=
  ObjectExtended ["classes", "relationships"] fun key =>
    if key = "classes" then ItemsExtended ClassNode.Extends
    else if key = "relationships" then ItemsExtended Link.Extends
    else Eq

/-- A property is decoded without regard to unknown keys. -/
theorem Property.ofJson?_extends (j j' : Json) (h : Property.Extends j j') : ofJson? j' = ofJson? j := by
  obtain ⟨h⟩ := h
  unfold ofJson?
  simp only [fields?, Option.bind_eq_bind, Option.bind_some]
  rw [h.required_plain (by decide) rfl, h.required_plain (by decide) rfl]

/-- A link is decoded without regard to unknown keys. -/
theorem Link.ofJson?_extends (j j' : Json) (h : Link.Extends j j') : ofJson? j' = ofJson? j := by
  obtain ⟨h⟩ := h
  unfold ofJson?
  simp only [fields?, Option.bind_eq_bind, Option.bind_some]
  rw [h.required_plain (by decide) rfl, h.required_plain (by decide) rfl,
    h.required_plain (by decide) rfl, h.defaulted_plain (by decide) rfl]

/-- A class is decoded without regard to unknown keys. -/
theorem ClassNode.ofJson?_extends (j j' : Json) (h : ClassNode.Extends j j') : ofJson? j' = ofJson? j := by
  obtain ⟨h⟩ := h
  unfold ofJson?
  simp only [fields?, Option.bind_eq_bind, Option.bind_some]
  rw [h.required_items (by decide) rfl Property.ofJson?_extends,
    h.required_plain (by decide) rfl Json.string?,
    h.required_plain (by decide) rfl (Json.list? Json.string?),
    h.defaulted_plain (by decide) rfl]

/-- A diagram is decoded without regard to unknown keys. -/
theorem Diagram.ofJson?_extends (j j' : Json) (h : Diagram.Extends j j') : ofJson? j' = ofJson? j := by
  obtain ⟨h⟩ := h
  unfold ofJson?
  simp only [fields?, Option.bind_eq_bind, Option.bind_some]
  rw [h.required_items (by decide) rfl ClassNode.ofJson?_extends,
    h.required_items (by decide) rfl Link.ofJson?_extends]

/-! ## Extended reports -/

/-- How the values of a difference may be extended: its properties and links with unknown keys. -/
def Finding.valueExtends (key : String) : Json → Json → Prop :=
  if key = "properties" then ItemsExtended Property.Extends
  else if key = "relationships" then ItemsExtended Link.Extends
  else Eq

/-- A difference with keys added that are unknown for its kind, and unknown keys added to what it
lists. -/
inductive Difference.Extends : Json → Json → Prop where
  /-- The members are extended, as the kind allows. -/
  | object {kind : FindingKind} {members members' : List (String × Json)}
    (tagged : lookup? members "type" = some (.string kind.name))
    (h : Extended ("type" :: Finding.keysOf kind) Finding.valueExtends members members') :
    Difference.Extends (.object members) (.object members')

/-- A hint with unknown keys added. -/
def RenameHint.Extends : Json → Json → Prop :=
  ObjectExtended ["missing", "added", "similarity", "message"] fun _ => Eq

/-- A report with unknown keys added to it, its differences and its hints. -/
def Report.Extends : Json → Json → Prop :=
  ObjectExtended ["identical", "differences", "hints"] fun key =>
    if key = "differences" then ItemsExtended Difference.Extends
    else if key = "hints" then ItemsExtended RenameHint.Extends
    else Eq

/-- A marked line with unknown keys added. -/
def MarkedLine.Extends : Json → Json → Prop :=
  ObjectExtended ["line_no", "text", "category", "difference"] fun _ => Eq

/-- A finding is decoded without regard to keys that are unknown for its kind. -/
theorem Finding.ofFields?_extends {kind : FindingKind} {members members' : List (String × Json)}
    (h : Extended ("type" :: keysOf kind) valueExtends members members') :
    ofFields? kind members' = ofFields? kind members := by
  cases kind with
  | error => rfl
  | classesMissing | classesAdded =>
    simp only [ofFields?]
    rw [h.required_plain (by decide) rfl]
  | propertiesMissing =>
    simp only [ofFields?]
    rw [h.required_plain (by decide) rfl Json.string?,
      h.required_items (by decide) rfl Property.ofJson?_extends]
  | methodsMissing =>
    simp only [ofFields?]
    rw [h.required_plain (by decide) rfl Json.string?,
      h.required_plain (by decide) rfl (Json.list? Json.string?)]
  | propertyChanged =>
    simp only [ofFields?]
    rw [h.required_plain (by decide) rfl, h.required_plain (by decide) rfl,
      h.required_plain (by decide) rfl, h.required_plain (by decide) rfl]
  | linksMissing | linksAdded =>
    simp only [ofFields?]
    rw [h.required_items (by decide) rfl Link.ofJson?_extends]

/-- A difference is decoded without regard to unknown keys. -/
theorem Difference.ofJson?_extends (j j' : Json) (h : Difference.Extends j j') :
    ofJson? j' = ofJson? j := by
  obtain @⟨kind, members, members', tagged, h⟩ := h
  have tagged' : lookup? members' "type" = some (.string kind.name) := by
    rw [h.lookup?_plain List.mem_cons_self rfl, tagged]
  have message : "message" ∈ "type" :: Finding.keysOf kind := by cases kind <;> decide
  unfold ofJson?
  simp only [tagged?, tagged, tagged', Option.map_some, Option.bind_eq_bind, Option.bind_some,
    Json.string?, FindingKind.ofName?_name, fields?]
  rw [Finding.ofFields?_extends h, h.required_plain message rfl]

/-- A hint is decoded without regard to unknown keys. -/
theorem RenameHint.ofJson?_extends (j j' : Json) (h : RenameHint.Extends j j') :
    ofJson? j' = ofJson? j := by
  obtain ⟨h⟩ := h
  unfold ofJson?
  simp only [fields?, Option.bind_eq_bind, Option.bind_some]
  rw [h.required_plain (by decide) rfl, h.required_plain (by decide) rfl,
    h.required_plain (by decide) rfl, h.required_plain (by decide) rfl]

/-- A report is decoded without regard to unknown keys. -/
theorem Report.ofJson?_extends (j j' : Json) (h : Report.Extends j j') :
    ofJson? j' = ofJson? j := by
  obtain ⟨h⟩ := h
  unfold ofJson?
  simp only [fields?, Option.bind_eq_bind, Option.bind_some]
  rw [h.required_plain (by decide) rfl,
    h.required_items (by decide) rfl Difference.ofJson?_extends,
    h.defaulted_items (by decide) rfl [] RenameHint.ofJson?_extends]

/-- A marked line is decoded without regard to unknown keys. -/
theorem MarkedLine.ofJson?_extends (j j' : Json) (h : MarkedLine.Extends j j') :
    ofJson? j' = ofJson? j := by
  obtain ⟨h⟩ := h
  unfold ofJson?
  simp only [fields?, Option.bind_eq_bind, Option.bind_some]
  rw [h.required_plain (by decide) rfl, h.required_plain (by decide) rfl,
    h.optional_plain (by decide) rfl, h.optional_plain (by decide) rfl]

end DiagramDiff
