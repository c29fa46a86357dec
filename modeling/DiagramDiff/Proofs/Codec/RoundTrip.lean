import DiagramDiff.Proofs.Codec.Extensions
import DiagramDiff.Proofs.Json.RoundTrip

/-!
# Documents, written and read

Reports, diagrams and marked lines are recovered from their JSON texts, and also from texts that
hold unknown keys beside the known ones (`recovers_documents`).

There are two halves. Decoding undoes encoding, one type after the other, where each field that is
left out when it is empty meets a default on reading. And the values that encoders make are read
back from their texts, because they are shallow and the only numbers in them are positions and
similarities.
-/

namespace DiagramDiff

open Json (ReadBack)

namespace Json

/-! ## Lists -/

section lists

variable {α : Type} {encode : α → Json} {decode : Json → Option α} {items : List α}

/-- A list is decoded from its array if its items are. -/
theorem list?_ofList (h : ∀ a ∈ items, decode (encode a) = some a) :
    list? decode (ofList encode items) = some items := by
  show (items.map encode).mapM decode = some items
  induction items with
  | nil => rfl
  | cons a items ih =>
    rw [List.map_cons, List.mapM_cons, h a List.mem_cons_self,
      ih fun b hb => h b (List.mem_cons_of_mem a hb)]
    rfl

/-- A list of strings is decoded from its array. -/
theorem list?_strings (words : List String) :
    list? string? (ofList string words) = some words :=
  list?_ofList fun _ _ => rfl

end lists

end Json

/-! ## Decoding undoes encoding -/

/-- A property is decoded from its JSON form. -/
theorem Property.ofJson?_toJson (p : Property) : ofJson? p.toJson = some p := rfl

/-- A link is decoded from its JSON form. -/
theorem Link.ofJson?_toJson (l : Link) : ofJson? l.toJson = some l := rfl

/-- Properties are decoded from their array. -/
theorem Property.list?_ofList (properties : List Property) :
    Json.list? ofJson? (Json.ofList toJson properties) = some properties :=
  Json.list?_ofList fun p _ => ofJson?_toJson p

/-- Links are decoded from their array. -/
theorem Link.list?_ofList (links : List Link) :
    Json.list? ofJson? (Json.ofList toJson links) = some links :=
  Json.list?_ofList fun l _ => ofJson?_toJson l

/-- A class is decoded from its JSON form. -/
theorem ClassNode.ofJson?_toJson (c : ClassNode) : ofJson? c.toJson = some c := by
  obtain ⟨name, properties, methods, annotations⟩ := c
  cases annotations <;>
    simp [ofJson?, toJson, Json.fields?, Json.required, Json.defaulted, Json.lookup?, Json.string?,
      Property.list?_ofList, Json.list?_strings]

/-- A diagram is decoded from its JSON form. -/
theorem Diagram.ofJson?_toJson (d : Diagram) : ofJson? d.toJson = some d := by
  have classes : Json.list? ClassNode.ofJson? (Json.ofList ClassNode.toJson d.classes) =
      some d.classes := Json.list?_ofList fun c _ => c.ofJson?_toJson
  simp [ofJson?, toJson, Json.fields?, Json.required, Json.lookup?, classes, Link.list?_ofList]

/-- The fields of a finding are decoded from a difference. -/
theorem Finding.ofFields?_fields (f : Finding) (message : String) :
    ofFields? f.kind (("type", .string f.kind.name) ::
      (f.fields ++ [("message", .string message)])) = some f := by
  cases f <;>
    simp [ofFields?, fields, kind, Json.required, Json.lookup?, Json.string?,
      Property.list?_ofList, Link.list?_ofList, Json.list?_strings]

/-- A difference is decoded from its JSON form. -/
theorem Difference.ofJson?_toJson (d : Difference) : ofJson? d.toJson = some d := by
  obtain ⟨finding, message⟩ := d
  have fields := Finding.ofFields?_fields finding message
  have tag : Json.lookup? (("type", .string finding.kind.name) ::
      (finding.fields ++ [("message", .string message)])) "type" =
        some (.string finding.kind.name) := by
    cases finding <;> rfl
  have worded : Json.lookup? (("type", .string finding.kind.name) ::
      (finding.fields ++ [("message", .string message)])) "message" = some (.string message) := by
    cases finding <;> rfl
  simp [ofJson?, toJson, tagged?, kind, Json.string?, Json.fields?, Json.required, tag, worded,
    fields]

/-- A hint is decoded from its JSON form. -/
theorem RenameHint.ofJson?_toJson (h : RenameHint) : ofJson? h.toJson = some h := rfl

/-- A report is decoded from its JSON form. -/
theorem Report.ofJson?_toJson (r : Report) : ofJson? r.toJson = some r := by
  have differences : Json.list? Difference.ofJson? (Json.ofList Difference.toJson r.differences) =
      some r.differences := Json.list?_ofList fun d _ => d.ofJson?_toJson
  have hints : Json.list? RenameHint.ofJson? (Json.ofList RenameHint.toJson r.hints) =
      some r.hints := Json.list?_ofList fun h _ => h.ofJson?_toJson
  obtain ⟨identical, ds, hs⟩ := r
  cases hs <;>
    simp_all [ofJson?, toJson, Json.fields?, Json.required, Json.defaulted, Json.lookup?,
      Json.bool?]

/-- A marked line is decoded from its JSON form. -/
theorem MarkedLine.ofJson?_toJson (line : MarkedLine) : ofJson? line.toJson = some line := by
  obtain ⟨number, text, mark, difference⟩ := line
  have word : ∀ m : Mark, Json.word? Mark.ofName? (.string m.name) = some m := Mark.ofName?_name
  cases mark with
  | none => cases difference <;> rfl
  | some m =>
    cases difference <;>
      simp [ofJson?, toJson, Json.fields?, Json.required, Json.optional, Json.lookup?,
        Json.string?, Json.nat?, word]

/-! ## Encoded values are read back -/

namespace Json

/-- A list is read back one level deeper than its encoded items. -/
theorem ReadBack.ofList {α : Type} {encode : α → Json} {items : List α} {n : Nat}
    (h : ∀ a ∈ items, ReadBack n (encode a)) : ReadBack (n + 1) (ofList encode items) := by
  refine .array fun j member => ?_
  obtain ⟨a, ha, rfl⟩ := List.mem_map.mp member
  exact h a ha

/-- A list of strings is read back. -/
theorem ReadBack.strings (words : List String) : ReadBack 1 (Json.ofList Json.string words) :=
  .ofList fun s _ => .string 0 s

end Json

/-- A property is read back. -/
theorem Property.readBack (p : Property) : ReadBack 1 p.toJson :=
  .object (by simp [ReadBack.string])

/-- A link is read back. -/
theorem Link.readBack (l : Link) : ReadBack 1 l.toJson := .object (by simp [ReadBack.string])

/-- A class is read back. -/
theorem ClassNode.readBack (c : ClassNode) : ReadBack 3 c.toJson := by
  have properties : ReadBack 2 (Json.ofList Property.toJson c.properties) :=
    .ofList fun p _ => p.readBack
  have words : ∀ words, ReadBack 2 (Json.ofList Json.string words) := fun words =>
    (ReadBack.strings words).mono (by decide)
  refine .object ?_
  cases c.annotations <;> simp [ReadBack.string, properties, words]

/-- A diagram is read back. -/
theorem Diagram.readBack (d : Diagram) : ReadBack 5 d.toJson := by
  have classes : ReadBack 4 (Json.ofList ClassNode.toJson d.classes) :=
    .ofList fun c _ => c.readBack
  have links : ReadBack 4 (Json.ofList Link.toJson d.links) :=
    .ofList fun l _ => l.readBack.mono (by decide)
  exact .object (by simp [classes, links])

/-- A difference is read back. -/
theorem Difference.readBack (d : Difference) : ReadBack 3 d.toJson := by
  have properties : ∀ properties, ReadBack 2 (Json.ofList Property.toJson properties) := fun _ =>
    .ofList fun p _ => p.readBack
  have links : ∀ links, ReadBack 2 (Json.ofList Link.toJson links) := fun _ =>
    .ofList fun l _ => l.readBack
  have words : ∀ words, ReadBack 2 (Json.ofList Json.string words) := fun words =>
    (ReadBack.strings words).mono (by decide)
  refine .object ?_
  cases d.finding <;> simp [Finding.fields, ReadBack.string, properties, links, words]

/-- A hint is read back if its similarity is. -/
theorem RenameHint.readBack (h : RenameHint) (exact' : h.similarity.ReadsBack) :
    ReadBack 1 h.toJson := by
  have similarity : ReadBack 0 (.float h.similarity) := ⟨exact', Nat.le_refl 0⟩
  exact .object (by simp [ReadBack.string, similarity])

/-- A report is read back if the similarities of its hints are. -/
theorem Report.readBack (r : Report) (exact' : ∀ h ∈ r.hints, h.similarity.ReadsBack) :
    ReadBack 5 r.toJson := by
  have identical : ReadBack 4 (.bool r.identical) := ⟨trivial, Nat.zero_le 4⟩
  have differences : ReadBack 4 (Json.ofList Difference.toJson r.differences) :=
    .ofList fun d _ => d.readBack
  have hints : ReadBack 4 (Json.ofList RenameHint.toJson r.hints) :=
    .ofList fun h member => (h.readBack (exact' h member)).mono (by decide)
  refine .object ?_
  by_cases none : r.hints.isEmpty = true
  · simp [none, identical, differences]
  · simp [none, identical, differences, hints]

/-- A marked line is read back if its positions fit into 64 bits. -/
theorem MarkedLine.readBack (line : MarkedLine) (number : line.number < Binary64.pow2 64)
    (position : ∀ n ∈ line.difference, n < Binary64.pow2 64) : ReadBack 1 line.toJson := by
  have natural : ∀ n : Nat, n < Binary64.pow2 64 → ReadBack 0 (.int n) := by
    intro n small
    refine ⟨?_, Nat.zero_le 0⟩
    rw [Json.Readable]
    omega
  refine .object ?_
  cases line.mark <;> cases difference : line.difference <;>
    simp_all [ReadBack.string]

/-! ## Recovery -/

/-- A value is recovered from the text of its JSON form, and from every text that extends this form
by unknown keys. -/
def Recovers {α : Type} (toJson : α → Json) (ofJson? : Json → Option α)
    (Extends : Json → Json → Prop) (a : α) : Prop :=
  (Json.ofText? (toJson a).text).bind ofJson? = some a ∧
    ∀ text j, Json.ofText? text = some j → Extends (toJson a) j →
      (Json.ofText? text).bind ofJson? = some a

/-- A value is recovered if its JSON form is read back and decoded, and decoding does not regard
unknown keys. -/
theorem recovers {α : Type} {toJson : α → Json} {ofJson? : Json → Option α}
    {Extends : Json → Json → Prop} {a : α} (decoded : ofJson? (toJson a) = some a)
    (read : Json.ofText? (toJson a).text = some (toJson a))
    (extends' : ∀ j j', Extends j j' → ofJson? j' = ofJson? j) :
    Recovers toJson ofJson? Extends a := by
  refine ⟨?_, fun text j h extended => ?_⟩
  · rw [read, Option.bind_some, decoded]
  · rw [h, Option.bind_some, extends' _ _ extended, decoded]

/-- Reports, diagrams and marked lines are recovered from their JSON texts, also with unknown keys
added to any of the objects in them. Similarities have to be numbers that are read back, and
positions have to fit into 64 bits. -/
theorem recovers_documents (r : Report) (d : Diagram) (line : MarkedLine)
    (exact' : ∀ h ∈ r.hints, h.similarity.ReadsBack) (number : line.number < Binary64.pow2 64)
    (position : ∀ n ∈ line.difference, n < Binary64.pow2 64) :
    Recovers Report.toJson Report.ofJson? Report.Extends r ∧
      Recovers Diagram.toJson Diagram.ofJson? Diagram.Extends d ∧
      Recovers MarkedLine.toJson MarkedLine.ofJson? MarkedLine.Extends line := by
  refine ⟨?_, ?_, ?_⟩
  · exact recovers r.ofJson?_toJson ((r.readBack exact').ofText?_text (by decide))
      Report.ofJson?_extends
  · exact recovers d.ofJson?_toJson (d.readBack.ofText?_text (by decide)) Diagram.ofJson?_extends
  · exact recovers line.ofJson?_toJson ((line.readBack number position).ofText?_text (by decide))
      MarkedLine.ofJson?_extends

/-- A report with a rename hint, a diagram with an inheritance and a line that is attributed to a
difference are recovered. -/
theorem recovers_documents_kennel :
    Recovers Report.toJson Report.ofJson? Report.Extends
        ⟨false, [(Finding.classesMissing ["Dog"]).difference,
            (Finding.classesAdded ["Dogs"]).difference],
          [RenameHint.of "Dog" "Dogs" (similarity "Dog" "Dogs")]⟩ ∧
      Recovers Diagram.toJson Diagram.ofJson? Diagram.Extends
        ⟨[⟨"Dogs", [⟨"name", "String"⟩], ["bark()"], []⟩], [⟨"Dogs", "Animal", "--|>", ""⟩]⟩ ∧
      Recovers MarkedLine.toJson MarkedLine.ofJson? MarkedLine.Extends
        ⟨1, "class Dogs", some .unexpected, some 1⟩ := by
  have similar : (similarity "Dog" "Dogs").ReadsBack := by
    unfold Binary64.ReadsBack
    rfl
  refine recovers_documents _ _ _ ?_ (by decide) (by decide)
  intro h member
  rw [List.mem_singleton.mp member]
  exact similar

/-- A key that is unknown in a report is ignored. -/
example : (Json.ofText? (Json.object [("identical", .bool true), ("version", .int 2),
    ("differences", .array [])]).text).bind Report.ofJson? = some Report.same := by
  decide +kernel

end DiagramDiff
