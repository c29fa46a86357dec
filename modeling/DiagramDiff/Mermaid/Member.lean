import DiagramDiff.Diagram.Basic
import DiagramDiff.Mermaid.Comment
import DiagramDiff.Text.Search

/-!
# Members of a class body

A body is cut into entries at line breaks, commas and semicolons. A comma inside parentheses or
inside a list of type arguments does not cut, so two counters run along; a line break resets them,
which confines an unclosed bracket to its line.

Each entry gives up its stereotypes first. What is left is a method if a word stands before an
opening parenthesis, and otherwise a property, written `name`, `name: Type` or `Type name` with an
optional mark of visibility before and an optional classifier (`$` or `*`) after it. Entries of
any other form are passed over.
-/

namespace DiagramDiff.Mermaid

open Text

/-! ## Cutting a body into entries -/

/-- How deep a position of a line lies in parentheses and in lists of type arguments. -/
structure Nesting where
  /-- The parentheses that are open. -/
  parentheses : Nat
  /-- The lists of type arguments that are open. -/
  arguments : Nat
  deriving DecidableEq, Repr

namespace Nesting

/-- Nothing is open. -/
def none : Nesting := ⟨0, 0⟩

/-- Whether an optional character is a name letter. -/
def besideLetter : Option Char → Bool
  | .none => false
  | some c => isNameLetter c

/-- The nesting after a character, given its neighbours. A tilde between name letters opens a list
of type arguments, and any other one closes the innermost list; closing more than is open has no
effect. -/
def step (before after : Option Char) (n : Nesting) (c : Char) : Nesting :=
  if c = '(' then { n with parentheses := n.parentheses + 1 }
  else if c = ')' then { n with parentheses := n.parentheses - 1 }
  else if c = '~' then
    if besideLetter before && besideLetter after then { n with arguments := n.arguments + 1 }
    else { n with arguments := n.arguments - 1 }
  else if c = '\n' then none
  else n

/-- Whether a character cuts the body: a line break always, a comma or a semicolon where nothing
is open. -/
def cutsAt (n : Nesting) (c : Char) : Bool :=
  c == '\n' || ((c == ',' || c == ';') && n.parentheses == 0 && n.arguments == 0)

end Nesting

/-- The pieces of a body from a position on, given the nesting there and the character before. -/
def cutFrom (n : Nesting) (before : Option Char) : List Char → List (List Char)
  | [] => [[]]
  | c :: rest =>
    let later := cutFrom (n.step before rest.head? c) (some c) rest
    if n.cutsAt c then [] :: later else later.modifyHead (c :: ·)

/-- There is always a piece, if only an empty one. -/
theorem cutFrom_ne_nil (n : Nesting) (before : Option Char) (body : List Char) :
    cutFrom n before body ≠ [] := by
  induction body generalizing n before with
  | nil => exact List.cons_ne_nil _ _
  | cons c rest ih =>
    unfold cutFrom
    split
    · exact List.cons_ne_nil _ _
    · intro empty
      have later := ih (n.step before rest.head? c) (some c)
      cases h : cutFrom (n.step before rest.head? c) (some c) rest with
      | nil => exact later h
      | cons piece pieces => simp [h] at empty

/-- The pieces of a body between the characters that cut it. -/
def cut (body : List Char) : List (List Char) := cutFrom .none .none body

/-- The entries of a body: its pieces, trimmed, without the blank ones and the comments. -/
def entries (body : List Char) : List (List Char) :=
  ((cut body).map trim).filter fun entry => !entry.isEmpty && !isComment entry

/-! ## Stereotypes -/

/-- A character that may stand in a stereotype. -/
def isStereotypeChar (c : Char) : Bool := c != '<' && c != '>' && c != '\n'

/-- The name in a stereotype, without blanks at its ends. One that holds nothing but blanks is
named by the last of them. -/
def stereotypeName (inner : List Char) : List Char :=
  if (trimBlanks inner).isEmpty then inner.getLast?.toList else trimBlanks inner

/-- The stereotype a text starts with, such as `<<interface>>`, and the text after it. -/
def readStereotype? (text : List Char) : Option (List Char × List Char) :=
  match text with
  | '<' :: '<' :: rest =>
    let inner := rest.takeWhile isStereotypeChar
    match rest.dropWhile isStereotypeChar with
    | '>' :: '>' :: after => if inner.isEmpty then none else some (stereotypeName inner, after)
    | _ => none
  | _ => none

/-- The stereotypes of an entry. -/
def entryStereotypes (entry : List Char) : List (List Char) :=
  finds (fun _ text => readStereotype? text) entry

/-- An entry without its stereotypes, trimmed. -/
def entryMember (entry : List Char) : List Char :=
  trim (withoutFinds (fun _ text => readStereotype? text) entry)

/-! ## Methods -/

/-- The word before an opening parenthesis with which a text starts, and the text after it. -/
def readCall? (text : List Char) : Option (List Char × List Char) :=
  match readWord? text with
  | none => none
  | some (name, after) =>
    match dropBlanks after with
    | '(' :: rest => some (name, rest)
    | _ => none

/-- The name of the method that a member declares: the first word before a parenthesis. -/
def methodName? (member : List Char) : Option (List Char) :=
  (finds (atWordStart readCall?) member).head?

/-! ## Properties -/

/-- A character of a type outside its arguments. -/
def isTypeChar (c : Char) : Bool := isWord c || c == '<' || c == '>' || c == '[' || c == ']'

/-- The rest of a type and the text after it; `inside` says whether a list of arguments is open. A
tilde opens a list only if another one follows to close it, and a list may hold anything. -/
def typeTail (inside : Bool) : List Char → List Char × List Char
  | [] => ([], [])
  | c :: rest =>
    if c = '~' then
      if inside || rest.contains '~' then
        let (type, after) := typeTail (!inside) rest
        (c :: type, after)
      else ([], c :: rest)
    else if inside || isTypeChar c then
      let (type, after) := typeTail inside rest
      (c :: type, after)
    else ([], c :: rest)

/-- The type a text starts with, which begins with a word character, and the text after it. -/
def readType? (text : List Char) : Option (List Char × List Char) :=
  match text with
  | [] => none
  | c :: _ => if isWord c then some (typeTail false text) else none

/-- The text after an optional mark of visibility and its blanks. -/
def skipVisibility (text : List Char) : List Char :=
  match text with
  | c :: rest => if c = '+' ∨ c = '-' ∨ c = '#' ∨ c = '~' then dropBlanks rest else text
  | [] => []

/-- Whether nothing but blanks and at most one classifier is left of a member. -/
def endsMember (text : List Char) : Bool :=
  match dropBlanks text with
  | [] => true
  | [c] => c == '$' || c == '*'
  | _ => false

/-- A name with an optional type after a colon that makes up a whole text. -/
def readNamed? (text : List Char) : Option (List Char × Option (List Char)) :=
  match readWord? text with
  | none => none
  | some (name, after) =>
    match dropBlanks after with
    | ':' :: rest =>
      match readType? (dropBlanks rest) with
      | none => none
      | some (type, left) => if endsMember left then some (name, some type) else none
    | _ => if endsMember after then some (name, none) else none

/-- A type, blanks and a name with an optional type after a colon, which counts for more than the
one in front. -/
def readLed? (text : List Char) : Option (List Char × Option (List Char)) :=
  match readType? text with
  | none => none
  | some (lead, after) =>
    if after.head?.any isBlank then
      (readNamed? (dropBlanks after)).map fun (name, type) => (name, type.or (some lead))
    else none

/-- The property that a member declares. -/
def readProperty? (member : List Char) : Option Property :=
  let text := skipVisibility member
  ((readLed? text).or (readNamed? text)).map fun (name, type) =>
    ⟨String.ofList name, (type.map String.ofList).getD Property.untypedName⟩

/-! ## Bodies -/

/-- The members of a body: its entries without stereotypes, as far as anything is left. -/
def bodyMembers (body : List Char) : List (List Char) :=
  ((entries body).map entryMember).filter (!·.isEmpty)

/-- The names of the methods among some members. -/
def methodsOf (members : List (List Char)) : List String :=
  members.filterMap fun m => (methodName? m).map String.ofList

/-- The properties among some members, without those that bear one of the given names. -/
def propertiesBut (names : List String) (members : List (List Char)) : List Property :=
  ((members.filter fun m => (methodName? m).isNone).filterMap readProperty?).filter
    fun p => !names.contains p.name

/-- The names of the methods of a body. -/
def bodyMethods (body : List Char) : List String := methodsOf (bodyMembers body)

/-- The properties of a body. A name that is also a method of the body is no property. -/
def bodyProperties (body : List Char) : List Property :=
  propertiesBut (bodyMethods body) (bodyMembers body)

/-- The stereotypes of a body. -/
def bodyAnnotations (body : List Char) : List String :=
  (entries body).flatMap fun entry => (entryStereotypes entry).map String.ofList

/-- The class that a name and a body declare. -/
def classOfBody (name : String) (body : List Char) : ClassNode where
  name := name
  properties := bodyProperties body
  methods := bodyMethods body
  annotations := bodyAnnotations body

end DiagramDiff.Mermaid
