import DiagramDiff.Diagram.Merge
import DiagramDiff.Mermaid.Member

/-!
# Declarations of classes

A class is declared by the word `class`, a name, an optional list of type arguments between tildes
and an optional body in braces, which white space and line breaks may precede. A body reaches to
the first closing brace. Whatever stands between declarations is passed over.

A line of its own may add an annotation to a declared class: `<<interface>> Name`.
-/

namespace DiagramDiff.Mermaid

open Text

/-! ## Class headers and bodies -/

/-- A declaration as it stands in a text. -/
structure Declaration where
  /-- The name of the class. -/
  name : List Char
  /-- The text between the braces, if there are any. -/
  body : Option (List Char)
  deriving DecidableEq, Repr

/-- The text after a list of type arguments between tildes on one line; the same text if it does
not start with one. -/
def skipTypeArguments (text : List Char) : List Char :=
  match text with
  | '~' :: rest =>
    match rest.dropWhile (fun c => c != '~' && c != '\n') with
    | '~' :: after => after
    | _ => text
  | _ => text

/-- The body a text starts with, white space before it allowed, and the text after it. -/
def readBody? (text : List Char) : Option (List Char × List Char) :=
  match trimStart text with
  | '{' :: rest =>
    match rest.dropWhile (· != '}') with
    | _ :: after => some (rest.takeWhile (· != '}'), after)
    | [] => none
  | _ => none

/-- The declaration a text starts with, and the text after it. -/
def readDeclaration? (text : List Char) : Option (Declaration × List Char) :=
  match "class".toList.isPrefixOf? text with
  | none => none
  | some rest =>
    if rest.head?.any isBlank then
      match readWord? (dropBlanks rest) with
      | none => none
      | some (name, after) =>
        let after := skipTypeArguments after
        match readBody? after with
        | some (body, left) => some (⟨name, some body⟩, left)
        | none => some (⟨name, none⟩, after)
    else none

/-- The declarations of a text, from first to last. -/
def declarations (text : List Char) : List Declaration := finds (atWordStart readDeclaration?) text

/-- The class of a declaration taken alone. -/
def Declaration.classNode (d : Declaration) : ClassNode :=
  classOfBody (String.ofList d.name) (d.body.getD [])

/-- The classes that a text declares, each name once. -/
def declaredClasses (text : List Char) : List ClassNode :=
  ((declarations text).map Declaration.classNode).foldl ClassNode.declare []

/-! ## Annotation lines -/

/-- The annotation and the class name of a line that annotates a class. -/
def readTagLine? (line : List Char) : Option (String × String) :=
  match dropBlanks line with
  | '<' :: '<' :: rest =>
    match readWord? (dropBlanks rest) with
    | none => none
    | some (tag, after) =>
      match dropBlanks after with
      | '>' :: '>' :: rest =>
        if rest.head?.any isBlank then
          match readWord? (dropBlanks rest) with
          | some (name, after) =>
            if (dropBlanks after).isEmpty then
              some (String.ofList tag, String.ofList name)
            else none
          | none => none
        else none
      | _ => none
  | _ => none

/-- The annotations that lines of a text give to classes. -/
def tagLines (text : List Char) : List (String × String) :=
  (pieces text).filterMap readTagLine?

/-- The classes with annotations added to the first class of each name. -/
def annotateClasses (classes : List ClassNode) (tags : List (String × String)) : List ClassNode :=
  tags.foldl (fun acc (tag, name) => Diagram.changeFirst name (·.annotate tag) acc) classes

/-- The classes of a text. -/
def textClasses (text : List Char) : List ClassNode :=
  annotateClasses (declaredClasses text) (tagLines text)

end DiagramDiff.Mermaid
