import DiagramDiff.Diagram.Basic

/-!
# Writing a diagram

A diagram is written with one class, member or link a line, in the order in which it holds them.
A class without members and annotations is written without a body.
-/

namespace DiagramDiff

/-- How a property is written in a body. -/
def Property.bodyLine (p : Property) : String :=
  if p.type = untypedName then "        +" ++ p.name else "        +" ++ p.shown

/-- The lines between the braces of a class. -/
def ClassNode.bodyLines (c : ClassNode) : List String :=
  c.annotations.map (fun a => "        <<" ++ a ++ ">>") ++
    (c.properties.map Property.bodyLine ++ c.methods.map fun m => "        +" ++ m ++ "()")

/-- The lines of a class. -/
def ClassNode.textLines (c : ClassNode) : List String :=
  if c.bodyLines.isEmpty then ["    class " ++ c.name]
  else ("    class " ++ c.name ++ " \x7b") :: (c.bodyLines ++ ["    \x7d"])

/-- The line of a link. -/
def Link.textLine (l : Link) : String :=
  if l.label = "" then "    " ++ l.shown else "    " ++ l.shown ++ " : " ++ l.label

namespace Diagram

/-- The lines of a diagram. -/
def textLines (d : Diagram) : List String :=
  "classDiagram" :: (d.classes.flatMap ClassNode.textLines ++ d.links.map Link.textLine)

/-- The text of a diagram. -/
def render (d : Diagram) : String := String.join (d.textLines.map (· ++ "\n"))

end Diagram

end DiagramDiff
