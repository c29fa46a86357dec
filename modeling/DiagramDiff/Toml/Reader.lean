import DiagramDiff.Text.Basic
import DiagramDiff.Toml.Quoted

/-!
# Reading TOML

A document is a sequence of lines: blank ones, comments, headers and pairs of a key and a value. A
header opens the section to which the pairs after it belong. Reading stops at the first error; a
document is either read as a whole or not at all.

Values nest, so their reader recurses on a count of steps, of which the length of the text gives
enough, and refuses arrays and inline tables beyond a fixed depth.
-/

namespace DiagramDiff.Toml

open Text (dropBlanks isBlank)

/-! ## Between tokens -/

/-- The text after the white space, line breaks and comments it starts with. A comment runs to the
end of its line and holds no control characters, and a carriage return stands only before a line
feed. -/
def skipFiller (inComment : Bool) : List Char → Option (List Char)
  | [] => some []
  | '\n' :: rest => skipFiller false rest
  | '\r' :: '\n' :: rest => skipFiller false rest
  | c :: rest =>
    if inComment then
      if isPlain c then skipFiller true rest else none
    else if isBlank c then skipFiller false rest
    else if c = '#' then skipFiller true rest
    else some (c :: rest)

/-- The text after the end of a line, which a comment may precede. -/
def endLine? (text : List Char) : Option (List Char) :=
  let rest :=
    match dropBlanks text with
    | '#' :: comment => comment.dropWhile isPlain
    | other => other
  if rest.isEmpty then some [] else skipBreak? rest

/-! ## Keys -/

/-- A character of a key without quotes. -/
def isBareKeyChar (c : Char) : Bool := c.isAlphanum || c == '_' || c == '-'

/-- The key without dots that a text starts with, and the text after it. -/
def readKey? (text : List Char) : Option (String × List Char) :=
  match text.takeWhile isBareKeyChar with
  | [] => readShort? text
  | key => some (String.ofList key, text.dropWhile isBareKeyChar)

/-- The parts of a key that a text starts with, the last one apart, and the text after it. Each
step takes a part. -/
def readPath : (steps : Nat) → List Char → Option ((List String × String) × List Char)
  | 0, _ => none
  | steps + 1, text =>
    match readKey? text with
    | none => none
    | some (key, after) =>
      match dropBlanks after with
      | '.' :: rest =>
        (readPath steps (dropBlanks rest)).map fun ((path, last), after) =>
          ((key :: path, last), after)
      | other => some (([], key), other)

/-- How many parts of a key may precede the last one. -/
def maxPath : Nat := 79

/-- The key a text starts with, and the text after it and its blanks. -/
def readPath? (text : List Char) : Option ((List String × String) × List Char) :=
  (readPath (text.length + 1) text).filter fun ((path, _), _) => decide (path.length ≤ maxPath)

/-- The key and the equals sign a text starts with, and the text of the value. -/
def readAssignee? (text : List Char) : Option ((List String × String) × List Char) :=
  match readPath? text with
  | some (path, '=' :: rest) => some (path, dropBlanks rest)
  | _ => none

/-! ## Values -/

mutual

/-- The value a text starts with, and the text after it; `depth` more arrays and inline tables may
be opened. -/
def readValue : (steps depth : Nat) → List Char → Option (Value × List Char)
  | 0, _, _ => none
  | steps + 1, depth, text =>
    match text with
    | '[' :: rest =>
      if depth = 0 then none
      else (readItems steps (depth - 1) rest).map fun (items, after) => (.array items, after)
    | '{' :: rest =>
      if depth = 0 then none
      else
        (readPairs steps (depth - 1) [] rest).map fun (entries, after) =>
          (.table .inline entries, after)
    | '"' :: _ | '\'' :: _ => (readString? text).map fun (s, after) => (.string s, after)
    | _ => readScalar? text

/-- The items of an array from the next one on, and the text after the array. -/
def readItems : (steps depth : Nat) → List Char → Option (List Value × List Char)
  | 0, _, _ => none
  | steps + 1, depth, text =>
    match skipFiller false text with
    | none => none
    | some (']' :: rest) => some ([], rest)
    | some start =>
      match readValue steps depth start with
      | none => none
      | some (v, after) =>
        match skipFiller false after with
        | some (',' :: rest) =>
          (readItems steps depth rest).map fun (items, after) => (v :: items, after)
        | some (']' :: rest) => some ([v], rest)
        | _ => none

/-- The entries of an inline table of which some are read, and the text after the table. -/
def readPairs : (steps depth : Nat) → Entries → List Char → Option (Entries × List Char)
  | 0, _, _, _ => none
  | steps + 1, depth, entries, text =>
    match skipFiller false text with
    | none => none
    | some ('}' :: rest) => some (entries, rest)
    | some start =>
      match readAssignee? start with
      | none => none
      | some ((path, key), value) =>
        match readValue steps depth value with
        | none => none
        | some (v, after) =>
          match assign path key v .inline entries with
          | none => none
          | some entries =>
            match skipFiller false after with
            | some (',' :: rest) => readPairs steps depth entries rest
            | some ('}' :: rest) => some (entries, rest)
            | _ => none

end

/-- How deep arrays and inline tables may be nested. -/
def maxDepth : Nat := 80

/-! ## Documents -/

/-- A document of which some lines are read. -/
structure Draft where
  /-- The entries so far. -/
  entries : Entries
  /-- The path of the section that is open. -/
  current : List String

/-- The draft after a header, and the text after its line. -/
def readHeader? (draft : Draft) (text : List Char) : Option (Draft × List Char) :=
  let double := text.head? == some '['
  match readPath? (dropBlanks (if double then text.drop 1 else text)) with
  | none => none
  | some ((path, key), after) =>
    match (if double then [']', ']'] else [']']).isPrefixOf? after with
    | none => none
    | some rest =>
      match changeAt false (if double then openTables key else openTable key) path .header
        draft.entries with
      | none => none
      | some entries => (endLine? rest).map fun after => (⟨entries, path ++ [key]⟩, after)

/-- The draft after a pair, and the text after its line. -/
def readPair? (draft : Draft) (text : List Char) : Option (Draft × List Char) :=
  match readAssignee? text with
  | none => none
  | some ((path, key), value) =>
    match readValue (2 * value.length + 2) maxDepth value with
    | none => none
    | some (v, after) =>
      match changeAt false (assign path key v) draft.current .header draft.entries with
      | none => none
      | some entries => (endLine? after).map fun rest => ({ draft with entries := entries }, rest)

/-- The entries of a document of which some lines are read. Each step takes a header or a pair. -/
def readLines : (steps : Nat) → Draft → List Char → Option Entries
  | 0, _, _ => none
  | steps + 1, draft, text =>
    match skipFiller false text with
    | none => none
    | some [] => some draft.entries
    | some ('[' :: rest) =>
      match readHeader? draft rest with
      | some (draft, after) => readLines steps draft after
      | none => none
    | some start =>
      match readPair? draft start with
      | some (draft, after) => readLines steps draft after
      | none => none

/-- The text without the byte order mark it may start with. -/
def dropMark (text : List Char) : List Char :=
  match text with
  | c :: rest => if c = '\uFEFF' then rest else text
  | [] => []

/-- The entries of the document that a text holds. -/
def ofText? (text : String) : Option Entries :=
  let chars := dropMark text.toList
  readLines (chars.length + 1) ⟨[], []⟩ chars

end DiagramDiff.Toml
