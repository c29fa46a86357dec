import DiagramDiff.Json.Number

/-!
# Reading JSON

Exactly the texts of the JSON grammar are read, with three limits: a floating point number has to
be finite, a surrogate has to be paired, and arrays and objects may be nested up to a fixed depth.
An object keeps every member, also where a name comes twice.

The reader recurses on a count of steps. Every step but the descent into an item takes a character
off the text, so twice the length of the text is more than it can use.
-/

namespace DiagramDiff.Json

/-! ## Characters -/

/-- White space between tokens. -/
def isSpace (c : Char) : Bool := c == ' ' || c == '\t' || c == '\n' || c == '\r'

/-- The text after the white space it starts with. -/
def skipSpace (text : List Char) : List Char := text.dropWhile isSpace

/-- The value of a hexadecimal digit. -/
def hexValue? (c : Char) : Option Nat :=
  if '0' ≤ c ∧ c ≤ '9' then some (c.toNat - '0'.toNat)
  else if 'a' ≤ c ∧ c ≤ 'f' then some (c.toNat - 'a'.toNat + 10)
  else if 'A' ≤ c ∧ c ≤ 'F' then some (c.toNat - 'A'.toNat + 10)
  else none

/-- The value of four hexadecimal digits. -/
def hexQuad? (a b c d : Char) : Option Nat :=
  match hexValue? a, hexValue? b, hexValue? c, hexValue? d with
  | some a, some b, some c, some d => some (((a * 16 + b) * 16 + c) * 16 + d)
  | _, _, _, _ => none

/-- The character that a letter after a backslash stands for. -/
def unescape? (c : Char) : Option Char :=
  if c = '"' ∨ c = '\\' ∨ c = '/' then some c
  else if c = 'n' then some '\n'
  else if c = 'r' then some '\r'
  else if c = 't' then some '\t'
  else if c = 'b' then some '\x08'
  else if c = 'f' then some '\x0c'
  else none

/-! ## Strings -/

/-- A read list with one more element in front. -/
def consRead {α : Type} (a : α) (read : Option (List α × List Char)) :
    Option (List α × List Char) :=
  read.map fun (found, rest) => (a :: found, rest)

/-- The characters of a string up to its closing quote, and the text after it. -/
def readChars : List Char → Option (List Char × List Char)
  | '"' :: rest => some ([], rest)
  | '\\' :: 'u' :: a :: b :: c :: d :: rest =>
    match hexQuad? a b c d with
    | none => none
    | some n =>
      if n < 0xD800 ∨ 0xE000 ≤ n then consRead (Char.ofNat n) (readChars rest)
      else if 0xDC00 ≤ n then none
      else
        match rest with
        | '\\' :: 'u' :: e :: f :: g :: h :: rest' =>
          match hexQuad? e f g h with
          | none => none
          | some m =>
            if 0xDC00 ≤ m ∧ m < 0xE000 then
              consRead (Char.ofNat (0x10000 + (n - 0xD800) * 0x400 + (m - 0xDC00)))
                (readChars rest')
            else none
        | _ => none
  | '\\' :: c :: rest =>
    match unescape? c with
    | none => none
    | some c => consRead c (readChars rest)
  | c :: rest => if c.toNat < 32 ∨ c = '\\' then none else consRead c (readChars rest)
  | [] => none

/-! ## Values -/

/-- A value that is one word or one number. -/
def readAtom? (text : List Char) : Option (Json × List Char) :=
  match "null".toList.isPrefixOf? text with
  | some rest => some (.null, rest)
  | none =>
    match "true".toList.isPrefixOf? text with
    | some rest => some (.bool true, rest)
    | none =>
      match "false".toList.isPrefixOf? text with
      | some rest => some (.bool false, rest)
      | none => readNumber? text

mutual

/-- The value a text starts with, and the text after it. -/
def readValue : (steps : Nat) → List Char → Option (Json × List Char)
  | 0, _ => none
  | steps + 1, text =>
    match skipSpace text with
    | '"' :: rest =>
      (readChars rest).map fun (chars, after) => (.string (String.ofList chars), after)
    | '[' :: rest =>
      match skipSpace rest with
      | ']' :: after => some (.array [], after)
      | _ => (readItems steps rest).map fun (items, after) => (.array items, after)
    | '{' :: rest =>
      match skipSpace rest with
      | '}' :: after => some (.object [], after)
      | _ => (readMembers steps rest).map fun (members, after) => (.object members, after)
    | other => readAtom? other

/-- The items of an array from the next one on, and the text after the array. -/
def readItems : (steps : Nat) → List Char → Option (List Json × List Char)
  | 0, _ => none
  | steps + 1, text =>
    match readValue steps text with
    | none => none
    | some (j, after) =>
      match skipSpace after with
      | ',' :: rest => consRead j (readItems steps rest)
      | ']' :: rest => some ([j], rest)
      | _ => none

/-- The members of an object from the next one on, and the text after the object. -/
def readMembers : (steps : Nat) → List Char → Option (List (String × Json) × List Char)
  | 0, _ => none
  | steps + 1, text =>
    match skipSpace text with
    | '"' :: rest =>
      match readChars rest with
      | none => none
      | some (key, after) =>
        match skipSpace after with
        | ':' :: rest =>
          match readValue steps rest with
          | none => none
          | some (j, after) =>
            match skipSpace after with
            | ',' :: rest => consRead (String.ofList key, j) (readMembers steps rest)
            | '}' :: rest => some ([(String.ofList key, j)], rest)
            | _ => none
        | _ => none
    | _ => none

end

/-- How deep arrays and objects may be nested in a document. -/
def maxDepth : Nat := 127

/-- The value that a list of characters writes. -/
def ofChars? (text : List Char) : Option Json :=
  match readValue (2 * text.length + 2) text with
  | none => none
  | some (j, after) =>
    if (skipSpace after).isEmpty && decide (j.depth ≤ maxDepth) then some j else none

/-- The value that a text writes. -/
def ofText? (text : String) : Option Json := ofChars? text.toList

end DiagramDiff.Json
