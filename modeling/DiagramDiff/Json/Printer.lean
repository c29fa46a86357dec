import DiagramDiff.Decimal.Layout
import DiagramDiff.Json.Basic

/-!
# Writing JSON

A value is written compactly on one line, or spread over lines with an indentation of two spaces.
Only the quote, the backslash and control characters are escaped in strings, so the text of a
value never contains a line break of its own in compact form.
-/

namespace DiagramDiff.Json

/-! ## Strings -/

/-- A hexadecimal digit in lower case. -/
def hexDigit (n : Nat) : Char := (Nat.digitChar (n % 16))

/-- The characters by which a character is written in a string. -/
def escapeChar (c : Char) : List Char :=
  if c = '"' then ['\\', '"']
  else if c = '\\' then ['\\', '\\']
  else if c = '\n' then ['\\', 'n']
  else if c = '\r' then ['\\', 'r']
  else if c = '\t' then ['\\', 't']
  else if c = '\x08' then ['\\', 'b']
  else if c = '\x0c' then ['\\', 'f']
  else if c.toNat < 32 then ['\\', 'u', '0', '0', hexDigit (c.toNat / 16), hexDigit c.toNat]
  else [c]

/-- A string between quotes. -/
def quote (s : String) : List Char := '"' :: (s.toList.flatMap escapeChar ++ ['"'])

/-! ## Compact form -/

mutual

/-- A value on one line without blanks. -/
def compact : Json → List Char
  | .null => "null".toList
  | .bool true => "true".toList
  | .bool false => "false".toList
  | .int i => (toString i).toList
  | .float x => (Decimal.text Decimal.documentLayout x).toList
  | .string s => quote s
  | .array items => '[' :: compactItems items
  | .object members => '{' :: compactMembers members

/-- The items of an array and its end. -/
def compactItems : List Json → List Char
  | [] => [']']
  | [j] => j.compact ++ [']']
  | j :: rest => j.compact ++ ',' :: compactItems rest

/-- The members of an object and its end. -/
def compactMembers : List (String × Json) → List Char
  | [] => ['}']
  | [(key, j)] => quote key ++ ':' :: (j.compact ++ ['}'])
  | (key, j) :: rest => quote key ++ ':' :: (j.compact ++ ',' :: compactMembers rest)

end

/-! ## Indented form -/

/-- A line break followed by the indentation of a level. -/
def lineBreak (level : Nat) : List Char := '\n' :: List.replicate (2 * level) ' '

mutual

/-- A value over several lines, its first line standing at a level. -/
def indented (level : Nat) : Json → List Char
  | .array [] => ['[', ']']
  | .array items => '[' :: indentedItems (level + 1) items
  | .object [] => ['{', '}']
  | .object members => '{' :: indentedMembers (level + 1) members
  | .null => compact .null
  | .bool b => compact (.bool b)
  | .int i => compact (.int i)
  | .float x => compact (.float x)
  | .string s => compact (.string s)

/-- The items of an array, each on lines of its own, and its end. -/
def indentedItems (level : Nat) : List Json → List Char
  | [] => [']']
  | [j] => lineBreak level ++ (j.indented level ++ (lineBreak (level - 1) ++ [']']))
  | j :: rest => lineBreak level ++ (j.indented level ++ ',' :: indentedItems level rest)

/-- The members of an object, each on lines of its own, and its end. -/
def indentedMembers (level : Nat) : List (String × Json) → List Char
  | [] => ['}']
  | [(key, j)] =>
    lineBreak level ++ (quote key ++ ':' :: ' ' ::
      (j.indented level ++ (lineBreak (level - 1) ++ ['}'])))
  | (key, j) :: rest =>
    lineBreak level ++ (quote key ++ ':' :: ' ' ::
      (j.indented level ++ ',' :: indentedMembers level rest))

end

/-- The compact text of a value. -/
def text (j : Json) : String := String.ofList j.compact

/-- The text of a value over several lines. -/
def indentedText (j : Json) : String := String.ofList (j.indented 0)

end DiagramDiff.Json
