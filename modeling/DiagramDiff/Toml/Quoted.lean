import DiagramDiff.Toml.Scalar

/-!
# Strings of TOML

A string is basic, with escapes, or literal, without, and of each kind there is one that stays on
its line and one that may go over several. A string over several lines drops a line break right
after its opening quotes, and up to two quotes directly before the closing ones belong to it.
-/

namespace DiagramDiff.Toml

/-- A character that may stand in a comment or, unescaped, in a string of one line: a tab, or no
control character. -/
def isPlain (c : Char) : Bool := c == '\t' || (decide (32 ≤ c.toNat) && c.toNat != 127)

/-- The text after the line break it starts with. -/
def skipBreak? (text : List Char) : Option (List Char) :=
  match text with
  | '\n' :: rest => some rest
  | '\r' :: '\n' :: rest => some rest
  | _ => none

/-! ## Escapes -/

/-- The character of a code point, if there is one. -/
def charOf? (n : Nat) : Option Char :=
  if n < 0xD800 ∨ (0xE000 ≤ n ∧ n < 0x110000) then some (Char.ofNat n) else none

/-- The character that `count` hexadecimal digits name, and the text after them. -/
def readCode? (count : Nat) (text : List Char) : Option (Char × List Char) :=
  let digits := text.take count
  if digits.length = count ∧ digits.all isHexDigit then
    (charOf? (ofDigits 16 digits)).map fun c => (c, text.drop count)
  else none

/-- The character of an escape after its backslash, and the text after it. -/
def readEscape? (text : List Char) : Option (Char × List Char) :=
  match text with
  | 'b' :: rest => some ('\x08', rest)
  | 't' :: rest => some ('\t', rest)
  | 'n' :: rest => some ('\n', rest)
  | 'f' :: rest => some ('\x0c', rest)
  | 'r' :: rest => some ('\r', rest)
  | 'e' :: rest => some ('\x1b', rest)
  | '"' :: rest => some ('"', rest)
  | '\\' :: rest => some ('\\', rest)
  | 'x' :: rest => readCode? 2 rest
  | 'u' :: rest => readCode? 4 rest
  | 'U' :: rest => readCode? 8 rest
  | _ => none

/-- A read list of characters with some more in front. -/
def prepend (front : List Char) (read : Option (List Char × List Char)) :
    Option (List Char × List Char) :=
  read.map fun (chars, rest) => (front ++ chars, rest)

/-! ## Strings of one line -/

/-- The characters of a basic string after its opening quote, and the text after it. Each step
takes a character or an escape. -/
def readBasic : (steps : Nat) → List Char → Option (List Char × List Char)
  | 0, _ => none
  | steps + 1, text =>
    match text with
    | '"' :: rest => some ([], rest)
    | '\\' :: rest =>
      match readEscape? rest with
      | some (c, after) => prepend [c] (readBasic steps after)
      | none => none
    | c :: rest => if isPlain c then prepend [c] (readBasic steps rest) else none
    | [] => none

/-- The characters of a literal string after its opening quote, and the text after it. -/
def readLiteral (text : List Char) : Option (List Char × List Char) :=
  match text.dropWhile (fun c => isPlain c && c != '\'') with
  | '\'' :: rest => some (text.takeWhile (fun c => isPlain c && c != '\''), rest)
  | _ => none

/-! ## Strings over several lines -/

/-- The quotes that belong to a string whose closing quotes a text starts with, and the text after
it; nothing if the text does not start with three quotes. -/
def closing? (quote : Char) (text : List Char) : Option (List Char × List Char) :=
  let n := min (text.takeWhile (· == quote)).length 5
  if 3 ≤ n then some (List.replicate (n - 3) quote, text.drop n) else none

/-- The text without the blanks and line breaks it starts with. -/
def skipSpace : List Char → List Char
  | [] => []
  | '\r' :: '\n' :: rest => skipSpace rest
  | c :: rest => if Text.isBlank c || c == '\n' then skipSpace rest else c :: rest

/-- The text after a backslash that ends its line, without the blanks and line breaks that follow
it; nothing if something else follows the backslash. -/
def skipContinuation? (text : List Char) : Option (List Char) :=
  match skipBreak? (text.dropWhile Text.isBlank) with
  | some rest => some (skipSpace rest)
  | none => none

/-- The characters of a basic string over several lines, and the text after it. -/
def readBasicLines : (steps : Nat) → List Char → Option (List Char × List Char)
  | 0, _ => none
  | steps + 1, text =>
    match closing? '"' text with
    | some read => some read
    | none =>
      match skipBreak? text with
      | some rest => prepend ['\n'] (readBasicLines steps rest)
      | none =>
        match text with
        | '\\' :: rest =>
          match skipContinuation? rest with
          | some after => readBasicLines steps after
          | none =>
            match readEscape? rest with
            | some (c, after) => prepend [c] (readBasicLines steps after)
            | none => none
        | c :: rest => if isPlain c then prepend [c] (readBasicLines steps rest) else none
        | [] => none

/-- The characters of a literal string over several lines, and the text after it. -/
def readLiteralLines : (steps : Nat) → List Char → Option (List Char × List Char)
  | 0, _ => none
  | steps + 1, text =>
    match closing? '\'' text with
    | some read => some read
    | none =>
      match skipBreak? text with
      | some rest => prepend ['\n'] (readLiteralLines steps rest)
      | none =>
        match text with
        | c :: rest => if isPlain c then prepend [c] (readLiteralLines steps rest) else none
        | [] => none

/-- A text without the line break it may start with. -/
def dropBreak (text : List Char) : List Char := (skipBreak? text).getD text

/-- The string of one line a text starts with, and the text after it. -/
def readShort? (text : List Char) : Option (String × List Char) :=
  match text with
  | '"' :: rest => (readBasic (rest.length + 1) rest).map fun (s, after) => (String.ofList s, after)
  | '\'' :: rest => (readLiteral rest).map fun (s, after) => (String.ofList s, after)
  | _ => none

/-- The string of any form a text starts with, and the text after it. -/
def readString? (text : List Char) : Option (String × List Char) :=
  match text with
  | '"' :: '"' :: '"' :: rest =>
    (readBasicLines (rest.length + 1) (dropBreak rest)).map fun (s, after) =>
      (String.ofList s, after)
  | '\'' :: '\'' :: '\'' :: rest =>
    (readLiteralLines (rest.length + 1) (dropBreak rest)).map fun (s, after) =>
      (String.ofList s, after)
  | _ => readShort? text

end DiagramDiff.Toml
