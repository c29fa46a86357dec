import DiagramDiff.Text.Basic
import DiagramDiff.Toml.Value

/-!
# Numbers, truth values and moments of TOML

A scalar that is not quoted is a run of characters up to the next bracket, comma or other
punctuation, blanks inside it included. What kind of scalar it is shows from the outside: a word,
a mark of a base, or what follows the first digits. A run of no kind is an error.

An integer is recognised more freely than it is valued. Behind a first underscore anything but a
space may follow that keeps underscores between digits, and the digits behind a mark of a base may
be missing. Such a run is a scalar without a value, which only matters to whoever wants the value.
-/

namespace DiagramDiff.Toml

/-! ## Digits -/

/-- The value of a digit of a base up to sixteen. -/
def digitValue (c : Char) : Nat :=
  if c.isDigit then c.toNat - '0'.toNat
  else if 'a' ≤ c ∧ c ≤ 'f' then c.toNat - 'a'.toNat + 10
  else c.toNat - 'A'.toNat + 10

/-- The number that digits of a base write. -/
def ofDigits (base : Nat) (digits : List Char) : Nat :=
  digits.foldl (fun n c => n * base + digitValue c) 0

/-- A hexadecimal digit. -/
def isHexDigit (c : Char) : Bool :=
  c.isDigit || decide ('a' ≤ c ∧ c ≤ 'f') || decide ('A' ≤ c ∧ c ≤ 'F')

/-- An octal digit. -/
def isOctalDigit (c : Char) : Bool := '0' ≤ c && c ≤ '7'

/-- A binary digit. -/
def isBinaryDigit (c : Char) : Bool := c == '0' || c == '1'

/-- The decimal digits that a run consists of. -/
def digits? (run : List Char) : Option (List Char) :=
  if !run.isEmpty && run.all Char.isDigit then some run else none

/-- Whether every underscore of a run stands between two digits; `free` says whether one may stand
at the start of the run all the same. -/
def underscoresFit (isDigit : Char → Bool) : (free : Bool) → List Char → Bool
  | _, [] => true
  | free, '_' :: rest => free && rest.head?.any isDigit && underscoresFit isDigit false rest
  | _, c :: rest => underscoresFit isDigit (isDigit c) rest

/-- A run without its underscores. -/
def dropUnderscores (run : List Char) : List Char := run.filter (· != '_')

/-- The sign a run may start with, true for a minus, and the run without it. -/
def splitSign (run : List Char) : Option Bool × List Char :=
  match run with
  | '-' :: rest => (some true, rest)
  | '+' :: rest => (some false, rest)
  | _ => (none, run)

/-! ## Integers -/

/-- The integer with a sign and a magnitude. -/
def signed (negative : Bool) (n : Nat) : Int := if negative then -n else n

/-- The integer that a run writes behind the mark of its base. -/
def basedInteger? (base : Nat) (isDigit : Char → Bool) (run : List Char) : Option Value :=
  if run.all (fun c => isDigit c || c == '_') && underscoresFit isDigit false run then
    let digits := dropUnderscores run
    some (if digits.isEmpty then .unvalued else .integer (ofDigits base digits))
  else none

/-- The integer that a run in base ten writes behind its sign. It starts with zero only if it is
zero, and an underscore may follow the sign. -/
def integer? (sign : Option Bool) (body : List Char) : Option Value :=
  let shaped := !body.isEmpty && (body.dropWhile Char.isDigit).head?.all (· == '_')
  let leadsWell := body == ['0'] || body.head? != some '0'
  if shaped && leadsWell && underscoresFit isHexDigit sign.isSome body then
    match digits? (dropUnderscores body) with
    | some digits => some (.integer (signed (sign.getD false) (ofDigits 10 digits)))
    | none => some .unvalued
  else none

/-! ## Floating point numbers -/

/-- The floating point number nearest to a decimal. -/
def decimal (negative : Bool) (digits : List Char) (exponent : Int) : Value :=
  let x := Binary64.ofDecimal negative (ofDigits 10 digits) exponent
  if x.isFinite then .float x else .unvalued

/-- The digits of a fraction with its point, or none if there is no point. -/
def fraction? (run : List Char) : Option (List Char) :=
  match run with
  | [] => some []
  | _ :: rest => digits? rest

/-- The exponent that a run with its mark writes, or zero if the run is empty. -/
def exponent? (run : List Char) : Option Int :=
  match run with
  | [] => some 0
  | _ :: rest =>
    let (sign, rest) := splitSign rest
    (digits? rest).map fun ds => signed (sign.getD false) (ofDigits 10 ds)

/-- A mark of an exponent. -/
def isExponentMark (c : Char) : Bool := c == 'e' || c == 'E'

/-- The floating point number that a run writes behind its sign: whole digits, of which several do
not start with zero, with a fraction, an exponent or both. An underscore may follow the sign. -/
def float? (sign : Option Bool) (body : List Char) : Option Value :=
  let plain := dropUnderscores body
  let mantissa := plain.takeWhile (!isExponentMark ·)
  let power := plain.dropWhile (!isExponentMark ·)
  let whole := mantissa.takeWhile (· != '.')
  let leadsWell := whole == ['0'] || body.head? != some '0'
  if !leadsWell || !underscoresFit Char.isDigit sign.isSome body then none
  else
    match digits? whole, fraction? (mantissa.dropWhile (· != '.')), exponent? power with
    | some whole, some fraction, some exponent =>
      some (decimal (sign.getD false) (whole ++ fraction) (exponent - fraction.length))
    | _, _, _ => none

/-! ## Moments -/

/-- The number that the first two digits of a run write, and the rest of the run. -/
def twoDigits? (run : List Char) : Option (Nat × List Char) :=
  match run with
  | a :: b :: rest =>
    if a.isDigit && b.isDigit then some (ofDigits 10 [a, b], rest) else none
  | _ => none

/-- The number of days of a month. -/
def daysOf (year month : Nat) : Nat :=
  if month = 2 then
    if year % 4 = 0 ∧ (year % 100 ≠ 0 ∨ year % 400 = 0) then 29 else 28
  else if month = 4 ∨ month = 6 ∨ month = 9 ∨ month = 11 then 30
  else 31

/-- The run after the date it starts with. -/
def skipDate? (run : List Char) : Option (List Char) := do
  let (century, rest) ← twoDigits? run
  let (year, rest) ← twoDigits? rest
  let rest ← ['-'].isPrefixOf? rest
  let (month, rest) ← twoDigits? rest
  let rest ← ['-'].isPrefixOf? rest
  let (day, rest) ← twoDigits? rest
  if 1 ≤ month ∧ month ≤ 12 ∧ 1 ≤ day ∧ day ≤ daysOf (century * 100 + year) month then some rest
  else none

/-- The run after the fraction of a second it may start with. -/
def skipFraction? (run : List Char) : Option (List Char) :=
  match run with
  | '.' :: c :: rest => if c.isDigit then some (rest.dropWhile Char.isDigit) else none
  | '.' :: [] => none
  | _ => some run

/-- The run after the seconds it may start with, colon included. -/
def skipSeconds? (run : List Char) : Option (List Char) :=
  match run with
  | ':' :: rest =>
    match twoDigits? rest with
    | some (second, rest) => if second ≤ 60 then skipFraction? rest else none
    | none => none
  | _ => some run

/-- The run after the time of day it starts with. -/
def skipTime? (run : List Char) : Option (List Char) := do
  let (hour, rest) ← twoDigits? run
  let rest ← [':'].isPrefixOf? rest
  let (minute, rest) ← twoDigits? rest
  if hour ≤ 23 ∧ minute ≤ 59 then skipSeconds? rest else none

/-- Whether a run is an offset from universal time, or empty. -/
def isOffset (run : List Char) : Bool :=
  match run with
  | [] | ['Z'] | ['z'] => true
  | c :: rest =>
    match (c == '+' || c == '-'), twoDigits? rest with
    | true, some (hour, ':' :: rest) =>
      match twoDigits? rest with
      | some (minute, []) => decide (hour ≤ 23 ∧ minute ≤ 59)
      | _ => false
    | _, _ => false

/-- Whether a run is a date, a time of day, or both with an optional offset. -/
def isMoment (run : List Char) : Bool :=
  match skipDate? run with
  | some [] => true
  | some (c :: rest) =>
    (c == 'T' || c == 't' || c == ' ') && ((skipTime? rest).map isOffset).getD false
  | none => skipTime? run == some []

/-! ## Scalars -/

/-- A character that belongs to an unquoted run. Quotes do, unless a word of the run would start
with one. -/
def isRunChar (c : Char) : Bool :=
  !(Text.isBlank c || c == '=' || c == ',' || c == '[' || c == ']' || c == '{' || c == '}' ||
    c == '#' || c == '\r' || c == '\n')

/-- Whether a word of an unquoted run starts a text. -/
def startsWord (text : List Char) : Bool :=
  text.head?.any fun c => isRunChar c && c != '"' && c != '\''

/-- The unquoted run a text starts with, and the text after it. Blanks belong to the run if another
word follows them. -/
def readRun : List Char → List Char × List Char
  | [] => ([], [])
  | c :: rest =>
    if isRunChar c || (Text.isBlank c && startsWord (Text.dropBlanks rest)) then
      let (run, after) := readRun rest
      (c :: run, after)
    else ([], c :: rest)

/-- A run and what follows it make up the text. -/
@[simp] theorem readRun_append (text : List Char) :
    (readRun text).1 ++ (readRun text).2 = text := by
  induction text with
  | nil => rfl
  | cons c rest ih =>
    unfold readRun
    split
    · simp [ih]
    · rfl

/-- The number or moment of a run with a sign and the body behind it, by what follows the first
digits of the body: a moment is told by a hyphen or a colon, and a floating point number by a point
or a mark of an exponent. No number has a space in it. -/
def numberOrMoment? (run : List Char) (sign : Option Bool) (body : List Char) : Option Value :=
  let rest := body.dropWhile Char.isDigit
  if rest.head? == some '-' || rest.head? == some ':' then
    if isMoment run then some (.moment (String.ofList run)) else none
  else if rest.contains ' ' then none
  else if rest.any (fun c => c == '.' || isExponentMark c) then float? sign body
  else integer? sign body

/-- The value of an unquoted run. A mark of a base is only one behind no sign. -/
def scalar? (run : List Char) : Option Value :=
  if run = "true".toList then some (.bool true)
  else if run = "false".toList then some (.bool false)
  else
    match splitSign run with
    | (sign, ['i', 'n', 'f']) => some (.float (Binary64.infinity (sign.getD false)))
    | (_, ['n', 'a', 'n']) => some (.float Binary64.nan)
    | (none, '0' :: 'x' :: rest) => basedInteger? 16 isHexDigit rest
    | (none, '0' :: 'o' :: rest) => basedInteger? 8 isOctalDigit rest
    | (none, '0' :: 'b' :: rest) => basedInteger? 2 isBinaryDigit rest
    | (sign, body) => numberOrMoment? run sign body

/-- The unquoted value a text starts with, and the text after it. -/
def readScalar? (text : List Char) : Option (Value × List Char) :=
  let (run, rest) := readRun text
  (scalar? run).map fun v => (v, rest)

end DiagramDiff.Toml
