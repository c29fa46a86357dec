import DiagramDiff.Json.Basic

/-!
# Numbers of JSON

A number without fraction and exponent that fits into 64 bits is an integer. Every other number is
a floating point number, computed from a significand and a power of ten.

The significand is a natural number below `2^64`. Digits are absorbed into it while it stays
below; where one no longer fits, the rest of the whole digits only count for the power of ten, and
the rest of the fraction counts for nothing. The significand is rounded, and then it is multiplied
or divided by a power of ten that is itself rounded. A number of many digits or of a large
exponent may therefore differ in its last place from the one nearest to its text; up to fifteen
digits and twenty-two powers of ten both factors are exact and the result is the nearest.
-/

namespace DiagramDiff.Json

/-! ## Digits -/

/-- The value of a decimal digit. -/
def digitValue (c : Char) : Nat := c.toNat - '0'.toNat

/-- The natural number that decimal digits write. -/
def ofDigits (digits : List Char) : Nat := digits.foldl (fun n c => n * 10 + digitValue c) 0

/-- A significand after the digits that it can absorb, and the digits from the first one on that
would take it to `2^64` or beyond. -/
def absorb : (significand : Nat) → List Char → Nat × List Char
  | n, [] => (n, [])
  | n, c :: rest =>
    if n * 10 + digitValue c < Binary64.pow2 64 then absorb (n * 10 + digitValue c) rest
    else (n, c :: rest)

/-! ## Values -/

/-- The floating point number nearest to a power of ten up to the 308th. -/
def powerOfTen (k : Nat) : Binary64 := Binary64.ofDecimal false 1 k

/-- A significand times a power of ten. A result beyond the finite numbers is refused. A divisor
beyond the 308th power is split into that power and what is left, and below `10^-616` nothing
remains of any significand. -/
def scaled? (significand : Nat) (exponent : Int) : Option Binary64 :=
  let x := Binary64.ofNat significand
  if significand = 0 ∨ exponent < -616 then some Binary64.zero
  else if exponent < -308 then
    some ((x.div (powerOfTen 308)).div (powerOfTen (-exponent - 308).toNat))
  else if exponent < 0 then some (x.div (powerOfTen (-exponent).toNat))
  else if exponent ≤ 308 then
    let y := x.mul (powerOfTen exponent.toNat)
    if y.isFinite then some y else none
  else none

/-- The floating point number with a sign and the magnitude of another one. -/
def withSign (negative : Bool) (x : Binary64) : Binary64 :=
  Binary64.ofMagnitude negative x.magnitude

/-- The number that a sign and a significand write. There is no negative integer zero, and none
below `-2^63`. -/
def integer (negative : Bool) (n : Nat) : Json :=
  if negative then
    if n = 0 ∨ Binary64.pow2 63 < n then .float (withSign true (Binary64.ofNat n)) else .int (-n)
  else .int n

/-- The number that a sign, whole digits, the digits of a fraction and an exponent write, as far as
there are a fraction and an exponent. -/
def ofParts? (negative : Bool) (whole fraction : List Char) (exponent : Option Int) :
    Option Json :=
  let (n, dropped) := absorb 0 whole
  if dropped.isEmpty && fraction.isEmpty && exponent.isNone then some (integer negative n)
  else
    let (m, ignored) := absorb n fraction
    let shift : Int := dropped.length - (fraction.length - ignored.length : Nat)
    (scaled? m (shift + exponent.getD 0)).map fun x => .float (withSign negative x)

/-! ## Texts -/

/-- An optional fraction: its digits and the text after it. A point without digits is refused. -/
def readFraction? (text : List Char) : Option (List Char × List Char) :=
  match text with
  | '.' :: rest =>
    match rest.takeWhile Char.isDigit with
    | [] => none
    | digits => some (digits, rest.dropWhile Char.isDigit)
  | _ => some ([], text)

/-- An optional exponent, if there is one, and the text after it. A mark without digits is
refused. -/
def readExponent? (text : List Char) : Option (Option Int × List Char) :=
  match text with
  | c :: rest =>
    if c = 'e' ∨ c = 'E' then
      let (negative, rest) : Bool × List Char :=
        match rest with
        | '-' :: rest => (true, rest)
        | '+' :: rest => (false, rest)
        | rest => (false, rest)
      match rest.takeWhile Char.isDigit with
      | [] => none
      | digits =>
        let n : Int := ofDigits digits
        some (some (if negative then -n else n), rest.dropWhile Char.isDigit)
    else some (none, text)
  | [] => some (none, text)

/-- A number after its sign. Of several whole digits the first is not zero. -/
def readUnsigned? (negative : Bool) (text : List Char) : Option (Json × List Char) :=
  match text.takeWhile Char.isDigit with
  | [] => none
  | whole =>
    if whole.head? = some '0' ∧ 1 < whole.length then none
    else
      match readFraction? (text.dropWhile Char.isDigit) with
      | none => none
      | some (fraction, after) =>
        match readExponent? after with
        | none => none
        | some (exponent, rest) =>
          (ofParts? negative whole fraction exponent).map fun j => (j, rest)

/-- A number. -/
def readNumber? (text : List Char) : Option (Json × List Char) :=
  match text with
  | '-' :: rest => readUnsigned? true rest
  | _ => readUnsigned? false text

end DiagramDiff.Json
