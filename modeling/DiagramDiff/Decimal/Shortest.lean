import DiagramDiff.Binary64.Basic

/-!
# Shortest decimal digits

A finite positive number is written with the fewest decimal digits that read back as the same
number. All reals nearer to it than to its neighbours form an interval, whose ends belong to it
when the significand is even. For one digit, two digits and so on, the two points of the decimal
grid next to the number are tested against the interval; the first grid with a point inside wins,
and of two points the nearer one. An exact tie is left to the caller.

Everything is scaled by four, so that the middle between two neighbours is a natural number also
below a power of two, where the neighbour is half as far away.
-/

namespace DiagramDiff.Decimal

open Binary64 (pow2 pow10)

/-- Which of two equally near decimals is taken. -/
inductive Tie where
  /-- The one that ends in an even digit. -/
  | even
  /-- The greater one. -/
  | up
  deriving DecidableEq, Repr

/-- The quotient rounded to the nearest natural number. -/
def Tie.roundDiv (tie : Tie) (n d : Nat) : Nat :=
  match tie with
  | .even => Binary64.roundDiv n d
  | .up => (2 * n + d) / (2 * d)

/-- Decimal digits with the place of the point: `digits · 10^exponent`. -/
structure Digits where
  /-- The digits, read as a natural number. -/
  digits : Nat
  /-- The power of ten they are multiplied by. -/
  exponent : Int
  deriving DecidableEq, Repr

/-- A positive number with the interval of the reals that round to it, in units of
`2^exponent`. -/
structure Interval where
  /-- The number. -/
  value : Nat
  /-- The lower end. -/
  low : Nat
  /-- The upper end. -/
  high : Nat
  /-- Whether the ends belong to the interval. -/
  closed : Bool
  /-- The power of two that is the unit. -/
  exponent : Int
  deriving DecidableEq, Repr

/-- The interval of a finite positive number. -/
def Interval.of (x : Binary64) : Interval :=
  let m := x.significand
  let narrow := m == pow2 52 && decide (-1074 < x.exponent)
  { value := 4 * m
    low := if narrow then 4 * m - 1 else 4 * m - 2
    high := 4 * m + 2
    closed := m % 2 == 0
    exponent := x.exponent - 2 }

/-- The power of ten of the leading digit of `n / d`: the largest `k` with `10^k ≤ n / d`, found
from an estimate that is at most one too large or too small. -/
def leadingExponent (n d : Nat) : Int :=
  let estimate : Int := (Binary64.log2Ratio n d * 30103) / 100000
  let reaches (k : Int) : Bool := decide (d * pow10 k.toNat ≤ n * pow10 (-k).toNat)
  if reaches (estimate + 1) then estimate + 1
  else if reaches estimate then estimate
  else estimate - 1

/-- Whether `k · 10^e` lies in the interval. -/
def Interval.holds (i : Interval) (k : Nat) (e : Int) : Bool :=
  let two (n : Nat) := n * pow2 i.exponent.toNat * pow10 (-e).toNat
  let point := k * pow10 e.toNat * pow2 (-i.exponent).toNat
  if i.closed then decide (two i.low ≤ point ∧ point ≤ two i.high)
  else decide (two i.low < point ∧ point < two i.high)

/-- The point of the grid of spacing `10^e` that lies in the interval and is nearest to its
number. -/
def Interval.nearestOnGrid? (i : Interval) (tie : Tie) (e : Int) : Option Nat :=
  let n := i.value * pow2 i.exponent.toNat * pow10 (-e).toNat
  let d := pow10 e.toNat * pow2 (-i.exponent).toNat
  let below := n / d
  let above := below + 1
  match i.holds below e, i.holds above e with
  | true, true => some (tie.roundDiv n d)
  | true, false => some below
  | false, true => some above
  | false, false => none

/-- The shortest digits, looking at `count` more grids, the next of which has spacing `10^e`. Where
no grid has a point inside, the last digits tried are the answer. -/
def Interval.shortestFrom (i : Interval) (tie : Tie) : (count : Nat) → (e : Int) → Digits
  | 0, e =>
    ⟨i.value * pow2 i.exponent.toNat * pow10 (-e).toNat /
      (pow10 e.toNat * pow2 (-i.exponent).toNat), e⟩
  | count + 1, e =>
    match i.nearestOnGrid? tie e with
    | some digits => ⟨digits, e⟩
    | none => i.shortestFrom tie count (e - 1)

/-- The digits without zeros at their end, of which at most `fuel` are removed. -/
def Digits.normalFrom : (fuel : Nat) → Digits → Digits
  | 0, d => d
  | fuel + 1, d =>
    if d.digits ≠ 0 ∧ d.digits % 10 = 0 then normalFrom fuel ⟨d.digits / 10, d.exponent + 1⟩ else d

/-- The shortest digits of a finite positive number. Seventeen digits always suffice. -/
def shortest (tie : Tie) (x : Binary64) : Digits :=
  let i := Interval.of x
  let n := i.value * pow2 i.exponent.toNat
  let d := pow2 (-i.exponent).toNat
  Digits.normalFrom 20 (i.shortestFrom tie 17 (leadingExponent n d))

end DiagramDiff.Decimal
