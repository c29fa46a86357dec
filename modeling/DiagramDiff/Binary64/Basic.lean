/-!
# Binary floating point numbers of 64 bits

A number is its bit pattern: a sign bit, eleven bits of exponent and fifty-two of fraction. The
operations that the library needs are exact rational arithmetic followed by one rounding to the
nearest number, halves to the even neighbour, so they are written in natural numbers and evaluate
anywhere.

The pattern itself is the key to both directions. A finite magnitude is `m · 2^q` with
`q ≥ -1074`, and its pattern without the sign is `(q + 1074) · 2^52 + m`: for the subnormal
numbers because `q` is least and `m` is below `2^52`, for the normal ones because the leading bit
of `m` adds one to the exponent field. A carry out of the rounding therefore needs no case of its
own.
-/

namespace DiagramDiff

/-- A floating point number of 64 bits, infinities and values that are not numbers included. -/
structure Binary64 where
  /-- The bit pattern. -/
  bits : UInt64
  deriving DecidableEq, Repr

namespace Binary64

/-! ## Powers -/

/-- The power of two with a natural exponent. -/
def pow2 (k : Nat) : Nat := Nat.pow 2 k

/-- The power of ten with a natural exponent. -/
def pow10 (k : Nat) : Nat := Nat.pow 10 k

/-! ## Parts of a number -/

/-- Whether the sign bit is set. -/
def isNegative (x : Binary64) : Bool := decide (pow2 63 ≤ x.bits.toNat)

/-- The pattern without the sign bit. -/
def magnitude (x : Binary64) : Nat := x.bits.toNat % pow2 63

/-- The magnitude of the infinities; whatever lies above is not a number. -/
def infinityMagnitude : Nat := 2047 * pow2 52

/-- Whether the pattern stands for no number. -/
def isNaN (x : Binary64) : Bool := decide (infinityMagnitude < x.magnitude)

/-- Whether the number is one of the infinities. -/
def isInfinite (x : Binary64) : Bool := x.magnitude == infinityMagnitude

/-- Whether the number is finite. -/
def isFinite (x : Binary64) : Bool := decide (x.magnitude < infinityMagnitude)

/-- The significand `m` of a finite magnitude `m · 2^q`. -/
def significand (x : Binary64) : Nat :=
  if x.magnitude < pow2 52 then x.magnitude else x.magnitude % pow2 52 + pow2 52

/-- The exponent `q` of a finite magnitude `m · 2^q`. -/
def exponent (x : Binary64) : Int :=
  if x.magnitude < pow2 52 then -1074 else (x.magnitude / pow2 52 : Nat) - 1075

/-- The number with a given sign and magnitude. -/
def ofMagnitude (negative : Bool) (magnitude : Nat) : Binary64 :=
  ⟨UInt64.ofNat (magnitude + if negative then pow2 63 else 0)⟩

/-- Zero. -/
def zero : Binary64 := ofMagnitude false 0

/-- One. -/
def one : Binary64 := ofMagnitude false (1023 * pow2 52)

/-- The infinity of a sign. -/
def infinity (negative : Bool) : Binary64 := ofMagnitude negative infinityMagnitude

/-- The usual pattern that stands for no number. -/
def nan : Binary64 := ofMagnitude false (infinityMagnitude + pow2 51)

/-! ## Order -/

/-- The place of a number in the order: its magnitude, counted downwards for negative numbers. Both
zeros have the same place. -/
def place (x : Binary64) : Int := if x.isNegative then -(x.magnitude : Int) else x.magnitude

/-- Whether one number is less than or equal to another. What is not a number has no place in the
order: it is neither above nor below anything, nor equal to itself. -/
def le (x y : Binary64) : Bool := !x.isNaN && !y.isNaN && decide (x.place ≤ y.place)

/-- Whether one number is less than another. -/
def lt (x y : Binary64) : Bool := !x.isNaN && !y.isNaN && decide (x.place < y.place)

/-! ## Rounding -/

/-- The largest `e` with `2^e ≤ n / d`, for positive `n` and `d`. -/
def log2Ratio (n d : Nat) : Int :=
  let e : Int := (n.log2 : Int) - d.log2
  if d * pow2 e.toNat ≤ n * pow2 (-e).toNat then e else e - 1

/-- The quotient rounded to the nearest natural number, a half to the even one. -/
def roundDiv (n d : Nat) : Nat :=
  let below := n / d
  let twice := 2 * (n % d)
  if d < twice ∨ (twice = d ∧ below % 2 = 1) then below + 1 else below

/-- The magnitude nearest to `n / d`; quotients too large for a finite number become infinite. -/
def nearestMagnitude (n d : Nat) : Nat :=
  if n = 0 then 0
  else
    let q : Int := max (log2Ratio n d - 52) (-1074)
    let m := roundDiv (n * pow2 (-q).toNat) (d * pow2 q.toNat)
    min ((q + 1074).toNat * pow2 52 + m) infinityMagnitude

/-- The number nearest to `n / d`. -/
def ofRatio (negative : Bool) (n d : Nat) : Binary64 :=
  ofMagnitude negative (nearestMagnitude n d)

/-- The number nearest to a natural number. -/
def ofNat (n : Nat) : Binary64 := ofRatio false n 1

/-- The number nearest to an integer. -/
def ofInt (i : Int) : Binary64 := ofRatio (decide (i < 0)) i.natAbs 1

/-- The number of decimal digits of a natural number, zero having none. -/
def decimalLength (n : Nat) : Nat := if n = 0 then 0 else (Nat.toDigits 10 n).length

/-- The number nearest to `n · 10^e`. Powers of ten beyond the range of the finite numbers are not
formed. -/
def ofDecimal (negative : Bool) (n : Nat) (e : Int) : Binary64 :=
  let top := (decimalLength n : Int) + e
  if n = 0 ∨ top < -330 then ofMagnitude negative 0
  else if 320 < top then infinity negative
  else ofRatio negative (n * pow10 e.toNat) (pow10 (-e).toNat)

/-! ## Arithmetic

Finite numbers are fractions of natural numbers with a sign, so each operation is the exact
fraction, rounded once. -/

/-- The numerator of a finite magnitude. -/
def numerator (x : Binary64) : Nat := x.significand * pow2 x.exponent.toNat

/-- The denominator of a finite magnitude. -/
def denominator (x : Binary64) : Nat := pow2 (-x.exponent).toNat

/-- The product of two finite numbers. -/
def mul (x y : Binary64) : Binary64 :=
  ofRatio (x.isNegative != y.isNegative) (x.numerator * y.numerator)
    (x.denominator * y.denominator)

/-- The quotient of two finite numbers, of which the second is not zero. -/
def div (x y : Binary64) : Binary64 :=
  ofRatio (x.isNegative != y.isNegative) (x.numerator * y.denominator)
    (x.denominator * y.numerator)

/-- One minus the number nearest to `n / d`, rounded, for `n ≤ d`. -/
def oneMinusRatio (n d : Nat) : Binary64 :=
  let x := ofRatio false n d
  ofRatio false (x.denominator - x.numerator) x.denominator

end Binary64

end DiagramDiff
