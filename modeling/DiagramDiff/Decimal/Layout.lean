import DiagramDiff.Decimal.Shortest

/-!
# Layouts of numbers

The digits of a number are laid out either with the point in its place or with one digit before
the point and an exponent. A `Layout` records which exponents of the leading digit are written in
place, which of two equally short and equally near decimals is taken, whether a whole number keeps
a fraction, and the words for what is no finite number.
-/

namespace DiagramDiff.Decimal

/-- The decisions of a number format. -/
structure Layout where
  /-- Whether a number with this exponent of its leading digit is written with the point in its
  place. -/
  inPlace : Int → Bool
  /-- Which of two equally near decimals is written. -/
  tie : Tie
  /-- What is written after a whole number. -/
  wholeEnd : String
  /-- The word for what is not a number. -/
  nan : String
  /-- The word for an infinity, without its sign. -/
  infinite : String

/-- Messages write every number in place, without a fraction when it is whole, and the greater of
two equally near decimals. -/
def messageLayout : Layout := ⟨fun _ => true, .up, "", "NaN", "inf"⟩

/-- Documents write a number in place when its leading digit stands between the fifth decimal and
the sixteenth digit before the point, always with a fraction. Of two equally near decimals they
take the even one, and they have no word for what is no finite number. -/
def documentLayout : Layout := ⟨fun k => decide (-5 ≤ k ∧ k ≤ 15), .even, ".0", "null", "null"⟩

/-- The digits with the point in its place. -/
def placed (layout : Layout) (d : Digits) : String :=
  let ds := Nat.toDigits 10 d.digits
  let point : Int := ds.length + d.exponent
  if 0 ≤ d.exponent then
    String.ofList (ds ++ List.replicate d.exponent.toNat '0') ++ layout.wholeEnd
  else if 0 < point then
    String.ofList (ds.take point.toNat ++ '.' :: ds.drop point.toNat)
  else String.ofList ('0' :: '.' :: (List.replicate (-point).toNat '0' ++ ds))

/-- The digits with one of them before the point, and an exponent. -/
def scientific (d : Digits) : String :=
  let ds := Nat.toDigits 10 d.digits
  let exponent : Int := ds.length - 1 + d.exponent
  let fraction := if ds.length ≤ 1 then [] else '.' :: ds.drop 1
  String.ofList (ds.take 1 ++ fraction) ++ "e" ++ toString exponent

/-- The text of a number, its sign apart. -/
def unsignedText (layout : Layout) (x : Binary64) : String :=
  if x.isInfinite then layout.infinite
  else if x.magnitude = 0 then "0" ++ layout.wholeEnd
  else
    let d := shortest layout.tie x
    let leading : Int := (Nat.toDigits 10 d.digits).length - 1 + d.exponent
    if layout.inPlace leading then placed layout d else scientific d

/-- The text of a number in a layout. -/
def text (layout : Layout) (x : Binary64) : String :=
  if x.isNaN then layout.nan
  else if x.isNegative then "-" ++ unsignedText layout x else unsignedText layout x

end DiagramDiff.Decimal
