import DiagramDiff.Binary64.Basic
import DiagramDiff.Unicode.LetterCase

/-!
# Similarity of names

Two names are as similar as the share of their characters that a longest common subsequence
covers, letter case aside. The share is computed as one minus the share of the characters that
are left over, each step rounded once, so that it is the same number on every machine.
-/

namespace DiagramDiff

open Unicode

namespace Similarity

/-- One row of the table of common subsequence lengths: entry `j` of the new row speaks of the
first `j` characters of the second text, the old row of a first text shorter by `c`. -/
def nextRow (c : Char) : (diagonal left : Nat) → List Char → List Nat → List Nat
  | diagonal, left, d :: rest, above :: aboves =>
    let entry := if c = d then diagonal + 1 else max left above
    entry :: nextRow c above entry rest aboves
  | _, _, _, _ => []

/-- The length of a longest common subsequence. -/
def commonLength (a b : List Char) : Nat :=
  let last := a.foldl (fun row c => nextRow c 0 0 b row) (b.map fun _ => 0)
  last.getLast?.getD 0

/-- The similarity of two texts, between zero and one. -/
def ofChars (a b : List Char) : Binary64 :=
  let total := a.length + b.length
  if total = 0 then Binary64.one
  else Binary64.oneMinusRatio (total - 2 * commonLength a b) total

end Similarity

/-- The similarity of two names, letter case aside. -/
def similarity (a b : String) : Binary64 :=
  Similarity.ofChars (lowerCase a.toList) (lowerCase b.toList)

end DiagramDiff
