import ForeignCall.Number.Shortest

/-!
# Decimal text of a number

A shortest decimal is written positionally, as `1234.5`, or with an exponent, as `1.2345e+3`. Which
of the two, and whether an integer keeps a final `.0`, is for the format to say.

## Main definitions

* `Layout`: the decisions of a text format;
* `positional`, `scientific`: the two ways of writing a coefficient with an exponent;
* `Layout.write`: the text of a finite number.
-/

namespace ForeignCall.Number

/-- The decisions of a decimal text format. The *decade* of a number is the exponent of its leading
digit. -/
structure Layout where
  /-- Which of two equally near decimals is written. -/
  tie : Tie
  /-- Whether a decade is written positionally. -/
  isPositional : Int → Bool
  /-- Whether an integer of a decade ends in `.0`. -/
  marksWhole : Int → Bool
  /-- The text between the mantissa and a positive exponent. -/
  exponentMark : List Char

/-- `n` zeros. -/
def zeros (n : Nat) : List Char := List.replicate n '0'

/-- The value `coefficient * 10 ^ exponent` in positional notation. -/
def positional (coefficient : Nat) (exponent : Int) (marked : Bool) : List Char :=
  let ds := digits coefficient
  if 0 ≤ exponent then
    ds ++ zeros exponent.toNat ++ if marked then ['.', '0'] else []
  else
    let places := (-exponent).toNat
    if places < ds.length then
      ds.take (ds.length - places) ++ '.' :: ds.drop (ds.length - places)
    else '0' :: '.' :: (zeros (places - ds.length) ++ ds)

/-- The value `coefficient * 10 ^ exponent` with one digit before the point and an exponent. -/
def scientific (coefficient : Nat) (exponent : Int) (mark : List Char) : List Char :=
  let ds := digits coefficient
  let power := exponent + (ds.length - 1 : Nat)
  let mantissa := ds.take 1 ++ if ds.length ≤ 1 then [] else '.' :: ds.drop 1
  mantissa ++ if 0 ≤ power then mark ++ digits power.toNat else 'e' :: '-' :: digits (-power).toNat

/-- The text of a finite number. -/
def Layout.write (l : Layout) (x : Double) : List Char :=
  let sign := if x.isNegative then ['-'] else []
  if x.rank = 0 then sign ++ positional 0 0 (l.marksWhole 0)
  else
    let (c, k) := shortest l.tie x
    let decade := k + ((digits c).length - 1 : Nat)
    sign ++
      if l.isPositional decade then positional c k (l.marksWhole decade)
      else scientific c k l.exponentMark

end ForeignCall.Number
