import ForeignCall.Number.Binary

/-!
# Decimal numerals

Numerals with an optional sign, a mantissa of decimal digits with at most one point, and an
optional exponent, read to their exact value and then rounded once to double precision.

## Main definitions

* `Decimal`: the exact value of a numeral, `± coefficient * 10 ^ exponent`;
* `Decimal.read?`: the numeral that a list of characters is, if it is one;
* `Decimal.toDouble`: the double precision number nearest to a decimal value.
-/

namespace ForeignCall.Number

/-- The value `± coefficient * 10 ^ exponent`. A negative zero is told from a positive one. -/
structure Decimal where
  negative : Bool
  coefficient : Nat
  exponent : Int
  deriving DecidableEq, Repr

/-- The digit that a decimal digit character stands for. -/
def digitValue (c : Char) : Nat := c.toNat - '0'.toNat

/-- The number that a list of decimal digits denotes. -/
def ofDigits (cs : List Char) : Nat :=
  cs.foldl (fun n c => n * 10 + digitValue c) 0

/-- The decimal digits of a number. -/
def digits (n : Nat) : List Char := Nat.toDigits 10 n

/-- Splits off one leading sign; the flag tells whether it was a minus. -/
def splitSign : List Char → Bool × List Char
  | '-' :: cs => (true, cs)
  | '+' :: cs => (false, cs)
  | cs => (false, cs)

namespace Decimal

/-- Reads what follows a mantissa: nothing, or `e` or `E` with an optionally signed number. -/
def readExponent? : List Char → Option Int
  | [] => some 0
  | c :: cs =>
    if c = 'e' ∨ c = 'E' then
      let (negative, ds) := splitSign cs
      if ds ≠ [] ∧ ds.all Char.isDigit then
        some (if negative then -(ofDigits ds : Int) else ofDigits ds)
      else none
    else none

/-- Splits a mantissa into the digits before its point, those behind it, and what follows. -/
def splitMantissa (cs : List Char) : List Char × List Char × List Char :=
  let whole := cs.takeWhile Char.isDigit
  match cs.dropWhile Char.isDigit with
  | '.' :: rest => (whole, rest.takeWhile Char.isDigit, rest.dropWhile Char.isDigit)
  | rest => (whole, [], rest)

/-- Reads a numeral: an optional sign, a mantissa with at least one digit, an optional exponent. -/
def read? (cs : List Char) : Option Decimal :=
  let (negative, body) := splitSign cs
  let (whole, fraction, rest) := splitMantissa body
  if whole = [] ∧ fraction = [] then none
  else
    (readExponent? rest).map fun e =>
      ⟨negative, ofDigits (whole ++ fraction), e - fraction.length⟩

/-- A bound on the decimal exponents at which a value can still round to a finite number other than
zero: from `10 ^ 310` upward all is infinite, below `10 ^ (-330)` all is zero. -/
def reach : Int := 330

/-- The double precision number nearest to a decimal value. -/
def toDouble (d : Decimal) : Double :=
  let places : Int := (digits d.coefficient).length + d.exponent
  if d.coefficient = 0 ∨ places < -reach then .ofRank d.negative 0
  else if reach < places then .ofRank d.negative Format.double.infinity
  else
    .ofRatio d.negative (d.coefficient * powNum 10 d.exponent) (powDen 10 d.exponent)

end Decimal

@[simp] theorem splitSign_nil : splitSign [] = (false, []) := rfl

end ForeignCall.Number
