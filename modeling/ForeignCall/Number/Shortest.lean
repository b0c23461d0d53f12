import ForeignCall.Number.Decimal

/-!
# The shortest decimal that reads back

Every finite double precision number rounds from an interval of reals around it. Its shortest
decimal is the first decimal in that interval when the grids of one digit, two digits, and so on are
searched in turn; on the first grid with a hit the decimal nearest to the number is taken. Seventeen
digits always suffice.

## Main definitions

* `Neighbourhood`: a positive number together with the interval that rounds to it;
* `Neighbourhood.onGrid?`: the nearest multiple of a power of ten inside the interval;
* `shortest`: coefficient and exponent of the shortest decimal of a finite, non-zero number.
-/

namespace ForeignCall.Number

/-- Which of two equally near decimals is taken. -/
inductive Tie where
  /-- The one farther from zero. -/
  | away
  /-- The one with the even last digit. -/
  | even
  deriving DecidableEq, Repr

/-- A positive number and the reals that round to it. All three are fractions over `scale`; the
ends of the interval belong to it when `closed` is set. -/
structure Neighbourhood where
  value : Nat
  low : Nat
  high : Nat
  scale : Nat
  closed : Bool
  deriving Repr

namespace Neighbourhood

/-- The neighbourhood of the magnitude of a finite number. Above a power of two the gap to the next
number is twice the gap below. -/
def ofDouble (x : Double) : Neighbourhood :=
  let m := x.significand
  let e := x.exponent
  let unit := powNum 2 e
  let below := if m = Format.double.binade ∧ Format.double.leastExponent < e then 1 else 2
  { value := 4 * m * unit
    low := (4 * m - below) * unit
    high := (4 * m + 2) * unit
    scale := 4 * powDen 2 e
    closed := m % 2 == 0 }

variable (v : Neighbourhood)

/-- Whether the fraction `num / den` lies in the interval. -/
def contains (num den : Nat) : Bool :=
  let x := num * v.scale
  if v.closed then v.low * den ≤ x && x ≤ v.high * den else v.low * den < x && x < v.high * den

/-- The exponent of the leading decimal digit, for numbers of at least `10 ^ (-350)`. -/
def decade : Int :=
  ((digits (v.value * Nat.pow 10 350 / v.scale)).length : Int) - 351

/-- The multiple of `10 ^ k` inside the interval that is nearest to the number. -/
def onGrid? (tie : Tie) (k : Int) : Option Nat :=
  let num := powNum 10 k
  let den := powDen 10 k
  let c := v.value * den / (num * v.scale)
  match v.contains (c * num) den, v.contains ((c + 1) * num) den with
  | false, false => none
  | true, false => some c
  | false, true => some (c + 1)
  | true, true =>
    let twice := 2 * v.value * den
    let middle := (2 * c + 1) * num * v.scale
    if twice < middle then some c
    else if middle < twice then some (c + 1)
    else
      match tie with
      | .away => some (c + 1)
      | .even => some (if c % 2 = 0 then c else c + 1)

end Neighbourhood

/-- Moves the trailing zeros of a coefficient into the exponent; the first argument bounds their
number. -/
def stripZeros : Nat → Nat → Int → Nat × Int
  | 0, c, k => (c, k)
  | n + 1, c, k => if c % 10 = 0 then stripZeros n (c / 10) (k + 1) else (c, k)

/-- Coefficient and exponent of the shortest decimal that rounds to the magnitude of a finite
number other than zero. -/
def shortest (tie : Tie) (x : Double) : Nat × Int :=
  let v := Neighbourhood.ofDouble x
  let top := v.decade
  let hit := (List.range 17).findSome? fun (n : Nat) =>
    let k : Int := top - n
    (v.onGrid? tie k).map fun c => (c, k)
  match hit with
  | some (c, k) => stripZeros 17 c k
  | none => (0, 0)

end ForeignCall.Number
