import ForeignCall.Number.Rounding

/-!
# Binary floating-point numbers

Single and double precision numbers as the words that hold them. A word without its sign bit, read
as a natural number, is the *rank* of the magnitude: ranks grow with the magnitude, rank `0` is
zero, and all ranks above the one of infinity are no numbers. Every operation here is exact
arithmetic on ranks followed by one rounding, a half going to the even neighbour.

## Main definitions

* `Format`: a binary format, with `Format.significand` and `Format.exponent` taking a rank apart
  and `Format.rankOfRatio` rounding a fraction to a rank;
* `Double`: a double precision number, `Double.ofRatio` and `Double.ofInt` building one;
* `Double.truncate`, `Double.toIntWithin`: the integer part, free or clamped into a range;
* `Double.toSingle`, `Double.ofSingle`: the conversions between the two precisions.

## Main results

* `Format.rankOfRatio_le_infinity`: rounding gives a number or infinity, never a word that is no
  number;
* `Double.ofRank_rank`: a number is its sign and its rank.
-/

namespace ForeignCall.Number

/-- A binary interchange format. -/
structure Format where
  /-- The bits of the significand, the leading one included. -/
  precision : Nat
  /-- The width of the exponent field. -/
  exponentBits : Nat
  deriving DecidableEq, Repr

/-- The format of single precision numbers. -/
def Format.single : Format := ⟨24, 8⟩

/-- The format of double precision numbers. -/
def Format.double : Format := ⟨53, 11⟩

namespace Format

variable (f : Format)

/-- The number of ranks that share an exponent. -/
def binade : Nat := Nat.pow 2 (f.precision - 1)

/-- The exponent of the last place of the smallest magnitudes. -/
def leastExponent : Int := 3 - (Nat.pow 2 (f.exponentBits - 1) : Int) - (f.precision : Int)

/-- The rank of infinity. -/
def infinity : Nat := (Nat.pow 2 f.exponentBits - 1) * f.binade

/-- The significand of a finite rank, an integer. -/
def significand (rank : Nat) : Nat :=
  if rank < f.binade then rank else rank % f.binade + f.binade

/-- The exponent of the last place of a finite rank: the magnitude is
`significand * 2 ^ exponent`. -/
def exponent (rank : Nat) : Int :=
  f.leastExponent + ((rank / f.binade : Nat) - 1 : Nat)

/-- The rank nearest to the fraction `num / den`, for positive `den`. -/
def rankOfRatio (num den : Nat) : Nat :=
  if num = 0 then 0
  else
    let e := max f.leastExponent (floorLog2 num den - ((f.precision : Int) - 1))
    let m := divNearestEven (num * powDen 2 e) (den * powNum 2 e)
    min f.infinity (m + (e - f.leastExponent).toNat * f.binade)

theorem rankOfRatio_le_infinity (num den : Nat) : f.rankOfRatio num den ≤ f.infinity := by
  simp only [rankOfRatio]
  split
  · exact Nat.zero_le _
  · exact Nat.min_le_left _ _

end Format

/-- A double precision number, as the word that holds it. -/
structure Double where
  bits : UInt64
  deriving DecidableEq, Repr

namespace Double

/-- The weight of the sign bit. -/
def signWeight : Nat := 0x8000000000000000

/-- Whether the sign bit is set. -/
def isNegative (x : Double) : Bool :=
  signWeight ≤ x.bits.toNat

/-- The word without its sign bit. -/
def rank (x : Double) : Nat :=
  x.bits.toNat % signWeight

/-- The number with a given sign and rank. -/
def ofRank (negative : Bool) (rank : Nat) : Double :=
  ⟨UInt64.ofNat (rank + if negative then signWeight else 0)⟩

/-- Positive zero. -/
def zero : Double := ⟨0⟩

/-- Positive infinity. -/
def infinity : Double := ofRank false Format.double.infinity

/-- The least positive word that is no number and raises no signal. -/
def nan : Double := ofRank false (Format.double.infinity + Format.double.binade / 2)

/-- Whether the word is no number. -/
def isNaN (x : Double) : Bool :=
  Format.double.infinity < x.rank

/-- Whether the word is a number other than the two infinities. -/
def isFinite (x : Double) : Bool :=
  x.rank < Format.double.infinity

/-- The integer significand of a finite number. -/
def significand (x : Double) : Nat :=
  Format.double.significand x.rank

/-- The exponent that goes with `significand`. -/
def exponent (x : Double) : Int :=
  Format.double.exponent x.rank

/-- The number nearest to `num / den`, with a given sign, for positive `den`. -/
def ofRatio (negative : Bool) (num den : Nat) : Double :=
  ofRank negative (Format.double.rankOfRatio num den)

/-- The number nearest to an integer. -/
def ofInt (i : Int) : Double :=
  ofRatio (i < 0) i.natAbs 1

/-- The number with the other sign. -/
def neg (x : Double) : Double :=
  ⟨x.bits ^^^ 0x8000000000000000⟩

/-- The magnitude of a finite number without its fraction. -/
def wholePart (x : Double) : Nat :=
  x.significand * powNum 2 x.exponent / powDen 2 x.exponent

/-- A finite number without its fraction, that is, truncated toward zero. -/
def truncate (x : Double) : Int :=
  if x.isNegative then -(x.wholePart : Int) else x.wholePart

/-- The number truncated toward zero and clamped into the range from `low` to `high`; a word that is
no number gives zero. -/
def toIntWithin (low high : Int) (x : Double) : Int :=
  if x.isNaN then 0
  else if x.isFinite then max low (min high x.truncate)
  else if x.isNegative then low else high

/-- Whether the number is below zero. -/
def isBelowZero (x : Double) : Bool :=
  x.isNegative && x.rank != 0 && !x.isNaN

/-- Whether the number is at least `2 ^ 64`. -/
def reachesTwoPow64 (x : Double) : Bool :=
  !x.isNegative && !x.isNaN && Format.double.rankOfRatio 0x10000000000000000 1 ≤ x.rank

/-! ### The two precisions -/

/-- The weight of the sign bit of a single precision word. -/
def singleSign : Nat := 0x80000000

/-- The single precision word nearest to a number. A word that is no number keeps its sign and the
leading bits of its fraction, and becomes a quiet one. -/
def toSingle (x : Double) : UInt32 :=
  let r :=
    if x.isNaN then
      Format.single.infinity ||| 0x400000 ||| (x.rank % Format.double.binade) >>> 29
    else if x.isFinite then
      Format.single.rankOfRatio (x.significand * powNum 2 x.exponent) (powDen 2 x.exponent)
    else Format.single.infinity
  UInt32.ofNat (r + if x.isNegative then singleSign else 0)

/-- The number that a single precision word holds. The conversion is exact; a word that is no number
becomes a quiet one. -/
def ofSingle (w : UInt32) : Double :=
  let negative := decide (singleSign ≤ w.toNat)
  let r := w.toNat % singleSign
  if Format.single.infinity < r then
    ofRank negative
      (Format.double.infinity ||| 0x8000000000000 ||| (r % Format.single.binade) <<< 29)
  else if r = Format.single.infinity then ofRank negative Format.double.infinity
  else
    let e := Format.single.exponent r
    ofRatio negative (Format.single.significand r * powNum 2 e) (powDen 2 e)

/-! ### Small laws -/

/-- A number is its sign and its rank. -/
theorem ofRank_rank (x : Double) : ofRank x.isNegative x.rank = x := by
  cases x with
  | mk b =>
    have hb : b.toNat < 2 ^ 64 := b.toNat_lt
    simp only [ofRank, isNegative, rank, signWeight, Double.mk.injEq]
    apply UInt64.toNat_inj.mp
    rw [UInt64.toNat_ofNat']
    by_cases h : 0x8000000000000000 ≤ b.toNat
    · simp only [h, decide_true, if_true]; omega
    · simp only [h, decide_false]; simp; omega

end Double

end ForeignCall.Number
