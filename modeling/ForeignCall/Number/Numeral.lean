import ForeignCall.Text.Blank
import ForeignCall.Number.Decimal

/-!
# Numbers written by people

The two readings of a text as a number. Blanks around the text are ignored and an empty text is
zero. One sign may lead; then follow decimal digits, `0x` with hexadecimal digits, or a decimal
numeral with a fraction or an exponent.

Three corners are part of the rule. What stands behind the sign, when it is neither all digits nor
hexadecimal, is read as a numeral of its own and may carry a second sign. The digits behind `0x` may
themselves start with a plus. And integers have 128 bits when the sign is applied, so that a minus
does not change the least of them.

## Main definitions

* `Numeral.hexadecimal?`, `Numeral.decimal?`: the two kinds of digits, within 64 bits;
* `Numeral.plain?`: a decimal numeral, without words such as `inf` or `nan`;
* `Numeral.applySign`: the sign in front of an integer;
* `Numeral.integer?`: a text as an integer, a fraction cut off;
* `Numeral.real?`: a text as a double precision number.
-/

namespace ForeignCall.Number.Numeral

/-- The number of a hexadecimal digit. -/
def hexDigit? (c : Char) : Option Nat :=
  let n := c.toNat
  if '0' ≤ c ∧ c ≤ '9' then some (n - '0'.toNat)
  else if 'a' ≤ c ∧ c ≤ 'f' then some (n - 'a'.toNat + 10)
  else if 'A' ≤ c ∧ c ≤ 'F' then some (n - 'A'.toNat + 10)
  else none

/-- The number that a list of hexadecimal digits denotes. -/
def ofHexDigits? (cs : List Char) : Option Nat :=
  cs.foldlM (fun n c => (hexDigit? c).map (n * 16 + ·)) 0

/-- A number that fits into 64 bits. -/
def word? (n : Nat) : Option Nat :=
  if n < 0x10000000000000000 then some n else none

/-- Splits off a sign that is allowed to be a plus only. -/
def dropPlus : List Char → List Char
  | '+' :: cs => cs
  | cs => cs

/-- Hexadecimal digits, after an optional plus, as a number of 64 bits. -/
def hexadecimal? (cs : List Char) : Option Nat :=
  let ds := dropPlus cs
  if ds = [] then none else (ofHexDigits? ds).bind word?

/-- Decimal digits as a number of 64 bits. -/
def decimal? (cs : List Char) : Option Nat :=
  word? (ofDigits cs)

/-- The characters behind `0x` or `0X`, if there are any. -/
def hexBody? : List Char → Option (List Char)
  | '0' :: x :: c :: cs => if x = 'x' ∨ x = 'X' then some (c :: cs) else none
  | _ => none

/-- Whether a character occurs in decimal numerals. -/
def isPlain (c : Char) : Bool :=
  c.isDigit || c == '.' || c == 'e' || c == 'E' || c == '+' || c == '-'

/-- A decimal numeral as a double precision number. -/
def plain? (cs : List Char) : Option Double :=
  if cs.all isPlain && cs.any Char.isDigit then (Decimal.read? cs).map Decimal.toDouble else none

/-- The least integer that a numeral with a fraction or an exponent is cut off to. -/
def floor : Int := -0x80000000000000000000000000000000

/-- The magnitude part of an integer: what may follow its sign. -/
def magnitude? (cs : List Char) : Option Int :=
  match hexBody? cs with
  | some hex => (hexadecimal? hex).map Int.ofNat
  | none =>
    if cs.all Char.isDigit then (decimal? cs).map Int.ofNat
    else
      (plain? cs).bind fun x =>
        if x.reachesTwoPow64 then none else some (x.toIntWithin floor 0x10000000000000000)

/-- An integer with its sign, in the arithmetic of 128 bits. -/
def applySign (negative : Bool) (m : Int) : Int :=
  if negative then Int.bmod (-m) 0x100000000000000000000000000000000 else m

/-- Reads a text as an integer. A fraction is cut off, and the integer has to be below `2 ^ 64`
in front of its sign. -/
def integerOfChars? (cs : List Char) : Option Int :=
  match Blank.trim cs with
  | [] => some 0
  | c :: rest =>
    let (negative, ds) := splitSign (c :: rest)
    if ds = [] then none
    else (magnitude? ds).map (applySign negative)

/-- Reads a text as an integer. -/
def integer? (s : String) : Option Int :=
  integerOfChars? s.toList

/-- The magnitude part of a real number: what may follow its sign. -/
def realMagnitude? (cs : List Char) : Option Double :=
  match hexBody? cs with
  | some hex => (hexadecimal? hex).map fun n => Double.ofInt n
  | none => plain? cs

/-- Reads a text as a double precision number. -/
def realOfChars? (cs : List Char) : Option Double :=
  match Blank.trim cs with
  | [] => some .zero
  | c :: rest =>
    let (negative, ds) := splitSign (c :: rest)
    (realMagnitude? ds).map fun x => if negative then x.neg else x

/-- Reads a text as a double precision number. -/
def real? (s : String) : Option Double :=
  realOfChars? s.toList

end ForeignCall.Number.Numeral
