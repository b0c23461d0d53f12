import ForeignCall.Kind
import ForeignCall.Number.Layout
import ForeignCall.Number.Numeral
import ForeignCall.Text.Utf8

/-!
# Script values

The values that a script hands to a native function and gets back: texts, integers of 64 bits and
double precision numbers, with the three ways of looking at any of them.

## Main definitions

* `Value`: a script value;
* `Value.toText`: its text, the way the contents of a variable read;
* `Value.toInt64?`, `Value.toUInt64?`, `Value.toDouble?`: its numeric views;
* `Value.emptyOf`: the value that stands in when a call yields nothing.
-/

namespace ForeignCall

open Number (Double Numeral.integer? Numeral.real? Layout)

/-- A script value. -/
inductive Value where
  | text (s : String)
  | int (i : Int64)
  | real (x : Double)
  deriving DecidableEq, Repr

namespace Value

/-- The value that stands in for a result of a kind. -/
def emptyOf : Kind → Value
  | .text => .text ""
  | .single | .double => .real .zero
  | _ => .int 0

/-- Numbers are written positionally, and an integer below `10 ^ 15` ends in `.0`. Of two equally
near decimals the one farther from zero is written. -/
def realLayout : Layout where
  tie := .away
  isPositional := fun _ => true
  marksWhole := fun decade => decade < 15
  exponentMark := ['e']

/-- The text of a double precision number. -/
def realText (x : Double) : String :=
  if x.isNaN then "NaN"
  else if x.isFinite then String.ofList (realLayout.write x)
  else if x.isNegative then "-inf" else "inf"

/-- The text of an integer. -/
def intText (i : Int) : String :=
  String.ofList ((if i < 0 then ['-'] else []) ++ Number.digits i.natAbs)

/-- The text of a value. -/
def toText : Value → String
  | .text s => s
  | .int i => intText i.toInt
  | .real x => realText x

/-- Whether the value is the empty text. -/
def isEmpty : Value → Bool
  | .text s => s == ""
  | _ => false

/-- The bytes that the text of a value takes. -/
def textSize (v : Value) : Nat :=
  Utf8.size v.toText

/-- The word for the type of a value. -/
def typeName : Value → String
  | .text _ => "str"
  | .int _ => "int"
  | .real _ => "float"

/-- A value as a signed integer. Numbers are truncated toward zero and clamped, texts are read as
integers and wrap around. -/
def toInt64? : Value → Option Int64
  | .int i => some i
  | .real x => some (Int64.ofInt (x.toIntWithin (-0x8000000000000000) 0x7fffffffffffffff))
  | .text s => (Numeral.integer? s).map Int64.ofInt

/-- A value as an unsigned integer. Negative integers wrap around; a number is clamped, a negative
one into the signed range before it wraps. -/
def toUInt64? : Value → Option UInt64
  | .int i => some i.toUInt64
  | .real x =>
    if x.isBelowZero then
      some (Int64.ofInt (x.toIntWithin (-0x8000000000000000) 0x7fffffffffffffff)).toUInt64
    else some (UInt64.ofNat (x.toIntWithin 0 0xffffffffffffffff).toNat)
  | .text s => (Numeral.integer? s).map UInt64.ofInt

/-- A value as a double precision number. -/
def toDouble? : Value → Option Double
  | .int i => some (.ofInt i.toInt)
  | .real x => some x
  | .text s => Numeral.real? s

@[simp] theorem toText_text (s : String) : (Value.text s).toText = s := rfl

end Value

end ForeignCall
