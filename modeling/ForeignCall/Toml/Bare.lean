import ForeignCall.Number.Numeral
import ForeignCall.Toml.Item

/-!
# Bare values of TOML

Numbers, truth values, dates and times, which stand without quotes. All of them are made of the same
characters, so that such a value is split off first and read as a whole afterwards. Digits may be
grouped by underscores, each of them between two digits.

## Main definitions

* `Bare.integer?`, `Bare.real?`: numbers;
* `Bare.isMoment`: dates, times, and dates with times;
* `Bare.read?`: a bare value.
-/

namespace ForeignCall.Toml.Bare

open Number

/-- The characters of bare values. -/
def isPart (c : Char) : Bool :=
  c.isAlphanum || c == '_' || c == '+' || c == '-' || c == '.' || c == ':'

/-- The characters between underscores, all of which have to be digits. -/
def groupedDigits? (isDigit : Char → Bool) (cs : List Char) : Option (List Char) :=
  let isGrouped := cs.head?.any isDigit && cs.getLast?.any isDigit &&
    cs.all (fun c => isDigit c || c == '_') &&
    (cs.zip cs.tail).all fun p => isDigit p.1 || isDigit p.2
  if isGrouped then some (cs.filter (· != '_')) else none

/-- The digits of a decimal number, which start with a zero only if there is no other. -/
def wholeDigits? (cs : List Char) : Option (List Char) :=
  if cs.head? = some '0' ∧ cs ≠ ['0'] then none else groupedDigits? Char.isDigit cs

/-- An integer of 64 bits. -/
def integer64? (i : Int) : Option Int :=
  if -0x8000000000000000 ≤ i ∧ i ≤ 0x7fffffffffffffff then some i else none

/-- The digits of the three bases other than ten, by their mark. -/
def marked? (mark : Char) : Option (Nat × (Char → Bool)) :=
  if mark = 'x' then some (16, fun c => (Numeral.hexDigit? c).isSome)
  else if mark = 'o' then some (8, fun c => '0' ≤ c && c ≤ '7')
  else if mark = 'b' then some (2, fun c => c == '0' || c == '1')
  else none

/-- Reads an integer: decimal with a sign, or with the mark of another base and without a sign. -/
def integer? (cs : List Char) : Option Int :=
  match cs with
  | '0' :: mark :: ds =>
    (marked? mark).bind fun (base, isDigit) =>
      (groupedDigits? isDigit ds).bind fun ds =>
        integer64? (ds.foldl (fun n c => n * base + ((Numeral.hexDigit? c).getD 0 : Nat)) 0)
  | _ =>
    let (isNegative, ds) := splitSign cs
    (wholeDigits? ds).bind fun ds =>
      integer64? (if isNegative then -(ofDigits ds : Int) else ofDigits ds)

/-- Whether a part of a number is digits in groups. -/
def isGroupedDigits (cs : List Char) : Bool :=
  (groupedDigits? Char.isDigit cs).isSome

/-- Whether what follows the mantissa of a number is an exponent or nothing. -/
def isExponent : List Char → Bool
  | [] => true
  | c :: cs => (c == 'e' || c == 'E') && isGroupedDigits (splitSign cs).2

/-- Whether a text has the form of a number with a fraction, an exponent, or both. -/
def isReal (cs : List Char) : Bool :=
  let isMantissa (c : Char) : Bool := c.isDigit || c == '_'
  let body := (splitSign cs).2
  (wholeDigits? (body.takeWhile isMantissa)).isSome &&
    match body.dropWhile isMantissa with
    | [] => false
    | '.' :: rest =>
      isGroupedDigits (rest.takeWhile isMantissa) && isExponent (rest.dropWhile isMantissa)
    | rest => isExponent rest

/-- Reads a floating-point number. One that is too great is refused. -/
def real? (cs : List Char) : Option Double :=
  let (isNegative, body) := splitSign cs
  let signed (x : Double) : Double := if isNegative then x.neg else x
  if body = "inf".toList then some (signed .infinity)
  else if body = "nan".toList then some (signed .nan)
  else if isReal cs then
    ((Decimal.read? (cs.filter (· != '_'))).map Decimal.toDouble).filter (· ≠ .infinity)
  else none

/-! ### Dates and times -/

/-- The number of some digits, if it lies between two bounds. -/
def within? (low high : Nat) (cs : List Char) : Option Nat :=
  if cs.all Char.isDigit ∧ low ≤ ofDigits cs ∧ ofDigits cs ≤ high then some (ofDigits cs) else none

/-- Whether a year has a day more. -/
def isLeap (year : Nat) : Bool :=
  year % 4 == 0 && (year % 100 != 0 || year % 400 == 0)

/-- The days of a month. -/
def daysIn (year month : Nat) : Nat :=
  if month = 2 then (if isLeap year then 29 else 28)
  else if month = 4 ∨ month = 6 ∨ month = 9 ∨ month = 11 then 30
  else 31

/-- Whether a text is a date, such as `1979-05-27`. -/
def isDate : List Char → Bool
  | [y₁, y₂, y₃, y₄, '-', m₁, m₂, '-', d₁, d₂] =>
    match within? 0 9999 [y₁, y₂, y₃, y₄], within? 1 12 [m₁, m₂] with
    | some year, some month => (within? 1 (daysIn year month) [d₁, d₂]).isSome
    | _, _ => false
  | _ => false

/-- Whether a text is hours and minutes. -/
def isClock : List Char → Bool
  | [h₁, h₂, ':', m₁, m₂] => (within? 0 23 [h₁, h₂]).isSome && (within? 0 59 [m₁, m₂]).isSome
  | _ => false

/-- Whether a text is a distance from universal time, or nothing. -/
def isOffset : List Char → Bool
  | [] => true
  | ['Z'] => true
  | ['z'] => true
  | c :: cs => (c == '+' || c == '-') && isClock cs

/-- Whether a text is a time, such as `07:32:00.5`. After it `rest` has to be as wanted. -/
def isTime (follows : List Char → Bool) (cs : List Char) : Bool :=
  match cs with
  | h₁ :: h₂ :: ':' :: m₁ :: m₂ :: ':' :: s₁ :: s₂ :: rest =>
    isClock [h₁, h₂, ':', m₁, m₂] && (within? 0 60 [s₁, s₂]).isSome &&
      match rest with
      | '.' :: rest =>
        rest.head?.any Char.isDigit && follows (rest.dropWhile Char.isDigit)
      | rest => follows rest
  | _ => false

/-- Whether a text is a date, a time, or a date and a time with a `T` between them. -/
def isMoment (cs : List Char) : Bool :=
  isDate cs || isTime List.isEmpty cs ||
    match cs.drop 10 with
    | c :: time => isDate (cs.take 10) && (c == 'T' || c == 't') && isTime isOffset time
    | [] => false

/-- Reads a value that is one bare word. -/
def word? (cs : List Char) : Option Item :=
  if cs = "true".toList then some (.boolean true)
  else if cs = "false".toList then some (.boolean false)
  else if isMoment cs then some (.moment (String.ofList cs))
  else ((real? cs).map .real).or ((integer? cs).map .integer)

/-- Reads a bare value. A date and a time may be one value with a blank between them. -/
def read? (cs : List Char) : Option (Item × List Char) :=
  let (first, rest) := (cs.takeWhile isPart, cs.dropWhile isPart)
  let time := (rest.drop 1).takeWhile isPart
  if isDate first ∧ rest.head? = some ' ' ∧ isTime isOffset time then
    some (.moment (String.ofList (first ++ ' ' :: time)), (rest.drop 1).dropWhile isPart)
  else (word? first).map fun item => (item, rest)

end ForeignCall.Toml.Bare
