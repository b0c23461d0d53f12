import ForeignCall.Native.Access

/-!
# Routines of the C and mathematics libraries

The functions of the two default libraries that calls can reach: strings, characters, absolute
values and elementary mathematics, as routines on registers and memory.

## Main definitions

* `Native.stringRoutines`, `Native.integerRoutines`, `Native.partRoutines`: the C library;
* `Native.mathRoutines`: the mathematics library;
* `Native.readNumber`: the number at the start of a text in any base.
-/

namespace ForeignCall.Native

open Routine

/-- A native function with the symbol that names it. -/
structure Symbol where
  name : String
  callee : Callee

/-! ### Characters and texts -/

/-- Capital letters for the small ones among the first 128 characters. -/
def upperByte (b : UInt8) : UInt8 :=
  if 97 ≤ b ∧ b ≤ 122 then b - 32 else b

/-- Whether a byte separates words. -/
def isSpaceByte (b : UInt8) : Bool :=
  b == 32 || (9 ≤ b && b ≤ 13)

/-- The value of a digit in the bases up to 36. -/
def digitOfByte? (b : UInt8) : Option Nat :=
  if 48 ≤ b ∧ b ≤ 57 then some (b.toNat - 48)
  else if 97 ≤ b ∧ b ≤ 122 then some (b.toNat - 97 + 10)
  else if 65 ≤ b ∧ b ≤ 90 then some (b.toNat - 65 + 10)
  else none

/-- The value of a digit in a base. -/
def digitIn? (base : Nat) (b : UInt8) : Option Nat :=
  (digitOfByte? b).filter (· < base)

/-- The digits of a base at the start of a text. -/
def leadingDigits (base : Nat) (bs : List UInt8) : List UInt8 :=
  bs.takeWhile fun b => (digitIn? base b).isSome

/-- The number that digits of a base denote. -/
def ofBaseDigits (base : Nat) (bs : List UInt8) : Nat :=
  bs.foldl (fun n b => n * base + (digitOfByte? b).getD 0) 0

/-- The base of a number and the bytes of its mark, where base zero leaves the choice to the text.
A mark `0x` counts only with a digit behind it. -/
def baseOf (base : Nat) (bs : List UInt8) : Nat × Nat :=
  let hexMark : Bool := match bs with
    | 48 :: x :: d :: _ => (x == 120 || x == 88) && (digitIn? 16 d).isSome
    | _ => false
  if (base = 0 ∨ base = 16) ∧ hexMark then (16, 2)
  else if base = 0 then (if bs.head? = some 48 then 8 else 10, 0)
  else (base, 0)

/-- The number at the start of a text, clamped to 64 bits, and the bytes that it takes; none when
there is no digit. -/
def readNumber (base : Nat) (bs : List UInt8) : Int × Nat :=
  let blanks := (bs.takeWhile isSpaceByte).length
  let body := bs.drop blanks
  let (negative, signs) := match body with
    | 45 :: _ => (true, 1)
    | 43 :: _ => (false, 1)
    | _ => (false, 0)
  let rest := body.drop signs
  let (radix, mark) := baseOf base rest
  let ds := leadingDigits radix (rest.drop mark)
  if ds = [] then (0, 0)
  else
    let n : Int := ofBaseDigits radix ds
    let v := if negative then max (-0x8000000000000000) (-n) else min 0x7fffffffffffffff n
    (v, blanks + signs + mark + ds.length)

/-- An address some bytes farther on. -/
def advance (address : UInt64) (n : Nat) : UInt64 := address + UInt64.ofNat n

/-- Cuts the text that a pointer in memory points to at the first of some separators. The pointer
moves behind the separator, or becomes null when there is none. -/
def separate (place separators : UInt64) : Routine :=
  loadWord place fun s =>
    if s = 0 then giveWord 0
    else
      .text s fun text =>
        .text separators fun marks =>
          let n := (text.takeWhile fun b => !marks.contains b).length
          if n < text.length then
            .store (advance s n) [0] (storeWord place (advance s (n + 1)) (giveWord s))
          else storeWord place 0 (giveWord s)

/-- The string routines of the C library. -/
def stringRoutines : List Symbol :=
  [ ⟨"strlen", fun r => .text (r.word 0) fun s => giveInt 64 s.length⟩,
    ⟨"strcpy", fun r =>
      .text (r.word 1) fun s => storeText (r.word 0) s (giveWord (r.word 0))⟩,
    ⟨"strcat", fun r =>
      .text (r.word 0) fun s =>
        .text (r.word 1) fun t =>
          storeText (advance (r.word 0) s.length) t (giveWord (r.word 0))⟩,
    ⟨"memset", fun r =>
      fill (r.word 0) (r.word 1).toUInt8 (r.word 2).toNat (giveWord (r.word 0))⟩,
    ⟨"strsep", fun r => separate (r.word 0) (r.word 1)⟩,
    ⟨"strtol", fun r =>
      .text (r.word 0) fun s =>
        let base := r.int 2 32
        if base < 0 ∨ base = 1 ∨ 36 < base then giveWord 0
        else
          let (v, n) := readNumber base.toNat s
          if r.word 1 = 0 then giveInt 64 v
          else storeWord (r.word 1) (advance (r.word 0) n) (giveInt 64 v)⟩ ]

/-- The integer routines of the C library. -/
def integerRoutines : List Symbol :=
  [ ⟨"abs", fun r => giveInt 32 (r.int 0 32).natAbs⟩,
    ⟨"labs", fun r => giveInt 64 (r.int 0 64).natAbs⟩,
    ⟨"toupper", fun r =>
      let c := r.int 0 32
      giveInt 32 (if 97 ≤ c ∧ c ≤ 122 then c - 32 else c)⟩ ]

/-! ### Floating-point numbers -/

/-- A number without its fraction. -/
def wholeOf (x : Float) : Float :=
  if x < 0 then x.ceil else x.floor

/-- The fraction of a number, with the sign of the number. -/
def fractionOf (x : Float) : Float :=
  if x.isInf then (if x < 0 then -0.0 else 0.0)
  else
    let f := x - wholeOf x
    if f == 0 && x.toBits ≥ 0x8000000000000000 then -0.0 else f

/-- The routines of the C library that take numbers apart and put them together. -/
def partRoutines : List Symbol :=
  [ ⟨"frexp", fun r =>
      let (m, e) := (r.double 0).frExp
      storeInt (r.word 0) 4 e (giveDouble m)⟩,
    ⟨"modf", fun r =>
      let x := r.double 0
      storeWord (r.word 0) (wholeOf x).toBits (giveDouble (fractionOf x))⟩,
    ⟨"ldexp", fun r => giveDouble ((r.double 0).scaleB (r.int 0 32))⟩ ]

/-- The routines of the mathematics library. -/
def mathRoutines : List Symbol :=
  [ ⟨"sqrt", fun r => giveDouble (r.double 0).sqrt⟩,
    ⟨"sqrtf", fun r => giveSingle (r.single 0).sqrt⟩,
    ⟨"floor", fun r => giveDouble (r.double 0).floor⟩ ]

/-- The routines of the C library. -/
def cRoutines : List Symbol := stringRoutines ++ integerRoutines ++ partRoutines

end ForeignCall.Native
