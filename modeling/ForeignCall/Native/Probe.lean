import ForeignCall.Native.CLibrary

/-!
# Probe routines

Small native functions that try out one thing each: every width of integer in a register and behind
a pointer, arguments beyond the registers, texts and pointers to texts, null and wild pointers,
signals, and calls made from native code.

## Main definitions

* `Native.texts`, `Native.dataBlocks`: the texts and pointers that the probes hand out;
* `Native.callbackRoutines` and the other groups; `Native.probeRoutines`: all of them.
-/

namespace ForeignCall.Native

open Routine

/-! ### Data -/

/-- The address of the data of a position. -/
def dataAddress (index : Nat) : UInt64 := UInt64.ofNat (0x600000 + 256 * index)

/-- The address of a pointer to nowhere. -/
def wildAddress : UInt64 := 16

/-- A text with bytes that are no UTF-8. -/
def brokenText : List UInt8 :=
  [0x61, 0x62, 0xff, 0xe2, 0x82, 0x28, 0x7a, 0xf0, 0x9f, 0x98, 0x80, 0xed, 0xa0, 0x80, 0xc3]

/-- The texts that probes hand out, each at the address of its position. -/
def texts : List (List UInt8) :=
  ["native text", "", "pointed text", "replaced"].map Utf8.ofString ++ [brokenText]

def nativeText : UInt64 := dataAddress 0
def emptyText : UInt64 := dataAddress 1
def pointedText : UInt64 := dataAddress 2
def replacedText : UInt64 := dataAddress 3
def brokenTextAddress : UInt64 := dataAddress 4

/-- The words that probes hand out pointers to, each at the address of its position behind the
texts. -/
def words : List (List UInt8) :=
  [ Bytes.ofWord pointedText, Bytes.ofWord 0, Bytes.ofWord wildAddress,
    Bytes.ofWord 0x8182838485868788, Bytes.ofWord (-2.71828 : Float).toBits,
    Bytes.littleEndian 4 (0.1 : Float32).toBits.toNat ]

def textPointer : UInt64 := dataAddress 5
def nullPointer : UInt64 := dataAddress 6
def wildPointer : UInt64 := dataAddress 7
def longWord : UInt64 := dataAddress 8
def doubleWord : UInt64 := dataAddress 9
def singleWord : UInt64 := dataAddress 10

/-- The read-only memory of the probes. -/
def dataBlocks : Memory :=
  (texts.map (· ++ [0]) ++ words).zipIdx.map fun (bytes, index) =>
    ⟨dataAddress index, bytes, false⟩

/-! ### Calls made from native code -/

/-- The address of the routine of a position. -/
def codeAddress (index : Nat) : UInt64 := UInt64.ofNat (0x400000 + 16 * index)

/-- The addresses of the three routines that others call; they come first. -/
def identityAddress : UInt64 := codeAddress 0
def readAddress : UInt64 := codeAddress 1
def nestAddress : UInt64 := codeAddress 2

/-- An address as a function operand. -/
def functionOperand (address : UInt64) : Value := .int address.toInt64

/-- The integer that an outcome carries. -/
def intOf (o : Outcome) : Int :=
  match o.value with
  | .int i => i.toInt
  | _ => 0

/-- Calls the identity from native code. -/
def callIdentity (x : Int) (next : Outcome → Routine) : Routine :=
  callValues [functionOperand identityAddress, .text "Int", .int (.ofInt x), .text "CDecl Int"] next

/-- Calls a routine that reads through a null pointer. -/
def callFaulting (next : Outcome → Routine) : Routine :=
  callValues [functionOperand readAddress, .text "Int64", .int 0, .text "CDecl Int"] next

/-- Calls itself with a smaller number, down to zero. -/
def nest (n : Int) : Routine :=
  if n ≤ 0 then giveInt 32 0
  else
    callValues [functionOperand nestAddress, .text "Int", .int (.ofInt (n - 1)), .text "CDecl Int"]
      fun o => giveInt 32 (n + intOf o)

/-- The routines that others call, at the addresses above. -/
def calledRoutines : List Symbol :=
  [ ⟨"o_id_i32", fun r => giveInt 32 (r.int 0 32)⟩,
    ⟨"o_read_i32", fun r => loadNat (r.word 0) 4 fun n => giveInt 32 n⟩,
    ⟨"o_nest", fun r => nest (r.int 0 32)⟩ ]

/-- The routines that make calls. -/
def callbackRoutines : List Symbol :=
  [ ⟨"o_call_back", fun r => callIdentity (r.int 0 32) fun o => giveInt 32 (intOf o + 1)⟩,
    ⟨"o_call_back_fault", fun r =>
      callFaulting fun o =>
        if o = ⟨.int 0, .calleeFault Signal.segmentation⟩ then giveInt 32 (r.int 0 32 + 1000)
        else giveInt 32 (-1)⟩,
    ⟨"o_call_back_then_raise", fun r =>
      callIdentity 1 fun _ => .raise (r.word 0).toUInt32⟩ ]

/-! ### Registers -/

/-- The routines that return their parameter. -/
def identityRoutines : List Symbol :=
  [ ⟨"o_id_i8", fun r => giveInt 8 (r.int 0 8)⟩,
    ⟨"o_id_u8", fun r => giveInt 8 (r.int 0 8)⟩,
    ⟨"o_id_i16", fun r => giveInt 16 (r.int 0 16)⟩,
    ⟨"o_id_u16", fun r => giveInt 16 (r.int 0 16)⟩,
    ⟨"o_id_u32", fun r => giveInt 32 (r.int 0 32)⟩,
    ⟨"o_id_i64", fun r => giveWord (r.word 0)⟩,
    ⟨"o_id_f32", fun r => giveSingle (r.single 0)⟩,
    ⟨"o_id_f64", fun r => giveDouble (r.double 0)⟩,
    ⟨"o_id_str", fun r => giveWord (r.word 0)⟩ ]

/-- The sum of the first eight integer registers, each times its number. -/
def weightedSum (r : Registers) : Int :=
  (List.range 8).foldl (fun s i => s + (i + 1) * r.int i 64) 0

/-- The sum of nine floating-point registers less the tenth, from left to right. -/
def longSum (r : Registers) : Float :=
  (List.range 8).foldl (fun s i => s + r.double (i + 1)) (r.double 0) - r.double 9

/-- The sum of integers and floating-point numbers of several widths, from left to right. -/
def mixedSum (r : Registers) : Float :=
  Float.ofInt (r.int 0 32) + r.double 0 + Float.ofInt (r.int 1 8) + (r.single 1).toFloat +
    Float.ofInt (r.int 2 64)

/-- The routines that calculate in registers. -/
def arithmeticRoutines : List Symbol :=
  [ ⟨"o_zero", fun _ => giveInt 32 0⟩,
    ⟨"o_add", fun r => giveInt 32 (r.int 0 32 + r.int 1 32)⟩,
    ⟨"o_sum8", fun r => giveInt 64 (weightedSum r)⟩,
    ⟨"o_fsum10", fun r => giveDouble (longSum r)⟩,
    ⟨"o_mixed", fun r => giveDouble (mixedSum r)⟩,
    ⟨"o_fsub", fun r => giveSingle (r.single 0 - r.single 1)⟩ ]

/-! ### Memory -/

/-- Adds one to an integer of `size` bytes and returns it. -/
def increment (size : Nat) : Callee := fun r =>
  loadNat (r.word 0) size fun n =>
    storeInt (r.word 0) size (n + 1 : Nat) (giveInt (8 * size) (n + 1 : Nat))

/-- The routines that change numbers in place. -/
def pointerRoutines : List Symbol :=
  [ ⟨"o_incr_i8", increment 1⟩, ⟨"o_incr_u8", increment 1⟩,
    ⟨"o_incr_i16", increment 2⟩, ⟨"o_incr_u16", increment 2⟩,
    ⟨"o_incr_i32", increment 4⟩, ⟨"o_incr_u32", increment 4⟩,
    ⟨"o_incr_i64", increment 8⟩,
    ⟨"o_double_i32", fun r =>
      loadNat (r.word 0) 4 fun n => storeInt (r.word 0) 4 (2 * n : Nat) (giveInt 32 1)⟩,
    ⟨"o_halve_f64", fun r =>
      loadWord (r.word 0) fun w =>
        storeWord (r.word 0) (Float.ofBits w / 2).toBits (giveInt 32 1)⟩,
    ⟨"o_halve_f32", fun r =>
      loadNat (r.word 0) 4 fun n =>
        storeInt (r.word 0) 4 (Float32.ofBits (UInt32.ofNat n) / 2).toBits.toNat (giveInt 32 1)⟩,
    ⟨"o_store_all", fun r =>
      storeInt (r.word 0) 2 65535 <| storeInt (r.word 1) 2 (-1) <| storeInt (r.word 2) 1 (-1) <|
        storeInt (r.word 3) 1 255 <|
          storeInt (r.word 4) 4 (0.75 : Float32).toBits.toNat (giveInt 32 5)⟩,
    ⟨"o_peek8", fun r => loadWord (r.word 0) giveWord⟩,
    ⟨"o_poke8", fun r =>
      loadWord (r.word 0) fun old => storeWord (r.word 0) (r.word 1) (giveWord old)⟩ ]

/-! ### Texts -/

/-- Puts a text into a buffer of a given size, if it fits with its terminator. -/
def greet (text : String) : Callee := fun r =>
  let bytes := Utf8.ofString text
  if r.int 1 32 ≤ bytes.length then giveInt 32 0
  else storeText (r.word 0) bytes (giveInt 32 bytes.length)

/-- Makes the letters of a text capital and returns its length. -/
def capitalize (address : UInt64) : Routine :=
  .text address fun s => .store address (s.map upperByte) (giveInt 32 s.length)

/-- The routines that fill buffers. -/
def bufferRoutines : List Symbol :=
  [ ⟨"o_fill", fun r =>
      fill (r.word 0) (r.word 1).toUInt8 (r.int 2 32).toNat (giveInt 32 (r.int 2 32))⟩,
    ⟨"o_put", fun r =>
      let place := r.word 0 + UInt64.ofInt (r.int 1 32)
      loadNat place 1 fun old => .store place [(r.word 2).toUInt8] (giveInt 32 old)⟩,
    ⟨"o_upper", fun r => capitalize (r.word 0)⟩,
    ⟨"o_upper_ref", fun r => loadWord (r.word 0) capitalize⟩,
    ⟨"o_greetA", greet "hello A"⟩,
    ⟨"o_both", greet "plain"⟩,
    ⟨"o_bothA", greet "suffixed"⟩ ]

/-- Replaces the pointer that a parameter points to. -/
def redirect (target : UInt64) (result : Int) : Callee := fun r =>
  storeWord (r.word 0) target (giveInt 32 result)

/-- The routines that hand out pointers. -/
def handleRoutines : List Symbol :=
  [ ⟨"o_str", fun _ => giveWord nativeText⟩,
    ⟨"o_empty_str", fun _ => giveWord emptyText⟩,
    ⟨"o_null_str", fun _ => giveWord 0⟩,
    ⟨"o_bad_ptr", fun _ => giveWord wildAddress⟩,
    ⟨"o_bad_utf8", fun _ => giveWord brokenTextAddress⟩,
    ⟨"o_str_ptr", fun _ => giveWord textPointer⟩,
    ⟨"o_null_str_ptr", fun _ => giveWord nullPointer⟩,
    ⟨"o_bad_str_ptr", fun _ => giveWord wildPointer⟩,
    ⟨"o_i64_ptr", fun _ => giveWord longWord⟩,
    ⟨"o_f64_ptr", fun _ => giveWord doubleWord⟩,
    ⟨"o_f32_ptr", fun _ => giveWord singleWord⟩,
    ⟨"o_swap_str", redirect replacedText 1⟩,
    ⟨"o_swap_bad_utf8", redirect brokenTextAddress 1⟩,
    ⟨"o_null_out", redirect 0 2⟩,
    ⟨"o_wild_out", redirect wildAddress 3⟩,
    ⟨"o_skip_str", fun r =>
      loadWord (r.word 0) fun p =>
        storeWord (r.word 0) (p + UInt64.ofInt (r.int 1 32)) (giveInt 32 (r.int 1 32))⟩ ]

/-! ### Signals -/

/-- The routines that raise signals. -/
def signalRoutines : List Symbol :=
  [ ⟨"o_raise", fun r => .raise (r.word 0).toUInt32⟩,
    ⟨"o_write_then_raise", fun r =>
      storeInt (r.word 0) 4 999 (.raise (r.word 1).toUInt32)⟩,
    ⟨"o_overflow", fun _ => .raise Signal.segmentation⟩ ]

/-- All probes. -/
def probeRoutines : List Symbol :=
  calledRoutines ++ callbackRoutines ++ identityRoutines ++ arithmeticRoutines ++
    pointerRoutines ++ bufferRoutines ++ handleRoutines ++ signalRoutines

end ForeignCall.Native
