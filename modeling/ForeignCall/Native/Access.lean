import ForeignCall.Routine

/-!
# Typed access for native code

Native code sees registers and bytes. These are the small steps by which it reads a parameter of a
type, accesses memory of a type, makes a call with values, and returns a result of a type.

## Main definitions

* `Registers.word`, `Registers.int`, `Registers.double`, `Registers.single`: the parameters;
* `Routine.loadNat`, `Routine.loadWord`, `Routine.storeInt`, `Routine.storeWord`: memory;
* `Routine.callValues`: calls;
* `Routine.giveInt`, `Routine.giveWord`, `Routine.giveDouble`, `Routine.giveSingle`: results.
-/

namespace ForeignCall

/-- A whole word as the integer of a width that its low bits are. -/
def signedOf (width : Nat) (w : Nat) : Int :=
  Int.bmod (w % Nat.pow 2 width) (Nat.pow 2 width)

namespace Registers

/-- The integer register of a position. -/
def word (r : Registers) (index : Nat) : UInt64 :=
  r.integers.getD index 0

/-- The signed integer of a width in an integer register. -/
def int (r : Registers) (index width : Nat) : Int :=
  signedOf width (r.word index).toNat

/-- The double precision number in a floating-point register. -/
def double (r : Registers) (index : Nat) : Float :=
  Float.ofBits (r.reals.getD index 0)

/-- The single precision number in a floating-point register. -/
def single (r : Registers) (index : Nat) : Float32 :=
  Float32.ofBits (r.reals.getD index 0).toUInt32

end Registers

namespace Routine

/-- Returns an integer of a width; the bits above it are zero. -/
def giveInt (width : Nat) (i : Int) : Routine :=
  .ret { integer := UInt64.ofNat (i % Nat.pow 2 width).toNat }

/-- Returns a word. -/
def giveWord (w : UInt64) : Routine := .ret { integer := w }

/-- Returns a double precision number. -/
def giveDouble (x : Float) : Routine := .ret { real := x.toBits }

/-- Returns a single precision number. -/
def giveSingle (x : Float32) : Routine := .ret { real := x.toBits.toUInt64 }

/-- Makes a call with values alone, of which nothing but the outcome comes back. -/
def callValues (operands : List Value) (next : Outcome → Routine) : Routine :=
  .call (operands.map .literal) fun r => next r.outcome

/-- Reads an unsigned number of `size` bytes. -/
def loadNat (address : UInt64) (size : Nat) (next : Nat → Routine) : Routine :=
  .load address size fun bytes => next (Bytes.ofLittleEndian bytes)

/-- Reads a word. -/
def loadWord (address : UInt64) (next : UInt64 → Routine) : Routine :=
  .load address 8 fun bytes => next (Bytes.toWord bytes)

/-- Writes the low `size` bytes of an integer. -/
def storeInt (address : UInt64) (size : Nat) (i : Int) (next : Routine) : Routine :=
  .store address (Bytes.littleEndian size (i % Nat.pow 256 size).toNat) next

/-- Writes a word. -/
def storeWord (address w : UInt64) (next : Routine) : Routine :=
  .store address (Bytes.ofWord w) next

/-- Writes a text and its terminator. -/
def storeText (address : UInt64) (text : List UInt8) (next : Routine) : Routine :=
  .store address (text ++ [0]) next

/-- Writes a byte many times over. No stretch of memory is longer than `2 ^ 32` bytes. -/
def fill (address : UInt64) (byte : UInt8) (count : Nat) (next : Routine) : Routine :=
  if count < 0x100000000 then .store address (List.replicate count byte) next
  else .raise Signal.segmentation

end Routine

end ForeignCall
