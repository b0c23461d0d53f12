import ForeignCall.Bytes
import ForeignCall.Text.Utf8

/-!
# Text buffers

A text argument is handed to native code as a buffer of its own, filled with the text and zeros. The
buffer is at least as long as its variable's capacity and always has room for a terminator.
Afterwards its text is read up to the first NUL; a buffer without one has its last byte made into
one, so that reading never leaves the buffer.

## Main definitions

* `Buffer`, `Buffer.ofText`: a buffer and its first contents;
* `Buffer.write`: what native code may do to it;
* `Buffer.terminate`, `Buffer.readText`: the terminator and the text in front of it.

## Main results

* `Buffer.length_ofText`: the length of a new buffer;
* `Buffer.mem_zero_terminate`: a terminated buffer holds a NUL.
-/

namespace ForeignCall

/-- Storage for a text, at an address. -/
structure Buffer where
  start : UInt64
  bytes : List UInt8
  deriving DecidableEq, Repr

namespace Buffer

/-- A buffer that holds a text and zeros, of at least `capacity` bytes. -/
def ofText (start : UInt64) (text : String) (capacity : Nat) : Buffer :=
  let bs := Utf8.ofString text
  ⟨start, bs ++ List.replicate (max capacity (bs.length + 1) - bs.length) 0⟩

/-- The bytes of the buffer, its terminator included. -/
def capacity (b : Buffer) : Nat := b.bytes.length

/-- Whether an address is the one of the first byte. -/
def isStart (b : Buffer) (address : UInt64) : Bool := b.start == address

/-- Writes bytes into the buffer from an offset on. -/
def write (b : Buffer) (offset : Nat) (new : List UInt8) : Buffer :=
  { b with bytes := Bytes.overwrite b.bytes offset new }

/-- Makes the last byte a NUL when the buffer has none. -/
def terminate (b : Buffer) : Buffer :=
  if 0 ∈ b.bytes then b else { b with bytes := b.bytes.dropLast ++ [0] }

/-- The text in front of the first NUL of the terminated buffer. -/
def readText (b : Buffer) : String :=
  Utf8.toText (Bytes.textBefore b.terminate.bytes)

/-- A short description, without the contents. -/
def describe (b : Buffer) : String :=
  "StringBuffer \x7b capacity: " ++ String.ofList (Nat.toDigits 10 b.capacity) ++ " \x7d"

/-- A new buffer has the capacity, and one byte more than its text at least. -/
theorem length_ofText (start : UInt64) (text : String) (capacity : Nat) :
    (ofText start text capacity).bytes.length = max capacity (Utf8.size text + 1) := by
  simp only [ofText, Utf8.size, List.length_append, List.length_replicate]
  omega

theorem length_write (b : Buffer) (offset : Nat) (new : List UInt8) :
    (b.write offset new).bytes.length = b.bytes.length :=
  Bytes.length_overwrite _ _ _

/-- A terminated buffer holds a NUL. -/
theorem mem_zero_terminate (b : Buffer) : 0 ∈ b.terminate.bytes := by
  unfold terminate
  split
  · assumption
  · simp

end Buffer

end ForeignCall
