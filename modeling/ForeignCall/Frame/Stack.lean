import ForeignCall.Frame

/-!
# Stack frames of 32-bit words

Arguments as words of a 32-bit stack. A value of eight bytes pushes its high word first, so that in
memory, where the word pushed last comes first, it reads low word first.

The storage of a frame is set aside in advance. It grows only when more words are pushed than it
has room for, and then at least doubles.

## Main definitions

* `StackFrame`, `StackFrame.withCapacity`;
* `StackFrame.pushSlot`, `StackFrame.pushWord`: an argument by value, and a single word;
* `StackFrame.argumentBytes`, `StackFrame.reservedBytes`.
-/

namespace ForeignCall

/-- The argument words of a call. -/
structure StackFrame where
  /-- The words in memory order: the one pushed last comes first. -/
  layout : List UInt32
  /-- The words that there is room for. -/
  capacity : Nat
  deriving DecidableEq, Repr

namespace StackFrame

/-- A frame with room for two words for each argument and one more for a hidden return address. -/
def withCapacity (arguments : Nat) : StackFrame :=
  ⟨[], arguments * 2 + 1⟩

/-- Pushes a word. -/
def pushWord (f : StackFrame) (w : UInt32) : StackFrame :=
  { layout := w :: f.layout
    capacity :=
      if f.layout.length < f.capacity then f.capacity
      else max 4 (max (2 * f.capacity) (f.layout.length + 1)) }

/-- The words of a slot, the low one first. -/
def slotWords (k : Kind) (slot : UInt64) : List UInt32 :=
  if k.stackWords = 2 then [slot.toUInt32, (slot >>> 32).toUInt32] else [slot.toUInt32]

/-- Pushes the slot of an argument, the high word first. -/
def pushSlot (f : StackFrame) (a : Argument) : StackFrame :=
  (slotWords a.token.kind a.slot).foldr (fun w f => f.pushWord w) f

/-- Pushes an address, cut down to one word. -/
def pushAddress (f : StackFrame) (address : UInt64) : StackFrame :=
  f.pushWord address.toUInt32

/-- The bytes that the words take. -/
def argumentBytes (f : StackFrame) : Nat := 4 * f.layout.length

/-- The bytes that are set aside. -/
def reservedBytes (f : StackFrame) : Nat := 4 * f.capacity

instance : CallFrame StackFrame where
  pushValue := pushSlot
  pushAddress f address _ := f.pushAddress address
  reservedBytes := reservedBytes

@[simp] theorem layout_pushWord (f : StackFrame) (w : UInt32) :
    (f.pushWord w).layout = w :: f.layout := rfl

/-- While there is room, a word is pushed without more being set aside. -/
theorem capacity_pushWord {f : StackFrame} (h : f.layout.length < f.capacity) (w : UInt32) :
    (f.pushWord w).capacity = f.capacity :=
  if_pos h

/-- A slot pushes its words, which then lie in memory order in front of the earlier ones. -/
theorem layout_pushSlot (f : StackFrame) (a : Argument) :
    (f.pushSlot a).layout = slotWords a.token.kind a.slot ++ f.layout := by
  simp only [pushSlot, slotWords]
  split <;> simp

end StackFrame

end ForeignCall
