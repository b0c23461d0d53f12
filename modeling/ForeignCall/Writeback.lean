import ForeignCall.Frame.Registers
import ForeignCall.Memory
import ForeignCall.Plan
import ForeignCall.Status
import ForeignCall.Trap
import ForeignCall.Variable

/-!
# Results and outputs

What native code leaves behind becomes the value and the status of the call, and its outputs go back
into the variables of the script. Outputs are the slots of arguments passed by address and the
buffers of texts. After a fault in native code nothing is written back.

A pointer that native code handed out is read in a guarded region of its own, like native code. A
null pointer reads as the empty value.

## Main definitions

* `Invocation`: what one transfer of control to native code leaves;
* `guardedRead`: reads memory under the trap;
* `readResult`: the value that the return registers stand for;
* `Argument.output?`, `writeOutputs`: the values that go back into variables;
* `Argument.settle`: the memory that later arguments see;
* `finish`: value, status and operands after a call.

## Main results

* `guardedRead_ok`, `guardedRead_error`: what a read under the trap comes to;
* `finish_status`: the status of a call, from its invocation and the reading of its result.
-/

namespace ForeignCall

/-- What one transfer of control to native code leaves behind. -/
structure Invocation where
  returned : Returned := {}
  /-- The signal that ended native code, or zero. -/
  fault : UInt32 := 0
  /-- The bytes by which the stack moved. -/
  delta : Int32 := 0
  /-- The bytes that the frame had reserved for arguments. -/
  scratch : Nat := 0
  deriving DecidableEq, Repr

/-- Whether native code ended with a signal. -/
def Invocation.hasFaulted (r : Invocation) : Bool := r.fault != 0

/-- The text at an address. A null pointer is the empty text. -/
def textAt (m : Memory) (address : UInt64) : Except AccessFault String :=
  if address = 0 then .ok "" else (m.text address).map Utf8.toText

/-- The value of a scalar kind in the bits of a slot or a register. -/
def scalarOfBits (t : Token) (bits : UInt64) : Value :=
  if t.kind.isReal then .real (Slot.toReal t.kind bits)
  else .int (Slot.toInt t.kind t.isUnsigned bits)

/-- The value of a declared type at an address. -/
def valueAt (m : Memory) (address : UInt64) (t : Token) : Except AccessFault Value :=
  match t.kind with
  | .text =>
    (m.load address 8).bind fun bs => (textAt m (Bytes.toWord bs)).map .text
  | kind => (m.load address kind.size).map fun bs => scalarOfBits t (Bytes.toWord bs)

/-- A read as a body of code: it returns what was read or raises the signal of the failure. -/
def attempt {σ α : Type} (read : Except AccessFault α) (t : Thread σ) : Ending α × Thread σ :=
  match read with
  | .ok a => (.returned a, t)
  | .error fault => raise fault.signal t

/-- How a region ended. A signal that left it counts as its fault. -/
def Ending.guarded {α : Type} : Ending (Guarded α) → Guarded α
  | .returned g => g
  | .unwinding _ signal | .died signal => .faulted signal

/-- The outcome of a read under the trap. -/
def guardedRead {α : Type} (read : Except AccessFault α) : Guarded α :=
  (guarded (attempt read) ⟨(), []⟩).1.guarded

@[simp] theorem guardedRead_ok {α : Type} (a : α) : guardedRead (.ok a) = .completed a := rfl

/-- A read that fails ends its region with the signal of the failure. -/
@[simp] theorem guardedRead_error {α : Type} (fault : AccessFault) :
    guardedRead (.error fault : Except AccessFault α) = .faulted fault.signal := by
  have hraise : (attempt (.error fault) : Thread Unit → Ending α × Thread Unit) =
      raise fault.signal := rfl
  rw [guardedRead, hraise, guarded_raise fault.signal_trapped]
  rfl

/-- The result of a region that came to one. -/
def Guarded.value? {α : Type} : Guarded α → Option α
  | .completed a => some a
  | .faulted _ => none

theorem value?_guardedRead {α : Type} (read : Except AccessFault α) :
    (guardedRead read).value? = read.toOption := by
  cases read with
  | ok a => rfl
  | error fault =>
    rw [guardedRead_error]
    rfl

/-- The value that the return registers stand for. -/
def readResult (m : Memory) (t : Token) (r : Returned) : Guarded Value :=
  if t.byAddress then
    if r.integer = 0 then .completed (.emptyOf t.kind) else guardedRead (valueAt m r.integer t)
  else
    match t.kind with
    | .text => guardedRead ((textAt m r.integer).map .text)
    | .single | .double => .completed (scalarOfBits t r.real)
    | _ => .completed (scalarOfBits t r.integer)

namespace Argument

/-- The text that a text argument has after the call: the one in its buffer while its slot still
points there, and otherwise the one that the slot points to, if it can be read. -/
def textOutput? (m : Memory) (a : Argument) : Option String :=
  a.buffer.bind fun b =>
    if b.isStart a.slot then some b.readText else (guardedRead (textAt m a.slot)).value?

/-- The value that goes back into a variable, if any does. A text that the variable has already is
not written again. -/
def output? (m : Memory) (a : Argument) (x : Variable) : Option Value :=
  match a.token.kind with
  | .text =>
    (a.textOutput? m).bind fun s => if x.value.toText = s then none else some (.text s)
  | _ => if a.token.byAddress then some (scalarOfBits a.token a.slot) else none

end Argument

/-- An operand after the output of its argument was written back. -/
def writeOutput (m : Memory) (a : Argument) : Operand → Operand
  | .literal v => .literal v
  | .variable x =>
    match a.output? m x with
    | some v => .variable (x.assign v)
    | none => .variable x

/-- Memory after the text in a buffer was read: the last byte of a buffer without a NUL is one
now. -/
def Memory.terminate (m : Memory) (b : Buffer) : Memory :=
  if 0 ∈ b.bytes then m
  else (m.store (b.start + UInt64.ofNat (b.bytes.length - 1)) [0]).toOption.getD m

/-- Memory after the output of an argument was looked at. Reading the buffer of a variable may
terminate it, and pointers of later arguments that lead there see that. -/
def Argument.settle (m : Memory) (a : Argument) : Operand → Memory
  | .literal _ => m
  | .variable _ =>
    match a.buffer with
    | some b => if a.token.kind = .text ∧ b.isStart a.slot then m.terminate b else m
    | none => m

/-- The pairs of type and value after all outputs were written back, one after the other. -/
def writeOutputs (m : Memory) : List Argument → List Operand → List Operand
  | a :: as, t :: o :: rest => t :: writeOutput m a o :: writeOutputs (a.settle m o) as rest
  | _, operands => operands

/-- The fault of reading the result, or zero. -/
def Guarded.fault {α : Type} : Guarded α → UInt32
  | .completed _ => 0
  | .faulted signal => signal

/-- Value, status and operands of a call after native code ran. `p` is the plan with the contents
that its memory has then. -/
def finish (m : Memory) (r : Invocation) (p : Plan) (operands : List Operand) :
    Value × Status × List Operand :=
  let empty := Value.emptyOf p.result.kind
  if r.hasFaulted then (empty, .afterCall r.delta r.fault, operands)
  else
    let written := writeOutputs m p.arguments operands
    match readResult m p.result r.returned with
    | .completed v =>
      let status := Status.afterCall r.delta r.fault
      (if status.isSuccess then v else empty, status, written)
    | .faulted signal => (empty, .afterCall r.delta signal, written)

/-- The status of a call: an imbalance of the stack, or else the fault of native code, or else the
fault of reading the result. -/
theorem finish_status (m : Memory) (r : Invocation) (p : Plan) (operands : List Operand) :
    (finish m r p operands).2.1 =
      .afterCall r.delta
        (if r.hasFaulted then r.fault else (readResult m p.result r.returned).fault) := by
  simp only [finish]
  split
  · rfl
  · next h =>
    have h0 : r.fault = 0 := by simpa [Invocation.hasFaulted] using h
    cases readResult m p.result r.returned <;> simp [Guarded.fault, h0]

end ForeignCall
