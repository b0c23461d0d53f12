import ForeignCall.Frame.Registers
import ForeignCall.Outcome
import ForeignCall.Trap

/-!
# Native routines

What a native function does, as a tree of its effects: it reads and writes memory, makes calls of
its own through the process-wide loader, may raise a signal, and in the end leaves its return
registers. Each effect says how the function goes on with what it yields.

An access that fails raises the signal of its failure. A call for which the native stack has no room
raises a segmentation fault.

## Main definitions

* `Routine`: what a native function does;
* `Engine`, `Tally`, `Machine`: the state that calls share;
* `Routine.run`: runs a routine.
-/

namespace ForeignCall

/-- What a native function does from some point on. -/
inductive Routine where
  | ret (r : Returned)
  | raise (signal : Signal)
  /-- Reads a number of bytes. -/
  | load (address : UInt64) (count : Nat) (next : List UInt8 → Routine)
  /-- Reads the bytes in front of the next NUL. -/
  | text (address : UInt64) (next : List UInt8 → Routine)
  | store (address : UInt64) (bytes : List UInt8) (next : Routine)
  /-- Makes a call of its own. -/
  | call (operands : List Operand) (next : Report → Routine)

/-- A native function: what it does with the registers that it finds. -/
abbrev Callee := Registers → Routine

/-- The counters of an engine. -/
structure Tally where
  calls : Nat := 0
  marshalingErrors : Nat := 0
  faults : Nat := 0
  imbalances : Nat := 0
  deriving DecidableEq, Repr

/-- The state that all calls of a process share. -/
structure Engine where
  /-- The process-wide loader, once it exists. -/
  loader : Option Loader := none
  tally : Tally := {}
  /-- Whether the handlers of the fault trap are installed. -/
  isTrapReady : Bool := false
  deriving DecidableEq, Repr

/-- The state that native code runs on. -/
structure Machine where
  memory : Memory := []
  engine : Engine := {}
  trace : Trace := []
  deriving DecidableEq, Repr

namespace Machine

/-- Adds entries to the trace. -/
def log (m : Machine) (entries : Trace) : Machine :=
  { m with trace := m.trace ++ entries }

/-- Changes the counters. -/
def count (m : Machine) (f : Tally → Tally) : Machine :=
  { m with engine := { m.engine with tally := f m.engine.tally } }

end Machine

/-- A change of the state of a thread. -/
def Thread.modify {σ : Type} (t : Thread σ) (f : σ → σ) : Thread σ :=
  { t with state := f t.state }

/-- A call that native code makes: its report and the thread after it. -/
abbrev NestedCall := List Operand → Thread Machine → Ending Report × Thread Machine

/-- Runs a routine. Calls of its own go to `nested`; there is none when the stack is used up. -/
def Routine.run (nested : Option NestedCall) :
    Routine → Thread Machine → Ending Returned × Thread Machine
  | .ret r, t => (.returned r, t)
  | .raise signal, t => ForeignCall.raise signal t
  | .load address count next, t =>
    match t.state.memory.load address count with
    | .ok bytes => (next bytes).run nested t
    | .error fault => ForeignCall.raise fault.signal t
  | .text address next, t =>
    match t.state.memory.text address with
    | .ok bytes => (next bytes).run nested t
    | .error fault => ForeignCall.raise fault.signal t
  | .store address bytes next, t =>
    match t.state.memory.store address bytes with
    | .ok memory => next.run nested (t.modify fun m => { m with memory })
    | .error fault => ForeignCall.raise fault.signal t
  | .call operands next, t =>
    match nested with
    | none => ForeignCall.raise Signal.segmentation t
    | some perform =>
      match perform operands t with
      | (.returned r, t') => (next r).run nested t'
      | (.unwinding point signal, t') => (.unwinding point signal, t')
      | (.died signal, t') => (.died signal, t')

end ForeignCall
