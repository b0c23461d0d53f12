import ForeignCall.Routine
import ForeignCall.Writeback

/-!
# Calls

A call first looks at its operands, in this order: is there a function operand, is the declared
result a type, does the function operand have an address, are the arguments well formed. The first
failure rejects the call, and nothing native happens. Otherwise the arguments are placed in memory,
native code runs under the trap, and its results are written back.

Native code may make calls of its own. Those go through the process-wide loader and are calls like
any other; their storage lies apart from the storage of the calls around them.

## Scope

Control goes over from a register frame, on one thread. Of a machine with 32-bit words there is the
layout of the arguments, in `StackFrame`, and the stack that it measures around native code, in
`World.stackDelta`; the transfer from such a frame is left out. So are platforms without signals,
and handlers that were there before the trap: a signal outside all regions ends the run.

## Main definitions

* `World`: the libraries, the code and the data of a system;
* `World.stackDelta`: how far native code left the stack from its place;
* `prepare`: the part of a call before native code runs;
* `Machine.beginCall`, `Machine.endCall`, `Machine.refuse`: what a call reports and counts;
* `World.invoke`: the transfer of control to native code;
* `World.complete`: the part of a call from there on;
* `World.nestedCall`: calls that native code makes;
* `World.callWith`, `World.callShared`: a call through a loader of its own, and through the
  process-wide one.
-/

namespace ForeignCall

/-- A system that calls run on. -/
structure World where
  libraries : Libraries
  /-- The native function at an address. -/
  code : UInt64 → Option Callee
  /-- The memory that native code has from the start. -/
  data : Memory := []
  /-- The number of calls within calls that the native stack has room for. -/
  nesting : Nat := 1000
  /-- Whether the frames of the platform look at where native code leaves the stack. -/
  measuresStack : Bool := false

/-- A call that is ready for native code. -/
structure Prepared where
  function : String
  target : UInt64
  plan : Plan
  params : List Operand
  deriving DecidableEq, Repr

/-- A rejection, with the name of the function and the kind of the declared result. -/
structure Refusal where
  function : String
  reason : Rejection
  result : Kind
  deriving DecidableEq, Repr

/-- The part of a call with a function operand before native code runs: the loader afterwards, the
events, and the call that is ready or refused. -/
def prepareFunction (w : Libraries) (site : Site) (loader : Loader) (function : Operand)
    (params : List Operand) : Loader × List Event × Except Refusal Prepared :=
  let name := function.text
  let (pairs, last) := splitResult params
  match resultToken last with
  | .error e => (loader, [], .error ⟨name, .marshal e, .int32⟩)
  | .ok (result, convention) =>
    let (loader', loads, resolved) := loader.resolveValue w function.value
    match resolved with
    | .error e => (loader', loads, .error ⟨name, .ofResolve e, result.kind⟩)
    | .ok target =>
      let (conversions, marshaled) := marshalPairs site 0 pairs
      (loader', loads ++ conversions,
        match marshaled with
        | .error e => .error ⟨name, .marshal e, result.kind⟩
        | .ok arguments =>
          .ok ⟨name, target, { site, arguments, convention, result }, params⟩)

/-- The part of a call before native code runs. -/
def prepare (w : Libraries) (site : Site) (loader : Loader) :
    List Operand → Loader × List Event × Except Refusal Prepared
  | [] => (loader, [], .error ⟨"", .missingFunction, .int32⟩)
  | function :: params => prepareFunction w site loader function params

/-- The counters after a call with a status. -/
def Tally.afterStatus (t : Tally) : Status → Tally
  | .calleeFault _ => { t with faults := t.faults + 1 }
  | .stackImbalance _ => { t with imbalances := t.imbalances + 1 }
  | _ => t

/-- The counters after a rejection. -/
def Tally.afterRejection (t : Tally) : Rejection → Tally
  | .marshal _ => { t with marshalingErrors := t.marshalingErrors + 1 }
  | _ => t

/-- The event that reports a bad status of a call to a function. -/
def Status.warning? (function : String) : Status → Option Event
  | .calleeFault code => some (.calleeFault function code)
  | .stackImbalance delta => some (.stackImbalance function delta)
  | _ => none

/-- The name under which a call is reported: the text of its function operand. -/
def callName (operands : List Operand) : String :=
  (operands.head?.map Operand.text).getD ""

/-- The start of the span of a call. A call without a function operand has no span. -/
def spanStart (operands : List Operand) : Trace :=
  if operands.isEmpty then [] else [.opened (callName operands)]

/-- The end of the span of a call. -/
def spanEnd (operands : List Operand) : Trace :=
  if operands.isEmpty then [] else [.closed (callName operands)]

@[simp] theorem events_spanStart (operands : List Operand) :
    Trace.events (spanStart operands) = [] := by
  cases operands <;> rfl

@[simp] theorem events_spanEnd (operands : List Operand) :
    Trace.events (spanEnd operands) = [] := by
  cases operands <;> rfl

namespace Machine

/-- The state in which native code is about to be entered: the call is reported and counted. -/
def beginCall (m : Machine) (c : Prepared) : Machine :=
  (m.log [.event (.nativeCall c.function c.plan.arguments.length)]).count
    fun n => { n with calls := n.calls + 1 }

/-- The state after a call with a status: its storage is gone, and the status is reported and
counted. -/
def endCall (m : Machine) (c : Prepared) (status : Status) : Machine :=
  let m := { m with memory := m.memory.drop c.plan.place.length }
  (m.log (.ofEvents ((status.warning? c.function).toList ++
    [.nativeReturn c.function status]))).count fun n => n.afterStatus status

/-- The state after a call was refused: the refusal is reported and counted. -/
def refuse (m : Machine) (e : Refusal) : Machine :=
  (m.log [.event (e.reason.event e.function)]).count fun n => n.afterRejection e.reason

/-- Makes sure that the handlers of the trap are installed. -/
def installTrap (m : Machine) : Machine :=
  if m.engine.isTrapReady then m
  else
    { m with engine := { m.engine with isTrapReady := true } }.log
      [.event (.trapInstalled Signal.trapped.length)]

end Machine

namespace World

/-- What happens at an address. Where there is no code, jumping faults. -/
def enter (w : World) (nested : Option NestedCall) (target : UInt64) (r : Registers)
    (t : Thread Machine) : Ending Returned × Thread Machine :=
  match w.code target with
  | some callee => (callee r).run nested t
  | none => raise Signal.segmentation t

/-- The bytes between the place where native code left the stack and the one where it should be.
They are known where the platform measures them, and the convention tells that place. -/
def stackDelta (w : World) (convention : Convention) (r : Returned) : Int32 :=
  if w.measuresStack && convention.measuresStack then r.moved else 0

/-- Transfers control to native code and back, under the trap. The arguments lie in memory while
native code runs; the plan that is given back has the contents that it left there, and the memory
that is given back is the one that its results are read from. -/
def invoke (w : World) (nested : Option NestedCall) (target : UInt64) (p : Plan)
    (t : Thread Machine) : Ending (Invocation × Plan) × Thread Machine :=
  let frame := drive (RegisterFrame.withCapacity p.arguments.length) p
  let scratch := CallFrame.reservedBytes frame
  let t := t.modify fun m => { m.installTrap with memory := p.place ++ m.memory }
  match guarded (w.enter nested target frame.registers) t with
  | (.returned g, t') =>
    let p' := p.reload t'.state.memory
    let result : Invocation :=
      match g with
      | .completed returned => { returned, delta := w.stackDelta p.convention returned, scratch }
      | .faulted signal => { fault := signal, scratch }
    (.returned (result, p'), t')
  | (.unwinding point signal, t') => (.unwinding point signal, t')
  | (.died signal, t') => (.died signal, t')

/-- The part of a prepared call in which native code runs and its results are written back. -/
def perform (w : World) (nested : Option NestedCall) (c : Prepared) (t : Thread Machine) :
    Ending Report × Thread Machine :=
  match w.invoke nested c.target c.plan (t.modify (·.beginCall c)) with
  | (.returned (result, p), t') =>
    let (value, status, params) := finish t'.state.memory result p c.params
    (.returned ⟨⟨value, status⟩, params⟩, t'.modify (·.endCall c status))
  | (.unwinding point signal, t') => (.unwinding point signal, t')
  | (.died signal, t') => (.died signal, t')

/-- What follows the preparation of a call: a refusal is reported, and a call that is ready is
performed. -/
def complete (w : World) (nested : Option NestedCall) (operands : List Operand)
    (events : List Event) (c : Except Refusal Prepared) (t : Thread Machine) :
    Ending Report × Thread Machine :=
  let t := t.modify (·.log (spanStart operands ++ .ofEvents events))
  match c with
  | .error e =>
    (.returned ⟨.rejected e.reason e.result, operands⟩,
      t.modify fun m => (m.refuse e).log (spanEnd operands))
  | .ok c =>
    match w.perform nested c t with
    | (.returned r, t') =>
      (.returned { r with operands := operands.take 1 ++ r.operands },
        t'.modify (·.log (spanEnd operands)))
    | (.unwinding point signal, t') => (.unwinding point signal, t')
    | (.died signal, t') => (.died signal, t')

/-- A call through the process-wide loader, which is created when there is none. -/
def sharedCall (w : World) (nested : Option NestedCall) (operands : List Operand)
    (t : Thread Machine) : Ending Report × Thread Machine :=
  let (loader, events, c) :=
    prepare w.libraries ⟨t.points.length⟩ (t.state.engine.loader.getD {}) operands
  w.complete nested operands events c
    (t.modify fun m => { m with engine := { m.engine with loader := some loader } })

/-- Calls that native code makes while the stack has room for the given number of them. -/
def nestedCall (w : World) : Nat → Option NestedCall
  | 0 => none
  | n + 1 => some fun operands t => w.sharedCall (w.nestedCall n) operands t

end World

/-- What a call leaves behind: the report of the call, the loader it went through, the engine, and
what happened. -/
structure CallResult where
  ending : Ending Report
  loader : Loader
  engine : Engine
  trace : Trace
  deriving DecidableEq, Repr

namespace World

/-- A call that goes through a loader of its own. -/
def callWith (w : World) (loader : Loader) (operands : List Operand) (engine : Engine) :
    CallResult :=
  let (loader', events, c) := prepare w.libraries ⟨0⟩ loader operands
  let (ending, t) :=
    w.complete (w.nestedCall w.nesting) operands events c ⟨{ memory := w.data, engine }, []⟩
  ⟨ending, loader', t.state.engine, t.state.trace⟩

/-- A call that goes through the process-wide loader. -/
def callShared (w : World) (operands : List Operand) (engine : Engine) : CallResult :=
  let (ending, t) :=
    w.sharedCall (w.nestedCall w.nesting) operands ⟨{ memory := w.data, engine }, []⟩
  ⟨ending, t.state.engine.loader.getD {}, t.state.engine, t.state.trace⟩

/-- Configures the process-wide loader. It stays as it is when it exists already, and the flag tells
whether it did not. -/
def configure (config : LoaderConfig) (engine : Engine) : Engine × Bool :=
  match engine.loader with
  | some _ => (engine, false)
  | none => ({ engine with loader := some { config } }, true)

end World

end ForeignCall
