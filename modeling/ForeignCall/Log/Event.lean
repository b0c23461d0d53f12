import ForeignCall.Kind
import ForeignCall.Log.Level
import ForeignCall.Status

/-!
# Log events

Everything worth a log line on the way of a call: what was converted, which libraries were loaded,
when native code was entered and left, and what went wrong. A call also opens and closes a span, in
which its events lie.

## Main definitions

* `Event`, with its `Event.name`, `Event.level`, `Event.message` and `Event.fields`;
* `Entry`: an event, or the start or end of the span of a call;
* `Trace`: the entries in the order in which they happened.
-/

namespace ForeignCall

/-- Something worth a log line. -/
inductive Event where
  /-- A value of a type was made into an argument of a kind. -/
  | typeConversion (source : String) (target : Kind)
  /-- A library was loaded, or failed to load. -/
  | libraryLoad (library : String) (loaded : Bool)
  /-- Native code is about to run. -/
  | nativeCall (function : String) (arguments : Nat)
  /-- Native code is back. -/
  | nativeReturn (function : String) (status : Status)
  /-- A call was rejected for its function operand. -/
  | callRejected (function : String) (error : String)
  /-- A call was rejected for a token or an argument. -/
  | marshalFailed (function : String) (error : String)
  /-- Native code faulted. -/
  | calleeFault (function : String) (code : UInt32)
  /-- The stack did not come back where it was. -/
  | stackImbalance (function : String) (delta : Int32)
  /-- The handlers of the fault trap were installed. -/
  | trapInstalled (signals : Nat)
  deriving DecidableEq, Repr

/-- The value of a field of a log line. -/
inductive Field where
  | text (s : String)
  | number (i : Int)
  deriving DecidableEq, Repr

namespace Event

/-- The name of an event. -/
def name : Event → String
  | .typeConversion .. => "type_conversion"
  | .libraryLoad .. => "library_load"
  | .nativeCall .. => "ffi_call"
  | .nativeReturn .. => "ffi_return"
  | .callRejected .. => "ffi_error"
  | .marshalFailed .. => "marshal_error"
  | .calleeFault .. => "callee_fault"
  | .stackImbalance .. => "stack_imbalance"
  | .trapInstalled .. => "trap_installed"

/-- The level of an event. -/
def level : Event → Level
  | .typeConversion .. | .nativeReturn .. => .trace
  | .libraryLoad _ loaded => if loaded then .debug else .warn
  | .nativeCall .. | .trapInstalled .. => .debug
  | .callRejected .. | .marshalFailed .. | .stackImbalance .. => .warn
  | .calleeFault .. => .error

/-- The sentence that goes with an event. -/
def message : Event → String
  | .typeConversion .. => "Type conversion performed"
  | .libraryLoad _ loaded => if loaded then "Library loaded" else "Library failed to load"
  | .nativeCall .. => "Native function called"
  | .nativeReturn .. => "Native function returned"
  | .callRejected .. => "Native call rejected"
  | .marshalFailed .. => "Argument marshaling failed"
  | .calleeFault .. => "Native function faulted"
  | .stackImbalance .. => "Declared arguments do not match the callee"
  | .trapInstalled .. => "Fault handlers installed"

/-- The particulars of an event. -/
def details : Event → List (String × Field)
  | .typeConversion source target => [("from", .text source), ("to", .text target.name)]
  | .libraryLoad library _ => [("library", .text library)]
  | .nativeCall function n => [("function", .text function), ("args", .number n)]
  | .nativeReturn function status =>
    [("function", .text function), ("status", .text status.text)]
  | .callRejected function error | .marshalFailed function error =>
    [("function", .text function), ("error", .text error)]
  | .calleeFault function code =>
    [("function", .text function), ("code", .text (codeText code))]
  | .stackImbalance function delta =>
    [("function", .text function), ("delta_bytes", .number delta.toInt)]
  | .trapInstalled n => [("signals", .number n)]

/-- The fields of the log line of an event. -/
def fields (e : Event) : List (String × Field) :=
  ("message", .text e.message) :: ("event", .text e.name) :: e.details

end Event

/-- An entry of a trace. -/
inductive Entry where
  /-- A call began; what follows up to its end lies in its span. -/
  | opened (function : String)
  | event (e : Event)
  | closed (function : String)
  deriving DecidableEq, Repr

/-- What happened, in order. -/
abbrev Trace := List Entry

/-- The events of a trace, without the spans. -/
def Trace.events (t : Trace) : List Event :=
  t.filterMap fun
    | .event e => some e
    | _ => none

/-- A trace of events alone. -/
def Trace.ofEvents (es : List Event) : Trace := es.map .event

@[simp] theorem Trace.events_ofEvents (es : List Event) : Trace.events (.ofEvents es) = es := by
  induction es with
  | nil => rfl
  | cons e es ih =>
    simp only [Trace.ofEvents, Trace.events, List.map_cons, List.filterMap_cons] at ih ⊢
    rw [ih]

theorem Trace.events_append (s t : Trace) :
    Trace.events (s ++ t) = Trace.events s ++ Trace.events t := by
  simp [Trace.events]

end ForeignCall
