import ForeignCall.Loader
import ForeignCall.Marshal

/-!
# Outcomes

What a script gets back from a call, and the reasons for which a call is rejected before native
code runs.

## Main definitions

* `Outcome`: a value and a status;
* `Report`: an outcome and the operands afterwards;
* `Rejection`, with its `Rejection.status`, `Rejection.message` and `Rejection.causes`;
* `Outcome.rejected`: the outcome of a rejected call.
-/

namespace ForeignCall

/-- What a script gets back from a call. -/
structure Outcome where
  value : Value
  status : Status
  deriving DecidableEq, Repr

/-- What a call gives back: its outcome and its operands afterwards. -/
structure Report where
  outcome : Outcome
  operands : List Operand
  deriving DecidableEq, Repr

/-- Why a call is rejected. -/
inductive Rejection where
  /-- There is no function operand. -/
  | missingFunction
  | invalidFunction (text : String)
  | marshal (e : MarshalError)
  | load (e : LoadError)
  | symbol (e : SymbolError)
  deriving DecidableEq, Repr

namespace Rejection

/-- The rejection of a reference that has no address. -/
def ofResolve : ResolveError → Rejection
  | .invalid e => .invalidFunction e.text
  | .load e => .load e
  | .symbol e => .symbol e

/-- The status of a rejected call. -/
def status : Rejection → Status
  | .missingFunction | .invalidFunction _ => .invalidInvocation
  | .marshal _ => .invalidDescriptor
  | .load _ => .libraryLoadFailure
  | .symbol _ => .symbolResolutionFailure

/-- The description of a rejection. -/
def message : Rejection → String
  | .missingFunction => "No function given"
  | .invalidFunction text => (InvalidFunction.mk text).message
  | .marshal e => "Marshaling failed: " ++ e.message
  | .load e => e.message
  | .symbol e => e.message

/-- The descriptions of the errors behind a rejection, the nearest one first. -/
def causes : Rejection → List String
  | .missingFunction | .invalidFunction _ => []
  | .marshal e => e.message :: e.causes
  | .load e => [e.message]
  | .symbol e => [e.message]

/-- The event that reports the rejection of a call to a function. -/
def event (function : String) : Rejection → Event
  | .marshal e => .marshalFailed function e.message
  | r => .callRejected function r.message

end Rejection

/-- The outcome of a rejected call: the empty value of its declared result. -/
def Outcome.rejected (r : Rejection) (result : Kind) : Outcome :=
  ⟨.emptyOf result, r.status⟩

/-- A rejection is never reported as a fault of native code. -/
theorem Rejection.status_ne_calleeFault (r : Rejection) (code : UInt32) :
    r.status ≠ .calleeFault code := by
  cases r <;> simp [Rejection.status]

end ForeignCall
