import ForeignCall.Value

/-!
# Call status

Next to its value every call reports a status. The script sees it as a text: `0` for success, a
small negative number for a call that never reached native code, `A` with a number of bytes for a
stack that did not come back where it was, and a hexadecimal code for a fault.

## Main definitions

* `Status`, `Status.afterCall`: the status and the rule for it after native code ran;
* `Status.text`: what the script sees.

## Main results

* `Status.afterCall_eq_success_iff`: a call succeeds when the stack is level and nothing faulted.
-/

namespace ForeignCall

/-- What a call reports next to its value. -/
inductive Status where
  | success
  /-- The function operand is missing or names no function. -/
  | invalidInvocation
  /-- A type token or an argument is bad. -/
  | invalidDescriptor
  | libraryLoadFailure
  | symbolResolutionFailure
  /-- The stack moved by a number of bytes. -/
  | stackImbalance (delta : Int32)
  /-- Native code raised a signal. -/
  | calleeFault (code : UInt32)
  deriving DecidableEq, Repr, Inhabited

/-- A code with its hexadecimal digits in capitals. -/
def codeText (code : UInt32) : String :=
  "0x" ++ String.ofList ((Nat.toDigits 16 code.toNat).map Char.toUpper)

namespace Status

/-- Whether the status is success. -/
def isSuccess (s : Status) : Bool := s == .success

/-- The status after native code ran. An imbalance is reported ahead of a fault, since wrong
arguments usually are what made the code fault. -/
def afterCall (delta : Int32) (fault : UInt32) : Status :=
  if delta ≠ 0 then .stackImbalance delta
  else if fault ≠ 0 then .calleeFault fault
  else .success

/-- The text of a status. -/
def text : Status → String
  | .success => "0"
  | .invalidInvocation => "-1"
  | .invalidDescriptor => "-2"
  | .libraryLoadFailure => "-3"
  | .symbolResolutionFailure => "-4"
  | .stackImbalance delta => "A" ++ Value.intText delta.toInt
  | .calleeFault code => codeText code

theorem afterCall_eq_success_iff {delta : Int32} {fault : UInt32} :
    afterCall delta fault = .success ↔ delta = 0 ∧ fault = 0 := by
  simp only [afterCall]
  split <;> rename_i h
  · simp [h]
  · split <;> simp_all

/-- A fault is reported as such unless the stack moved as well. -/
theorem afterCall_of_fault_ne_zero {delta : Int32} {fault : UInt32} (h : fault ≠ 0) :
    afterCall delta fault = .calleeFault fault ∨ afterCall delta fault = .stackImbalance delta := by
  by_cases hd : delta ≠ 0
  · exact .inr (if_pos hd)
  · exact .inl (by rw [afterCall, if_neg hd, if_pos h])

/-- The code of a reported fault is the one that was raised. -/
theorem of_afterCall_eq_calleeFault {delta : Int32} {fault code : UInt32}
    (h : afterCall delta fault = .calleeFault code) : fault = code ∧ code ≠ 0 := by
  rw [afterCall] at h
  split at h
  · exact absurd h (by simp)
  · split at h
    · next hf =>
      obtain rfl := Status.calleeFault.inj h
      exact ⟨rfl, hf⟩
    · exact absurd h (by simp)

end Status

end ForeignCall
