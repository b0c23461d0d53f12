/-!
# The fault trap

Native code that touches bad memory or divides by zero raises a signal. While a recovery point is
active the signal is not deadly: control jumps back to the innermost point, and the region that set
it up reports the signal as a fault. Points nest. A region that is left, in whichever way, makes the
point active again that was active when it was entered.

## Main definitions

* `Guarded`: how a guarded region ends;
* `Ending`: how native code ends, with a jump to a recovery point as one of the ways;
* `Thread`: a state together with the active recovery points, the innermost first;
* `raise`: what a signal does;
* `guarded`: runs code under a recovery point of its own.

## Main results

* `guarded_raise`: a signal ends the innermost region.
-/

namespace ForeignCall

/-- The number of a signal. -/
abbrev Signal := UInt32

namespace Signal

def illegalInstruction : Signal := 4
def busError : Signal := 7
def arithmetic : Signal := 8
def segmentation : Signal := 11

/-- The signals that are trapped, in the order in which their handlers are installed. -/
def trapped : List Signal := [segmentation, busError, arithmetic, illegalInstruction]

end Signal

/-- How a guarded region ends. -/
inductive Guarded (α : Type) where
  | completed (a : α)
  | faulted (signal : Signal)
  deriving DecidableEq, Repr

/-- How a stretch of native code ends. -/
inductive Ending (α : Type) where
  | returned (a : α)
  /-- A signal was raised, and control is on its way to a recovery point. -/
  | unwinding (point : Nat) (signal : Signal)
  /-- A signal was raised that nothing recovers from. -/
  | died (signal : Signal)
  deriving DecidableEq, Repr

/-- A state together with the active recovery points, the innermost first. -/
structure Thread (σ : Type) where
  state : σ
  points : List Nat := []

/-- A signal makes control jump to the innermost recovery point, if the signal is trapped and there
is one. -/
def raise {σ α : Type} (signal : Signal) (t : Thread σ) : Ending α × Thread σ :=
  match t.points with
  | [] => (.died signal, t)
  | p :: _ => if signal ∈ Signal.trapped then (.unwinding p signal, t) else (.died signal, t)

/-- Runs a body under a recovery point of its own. A jump to that point ends the region with a
fault; a jump to a point farther out goes on. -/
def guarded {σ α : Type} (body : Thread σ → Ending α × Thread σ) (t : Thread σ) :
    Ending (Guarded α) × Thread σ :=
  let point := t.points.length
  match body { t with points := point :: t.points } with
  | (.returned a, t') => (.returned (.completed a), { t' with points := t.points })
  | (.unwinding p signal, t') =>
    if p = point then (.returned (.faulted signal), { t' with points := t.points })
    else (.unwinding p signal, t')
  | (.died signal, t') => (.died signal, t')

/-- A trapped signal ends the innermost region, and only that one. -/
theorem guarded_raise {σ α : Type} {signal : Signal} (h : signal ∈ Signal.trapped)
    (t : Thread σ) : guarded (raise (α := α) signal) t = (.returned (.faulted signal), t) := by
  simp [guarded, raise, h]

end ForeignCall
