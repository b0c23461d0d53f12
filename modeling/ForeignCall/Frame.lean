import ForeignCall.Plan

/-!
# Call frames

A call frame takes the arguments of a plan, the last one first. A frame decides for itself what it
keeps of them; the order, and whether an argument goes by value or by address, is the same for all.

## Main definitions

* `CallFrame`: the operations of a frame;
* `drive`: pushes the arguments of a plan onto a frame.
-/

namespace ForeignCall

/-- A frame under construction. -/
class CallFrame (φ : Type) where
  /-- Passes the slot of an argument by value. -/
  pushValue : φ → Argument → φ
  /-- Passes the address of the slot of an argument. -/
  pushAddress : φ → UInt64 → Argument → φ
  /-- The bytes of argument storage that the frame holds. -/
  reservedBytes : φ → Nat

/-- Pushes one argument, which has the given position, in the way that its token declares. -/
def pushArgument {φ : Type} [CallFrame φ] (site : Site) (frame : φ) (a : Argument × Nat) : φ :=
  if a.1.token.byAddress then CallFrame.pushAddress frame (site.slot a.2) a.1
  else CallFrame.pushValue frame a.1

/-- Pushes all arguments of a plan, the last one first. -/
def drive {φ : Type} [CallFrame φ] (frame : φ) (p : Plan) : φ :=
  p.arguments.zipIdx.reverse.foldl (pushArgument p.site) frame

end ForeignCall
