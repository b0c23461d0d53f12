import ForeignCall.Frame

/-!
# Register frames

On a 64-bit machine arguments are described one by one and then placed into registers: integers and
pointers into the ones, floating-point numbers into the others. An integer is widened to a whole
register by its declared width and signedness.

## Main definitions

* `PassedType`: the type under which an argument is passed;
* `RegisterFrame`: the types and values of the arguments;
* `Registers`: what native code finds in its argument registers;
* `RegisterFrame.registers`: the registers that a frame fills;
* `Returned`: what native code leaves behind when it comes back.
-/

namespace ForeignCall

/-- The type under which an argument is passed. -/
inductive PassedType where
  | pointer
  | scalar (kind : Kind) (isUnsigned : Bool)
  deriving DecidableEq, Repr

/-- The types and values of the arguments of a call. -/
structure RegisterFrame where
  /-- The types, in declared order: the one pushed last comes first. -/
  types : List PassedType := []
  /-- The values, in the same order. -/
  values : List UInt64 := []
  /-- The values that there is room for. -/
  capacity : Nat
  /-- The values that are addresses, which have cells of their own. -/
  pointers : Nat := 0
  deriving DecidableEq, Repr

/-- The argument registers that native code finds. -/
structure Registers where
  integers : List UInt64 := []
  reals : List UInt64 := []
  deriving DecidableEq, Repr

/-- What native code leaves behind when it comes back: two return registers, an integer one and a
floating-point one, and the stack. -/
structure Returned where
  integer : UInt64 := 0
  real : UInt64 := 0
  /-- The bytes between the place where the stack should be and the place where it is. -/
  moved : Int32 := 0
  deriving DecidableEq, Repr

namespace RegisterFrame

/-- A frame with room for a number of arguments and a hidden return address. -/
def withCapacity (arguments : Nat) : RegisterFrame :=
  { capacity := arguments + 1 }

/-- Adds a value under a type. -/
def push (f : RegisterFrame) (t : PassedType) (v : UInt64) : RegisterFrame :=
  { f with
    types := t :: f.types
    values := v :: f.values
    capacity := if f.values.length < f.capacity then f.capacity
      else max 4 (max (2 * f.capacity) (f.values.length + 1)) }

instance : CallFrame RegisterFrame where
  pushValue f a := f.push (.scalar a.token.kind a.token.isUnsigned) a.slot
  pushAddress f address _ := { f.push .pointer address with pointers := f.pointers + 1 }
  reservedBytes f := 8 * f.capacity + 8 * f.pointers

/-- A value as a whole register: integers are widened, other values are whole already. -/
def widen : PassedType → UInt64 → UInt64
  | .pointer, v => v
  | .scalar k isUnsigned, v => (Slot.toInt k isUnsigned v).toUInt64

/-- Whether values of a type go into the floating-point registers. -/
def PassedType.isReal : PassedType → Bool
  | .pointer => false
  | .scalar k _ => k.isReal

/-- The registers that a frame fills. -/
def registers (f : RegisterFrame) : Registers :=
  let passed := f.types.zip f.values
  { integers := (passed.filter fun p => !PassedType.isReal p.1).map fun p => widen p.1 p.2
    reals := (passed.filter fun p => PassedType.isReal p.1).map Prod.snd }

end RegisterFrame

end ForeignCall
