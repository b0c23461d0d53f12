import ForeignCall.Value

/-!
# Variables and operands

A variable is named storage of the script. Besides its value it has a capacity: the number of bytes
that a native function may write when the variable is passed as a text. A call receives a list of
operands, each a literal value or a variable.

## Main definitions

* `Variable`, with `Variable.ofValue`, `Variable.reserve` and `Variable.assign`;
* `Operand`, with `Operand.value`.

## Main results

* `Variable.capacity_le_reserve`, `Variable.capacity_le_assign`: the capacity never shrinks;
* `Variable.textSize_lt_assign`: after an assignment the capacity exceeds the text.
-/

namespace ForeignCall

/-- Named storage of the script. -/
structure Variable where
  name : String
  value : Value
  /-- The bytes that a text buffer for the variable has, with its terminator. -/
  capacity : Nat
  deriving DecidableEq, Repr

namespace Variable

/-- A variable that holds a value, with room for its text and a terminator. -/
def ofValue (name : String) (value : Value) : Variable :=
  ⟨name, value, value.textSize + 1⟩

/-- A variable that holds the empty text. -/
def empty (name : String) : Variable :=
  ofValue name (.text "")

/-- Grows the capacity to at least the given number of bytes. -/
def reserve (x : Variable) (bytes : Nat) : Variable :=
  { x with capacity := max x.capacity bytes }

/-- Replaces the value, and grows the capacity to its text and a terminator. -/
def assign (x : Variable) (value : Value) : Variable :=
  { x with value, capacity := max x.capacity (value.textSize + 1) }

theorem capacity_le_reserve (x : Variable) (bytes : Nat) :
    x.capacity ≤ (x.reserve bytes).capacity ∧ bytes ≤ (x.reserve bytes).capacity :=
  ⟨Nat.le_max_left _ _, Nat.le_max_right _ _⟩

theorem capacity_le_assign (x : Variable) (v : Value) : x.capacity ≤ (x.assign v).capacity :=
  Nat.le_max_left _ _

theorem textSize_lt_assign (x : Variable) (v : Value) : v.textSize < (x.assign v).capacity :=
  Nat.lt_of_lt_of_le (Nat.lt_succ_self _) (Nat.le_max_right _ _)

end Variable

/-- One entry of the list that a call receives. -/
inductive Operand where
  | literal (v : Value)
  | variable (x : Variable)
  deriving DecidableEq, Repr

namespace Operand

/-- The value of a literal, or the contents of a variable. -/
def value : Operand → Value
  | .literal v => v
  | .variable x => x.value

/-- The text of the value. -/
def text (o : Operand) : String := o.value.toText

end Operand

end ForeignCall
