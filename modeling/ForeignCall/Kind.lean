/-!
# Kinds of arguments

The seven kinds of values that a native function may take or return, and the two calling
conventions.

## Main definitions

* `Kind`, with its `Kind.name`, `Kind.size`, `Kind.stackWords`, `Kind.width` and `Kind.modulus`;
* `Convention`: who removes the arguments from the stack.
-/

namespace ForeignCall

/-- The kinds of values that cross the border to native code. -/
inductive Kind where
  | text
  | int32
  | int16
  | int8
  | int64
  | single
  | double
  deriving DecidableEq, Repr

namespace Kind

/-- Every kind, in catalogue order. -/
def all : List Kind := [.text, .int32, .int16, .int8, .int64, .single, .double]

/-- The word that declares the kind. -/
def name : Kind → String
  | .text => "Str"
  | .int32 => "Int"
  | .int16 => "Short"
  | .int8 => "Char"
  | .int64 => "Int64"
  | .single => "Float"
  | .double => "Double"

/-- The bytes that a value of the kind takes in memory; a text is a pointer. -/
def size : Kind → Nat
  | .int8 => 1
  | .int16 => 2
  | .int32 | .single => 4
  | .int64 | .double | .text => 8

/-- The bits that an integer of the kind keeps. The kinds that are no integers keep the whole
slot. -/
def width : Kind → Nat
  | .int8 => 8
  | .int16 => 16
  | .int32 => 32
  | .int64 | .text | .single | .double => 64

/-- The number of integers of the kind. -/
def modulus (k : Kind) : Nat := Nat.pow 2 k.width

/-- The words of a 32-bit stack that a value of the kind takes. -/
def stackWords : Kind → Nat
  | .int64 | .double => 2
  | _ => 1

/-- Whether values of the kind are floating-point numbers. -/
def isReal : Kind → Bool
  | .single | .double => true
  | _ => false

/-- Whether values of the kind are integers. -/
def isInteger : Kind → Bool
  | .int8 | .int16 | .int32 | .int64 => true
  | _ => false

/-- Whether a function returns values of the kind through memory that its caller provides. None of
the kinds does. -/
def returnsThroughMemory (_ : Kind) : Bool := false

theorem mem_all (k : Kind) : k ∈ all := by
  cases k <;> decide

theorem width_le (k : Kind) : k.width ≤ 64 := by
  cases k <;> decide

/-- No value takes more than two words. -/
theorem stackWords_le (k : Kind) : k.stackWords ≤ 2 := by
  cases k <;> decide

theorem modulus_pos (k : Kind) : 0 < k.modulus := by
  cases k <;> decide

theorem modulus_le (k : Kind) : k.modulus ≤ 0x10000000000000000 := by
  cases k <;> decide

theorem ne_text_of_isInteger {k : Kind} (h : k.isInteger = true) : k ≠ .text := by
  rintro rfl
  exact absurd h (by decide)

theorem not_isReal_of_isInteger {k : Kind} (h : k.isInteger = true) : ¬ k.isReal = true := by
  cases k <;> first | decide | exact absurd h (by decide)

end Kind

/-- A calling convention. -/
inductive Convention where
  /-- The called function removes its arguments. -/
  | standard
  /-- The caller removes the arguments. -/
  | c
  deriving DecidableEq, Repr, Inhabited

namespace Convention

/-- Both conventions, the default one first. -/
def all : List Convention := [.standard, .c]

/-- The name of the convention. -/
def name : Convention → String
  | .standard => "StandardCall"
  | .c => "CCall"

/-- Whether the called function removes its arguments. -/
def calleeCleans : Convention → Bool
  | .standard => true
  | .c => false

/-- Whether a stack that moved during the call tells that the declared arguments were wrong. -/
def measuresStack (convention : Convention) : Bool := convention.calleeCleans

end Convention

end ForeignCall
