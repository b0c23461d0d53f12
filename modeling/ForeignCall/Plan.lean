import ForeignCall.Buffer
import ForeignCall.Memory
import ForeignCall.Slot
import ForeignCall.Token

/-!
# Call plans

A call plan holds all that native code is going to see: one argument after the other, each with its
slot and, for a text, the buffer that the slot points to, together with the convention and the
declared type of the result.

Slots and buffers lie at addresses that depend on the nesting depth of the call and the position of
the argument alone. They are placed in memory before native code runs and read back when it is done.

## Main definitions

* `Argument`, `Plan`;
* `Site.slot`, `Site.buffer`: where the storage of an argument lies;
* `Plan.place`, `Plan.reload`: the storage of a plan as memory, and a plan with the contents that
  memory has.

## Main results

* `Plan.reload_place`: a plan whose memory was not written is unchanged.
-/

namespace ForeignCall

open Number (Double)

/-- The nesting depth of a call; it decides where the call has its storage. -/
structure Site where
  depth : Nat := 0
  deriving DecidableEq, Repr

namespace Site

/-- The first address of the storage of a call. -/
def origin (s : Site) : Nat :=
  4096 + 0x100000000000 + s.depth * 0x1000000000000

/-- The address of the slot of an argument. -/
def slot (s : Site) (index : Nat) : UInt64 :=
  UInt64.ofNat (s.origin + 16 * index)

/-- The address of the text buffer of an argument. -/
def buffer (s : Site) (index : Nat) : UInt64 :=
  UInt64.ofNat (s.origin + 0x100000000 * (index + 1))

/-- No buffer lies at the null address. -/
theorem buffer_ne_zero (s : Site) (index : Nat) : s.buffer index ≠ 0 := by
  intro h
  have := congrArg UInt64.toNat h
  simp only [buffer, origin, UInt64.toNat_ofNat', UInt64.toNat_zero] at this
  omega

end Site

/-- An argument: its declaration, its slot, and its text buffer if it is a text. -/
structure Argument where
  token : Token
  slot : UInt64 := 0
  buffer : Option Buffer := none
  deriving DecidableEq, Repr

namespace Argument

/-- Stores an integer, narrowed to the declared width. -/
def storeInt (a : Argument) (v : Int64) : Argument :=
  { a with slot := Slot.ofInt a.token.kind v }

/-- The integer in the slot. -/
def readInt (a : Argument) : Int64 :=
  Slot.toInt a.token.kind a.token.isUnsigned a.slot

/-- Stores a floating-point number, narrowed to the declared precision. -/
def storeReal (a : Argument) (x : Double) : Argument :=
  { a with slot := Slot.ofReal a.token.kind x }

/-- The floating-point number in the slot. -/
def readReal (a : Argument) : Double :=
  Slot.toReal a.token.kind a.slot

/-- A text argument: its slot points to its buffer. -/
def ofBuffer (token : Token) (b : Buffer) : Argument :=
  ⟨token, b.start, some b⟩

end Argument

/-- All that a call hands to native code. -/
structure Plan where
  site : Site := {}
  arguments : List Argument := []
  convention : Convention := .standard
  result : Token := .plainInt
  deriving DecidableEq, Repr

namespace Plan

/-- The memory that holds one argument. -/
def placeArgument (site : Site) (index : Nat) (a : Argument) : Memory :=
  ⟨site.slot index, Bytes.ofWord a.slot, true⟩ ::
    match a.buffer with
    | some b => [⟨b.start, b.bytes, true⟩]
    | none => []

/-- The memory that holds arguments, the first of which has the given position. -/
def placeFrom (site : Site) : Nat → List Argument → Memory
  | _, [] => []
  | index, a :: as => placeArgument site index a ++ placeFrom site (index + 1) as

/-- The memory that holds the arguments of a plan. -/
def place (p : Plan) : Memory :=
  placeFrom p.site 0 p.arguments

/-- Arguments with the contents that their memory has now. -/
def reloadFrom : List Argument → Memory → List Argument
  | [], _ => []
  | a :: as, [] => a :: as
  | a :: as, s :: m =>
    let slot := Bytes.toWord s.bytes
    match a.buffer, m with
    | some b, t :: m' =>
      { a with slot, buffer := some { b with bytes := t.bytes } } :: reloadFrom as m'
    | _, m' => { a with slot } :: reloadFrom as m'

/-- The plan with the contents that its memory has now. -/
def reload (p : Plan) (m : Memory) : Plan :=
  { p with arguments := reloadFrom p.arguments m }

theorem reloadFrom_placeFrom (site : Site) (index : Nat) (as : List Argument) (m : Memory) :
    reloadFrom as (placeFrom site index as ++ m) = as := by
  induction as generalizing index with
  | nil => rfl
  | cons a as ih =>
    obtain ⟨token, slot, buffer⟩ := a
    cases buffer with
    | none => simp [placeFrom, placeArgument, reloadFrom, Bytes.toWord_ofWord, ih]
    | some b => simp [placeFrom, placeArgument, reloadFrom, Bytes.toWord_ofWord, ih]

/-- A plan whose memory was not written is unchanged. -/
theorem reload_place (p : Plan) (m : Memory) : p.reload (p.place ++ m) = p := by
  simp [reload, place, reloadFrom_placeFrom]

end Plan

end ForeignCall
