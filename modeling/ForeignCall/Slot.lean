import ForeignCall.Kind
import ForeignCall.Number.Binary

/-!
# Argument slots

Every argument sits in a slot of eight bytes. A slot is written as a whole: an integer is narrowed
to the width of its kind and the rest of the slot is cleared, so no bits of an earlier value are
left. Reading takes the bytes of the kind and ignores the others.

## Main definitions

* `Slot.ofInt`, `Slot.toInt`: integers in a slot;
* `Slot.ofReal`, `Slot.toReal`: floating-point numbers in a slot.

## Main results

* `Slot.toNat_ofInt`: a stored integer is its residue modulo the width.
-/

namespace ForeignCall.Slot

open Number (Double)

/-- The slot that holds an integer, narrowed to the width of the kind. -/
def ofInt (k : Kind) (v : Int64) : UInt64 :=
  UInt64.ofNat (v.toInt % k.modulus).toNat

/-- The integer in a slot, extended from the width of the kind with or without its sign. A full
slot is always read with its sign. -/
def toInt (k : Kind) (isUnsigned : Bool) (slot : UInt64) : Int64 :=
  let residue := slot.toNat % k.modulus
  Int64.ofInt (if isUnsigned then residue else Int.bmod residue k.modulus)

/-- The slot that holds a floating-point number, narrowed for the kind of single precision. -/
def ofReal (k : Kind) (x : Double) : UInt64 :=
  match k with
  | .single => x.toSingle.toUInt64
  | _ => x.bits

/-- The floating-point number in a slot. -/
def toReal (k : Kind) (slot : UInt64) : Double :=
  match k with
  | .single => Double.ofSingle slot.toUInt32
  | _ => ⟨slot⟩

/-- A stored integer is its residue modulo the width of the kind, with zero bits above. -/
theorem toNat_ofInt (k : Kind) (v : Int64) :
    ((ofInt k v).toNat : Int) = v.toInt % k.modulus := by
  have hp : (0 : Int) < k.modulus := Int.natCast_pos.mpr k.modulus_pos
  have h0 : 0 ≤ v.toInt % k.modulus := Int.emod_nonneg _ (by omega)
  have h1 : v.toInt % k.modulus < k.modulus := Int.emod_lt_of_pos _ hp
  have h2 : k.modulus ≤ 0x10000000000000000 := k.modulus_le
  rw [ofInt, UInt64.toNat_ofNat', Nat.mod_eq_of_lt (by omega)]
  omega

end ForeignCall.Slot
