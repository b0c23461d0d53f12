import ForeignCall.Frame.Registers
import ForeignCall.Proofs.Spellings
import Mathlib.Data.Int.ModEq

/-!
# Integers of a width

Of an integer that is stored in a slot the low bits are kept, and reading makes an integer of the
declared range out of them again. In between the integer may be widened to a register, with or
without its sign. Nothing of this is lost but the bits above the width: what is read is the only
integer of the range that is the stored one modulo the number of integers of the kind.

A script holds 64 bits with a sign. An integer of 64 bits without a sign that is too large for it is
held as the negative one of the same bits.

## Main definitions

* `Token.InRange` — the integers of a type
* `Token.representative` — the one of them that an integer is stored as

## Main results

* `representative_modEq`, `representative_inRange` — there is one, and
  `representative_eq_of_inRange` — an integer of the range is its own
* `toInt_ofInt` — what is stored is read as its representative
* `widen_toNat_mod` — widening keeps the bits of the width
-/

namespace ForeignCall

/-! ## Ranges -/

/-- The integers of a type. -/
def Token.InRange (t : Token) (i : ℤ) : Prop :=
  if t.isUnsigned then 0 ≤ i ∧ i < 2 ^ t.kind.width
  else -2 ^ (t.kind.width - 1) ≤ i ∧ i < 2 ^ (t.kind.width - 1)

instance (t : Token) (i : ℤ) : Decidable (t.InRange i) :=
  inferInstanceAs (Decidable (if t.isUnsigned then 0 ≤ i ∧ i < 2 ^ t.kind.width
    else -2 ^ (t.kind.width - 1) ≤ i ∧ i < 2 ^ (t.kind.width - 1)))

/-- The integer of a type with the low bits of any integer. -/
def Token.representative (t : Token) (i : ℤ) : ℤ :=
  if t.isUnsigned then i % t.kind.modulus else i.bmod t.kind.modulus

namespace Token

variable {t : Token} {i j : ℤ}

/-- Half of the integers of a kind are negative, when they have a sign. -/
theorem modulus_eq_two_mul (k : Kind) : (k.modulus : ℤ) = 2 * 2 ^ (k.width - 1) := by
  cases k <;> rfl

theorem inRange_of_unsigned (h : t.isUnsigned = true) :
    t.InRange i ↔ 0 ≤ i ∧ i < t.kind.modulus := by
  rw [InRange, if_pos h, Kind.modulus]
  norm_cast

theorem inRange_of_signed (h : ¬ t.isUnsigned = true) :
    t.InRange i ↔ -(t.kind.modulus : ℤ) ≤ 2 * i ∧ 2 * i < t.kind.modulus := by
  rw [InRange, if_neg h, modulus_eq_two_mul]
  omega

/-- Storing keeps the low bits. -/
theorem representative_modEq (t : Token) (i : ℤ) :
    t.representative i ≡ i [ZMOD t.kind.modulus] := by
  rw [representative]
  split
  · exact Int.mod_modEq i _
  · exact Int.bmod_emod

theorem representative_inRange (t : Token) (i : ℤ) : t.InRange (t.representative i) := by
  have hpos := t.kind.modulus_pos
  rw [representative]
  split
  · next h =>
    rw [inRange_of_unsigned h]
    exact ⟨Int.emod_nonneg _ (by omega), Int.emod_lt_of_pos _ (by omega)⟩
  · next h =>
    have hlow := Int.le_bmod (x := i) hpos
    have hhigh := Int.bmod_lt (x := i) hpos
    have htwo := modulus_eq_two_mul t.kind
    rw [inRange_of_signed h]
    omega

/-- No two integers of a type have the same low bits. -/
theorem InRange.eq_of_modEq (hi : t.InRange i) (hj : t.InRange j)
    (h : i ≡ j [ZMOD t.kind.modulus]) : i = j := by
  have hnear : |j - i| < t.kind.modulus := by
    by_cases hu : t.isUnsigned = true
    · rw [inRange_of_unsigned hu] at hi hj
      exact abs_lt.mpr ⟨by omega, by omega⟩
    · rw [inRange_of_signed hu] at hi hj
      exact abs_lt.mpr ⟨by omega, by omega⟩
  have hzero : j - i = 0 := Int.eq_zero_of_abs_lt_dvd h.dvd hnear
  omega

/-- An integer of the type is stored as it is. -/
theorem representative_eq_of_inRange (h : t.InRange i) : t.representative i = i :=
  (t.representative_inRange i).eq_of_modEq h (t.representative_modEq i)

end Token

/-! ## Slots -/

namespace Slot

/-- Only the low bits are read. -/
theorem toInt_congr {k : Kind} {a b : UInt64} (h : a.toNat % k.modulus = b.toNat % k.modulus)
    (isUnsigned : Bool) : toInt k isUnsigned a = toInt k isUnsigned b := by
  rw [toInt, toInt, h]

/-- A slot is read as the representative of its bits. -/
theorem toInt_eq (t : Token) (slot : UInt64) :
    toInt t.kind t.isUnsigned slot = Int64.ofInt (t.representative slot.toNat) := by
  rw [toInt, Token.representative]
  split
  · rw [Int.natCast_mod]
  · rw [Int.natCast_mod, Int.emod_bmod]

/-- **What is stored is read as its representative.** -/
theorem toInt_ofInt (t : Token) (v : Int64) :
    toInt t.kind t.isUnsigned (ofInt t.kind v) = Int64.ofInt (t.representative v.toInt) := by
  rw [toInt_eq, toNat_ofInt, Token.representative, Token.representative, Int.emod_emod,
    Int.emod_bmod]

/-- **Widening keeps the bits of the width**, whatever the sign makes of the others. -/
theorem widen_toNat_mod (k : Kind) (isUnsigned : Bool) (slot : UInt64) :
    (RegisterFrame.widen (.scalar k isUnsigned) slot).toNat % k.modulus =
      slot.toNat % k.modulus := by
  let t : Token := { kind := k, isUnsigned }
  have hdvd : (k.modulus : ℤ) ∣ ((2 ^ 64 : ℕ) : ℤ) := Int.natCast_dvd_natCast.mpr k.modulus_dvd
  have hint : (toInt k isUnsigned slot).toUInt64.toInt64 = toInt k isUnsigned slot := rfl
  apply Int.ofNat_inj.mp
  rw [RegisterFrame.widen, ← toInt64_emod _ k.modulus_dvd, hint, toInt_eq t, Int64.toInt_ofInt]
  calc (t.representative slot.toNat).bmod (2 ^ 64) % k.modulus
      = (t.representative slot.toNat).bmod (2 ^ 64) % ((2 ^ 64 : ℕ) : ℤ) % k.modulus :=
        (Int.emod_emod_of_dvd _ hdvd).symm
    _ = t.representative slot.toNat % k.modulus := by
        rw [Int.bmod_emod, Int.emod_emod_of_dvd _ hdvd]
    _ = slot.toNat % k.modulus := t.representative_modEq slot.toNat
    _ = ((slot.toNat % k.modulus : ℕ) : ℤ) := (Int.natCast_mod _ _).symm

end Slot

end ForeignCall
