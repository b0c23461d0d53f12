/-!
# Letters without case

Type names, convention words and level names are compared without regard to the case of the
letters `A` to `Z`; every other character stands for itself.

## Main definitions

* `Ascii.lower`: the small form of a letter, any other character unchanged;
* `Ascii.equal`: equality of two lists of characters up to the case of letters.
-/

namespace ForeignCall.Ascii

/-- The small form of the letters `A` to `Z`; any other character is unchanged. -/
def lower (c : Char) : Char :=
  if 'A' ≤ c ∧ c ≤ 'Z' then Char.ofNat (c.toNat + 32) else c

/-- The capital form of the letters `a` to `z`; any other character is unchanged. -/
def upper (c : Char) : Char :=
  if 'a' ≤ c ∧ c ≤ 'z' then Char.ofNat (c.toNat - 32) else c

/-- Equality up to the case of the letters `A` to `Z`. -/
def equal (xs ys : List Char) : Bool :=
  xs.map lower == ys.map lower

theorem equal_refl (xs : List Char) : equal xs xs = true := by
  simp [equal]

theorem equal_iff {xs ys : List Char} : equal xs ys = true ↔ xs.map lower = ys.map lower := by
  simp [equal]

end ForeignCall.Ascii
