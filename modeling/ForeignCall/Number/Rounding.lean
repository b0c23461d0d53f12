/-!
# Rounding to the nearest integer

Division of natural numbers to the nearest quotient, powers with integer exponents as fractions, and
the position of the leading binary digit of a fraction. All are exact, and together they place a
fraction on any binary grid.

## Main definitions

* `divNearestEven`: the nearest quotient, a half going to the even neighbour;
* `powNum`, `powDen`: the numerator and the denominator of a power;
* `floorLog2`: the exponent of the greatest power of two that is not above a fraction.
-/

namespace ForeignCall.Number

/-- The integer nearest to `n / d`; of two equally near ones the even one. -/
def divNearestEven (n d : Nat) : Nat :=
  let q := n / d
  let r := n % d
  if 2 * r < d then q else if d < 2 * r then q + 1 else q + q % 2

/-- The numerator of the fraction `b ^ e`: the power itself when `e` is not negative. -/
def powNum (b : Nat) (e : Int) : Nat := Nat.pow b e.toNat

/-- The denominator of the fraction `b ^ e`: one when `e` is not negative. -/
def powDen (b : Nat) (e : Int) : Nat := Nat.pow b (-e).toNat

/-- The greatest `l` with `2 ^ l ≤ n / d`, for positive `n` and `d`. -/
def floorLog2 (n d : Nat) : Int :=
  let l : Int := (n.log2 : Int) - (d.log2 : Int)
  if n * powDen 2 l < d * powNum 2 l then l - 1 else l

/-- Rounding moves a quotient by at most one half. -/
theorem divNearestEven_bounds (n d : Nat) (hd : 0 < d) :
    2 * n ≤ (2 * divNearestEven n d + 1) * d ∧ 2 * (divNearestEven n d) * d ≤ 2 * n + d := by
  have hn : d * (n / d) + n % d = n := Nat.div_add_mod n d
  have hr : n % d < d := Nat.mod_lt n hd
  have hq : n / d * d = d * (n / d) := Nat.mul_comm _ _
  have h2 : n / d % 2 < 2 := Nat.mod_lt _ (by omega)
  simp only [divNearestEven]
  split
  · constructor <;> simp only [Nat.add_mul, Nat.mul_assoc, hq] <;> omega
  · split
    · constructor <;> simp only [Nat.add_mul, Nat.mul_add, Nat.mul_assoc, hq] <;> omega
    · have hc : n / d % 2 = 0 ∨ n / d % 2 = 1 := by omega
      rcases hc with hc | hc <;> rw [hc] <;> constructor <;>
        simp only [Nat.add_mul, Nat.mul_add, Nat.mul_assoc, hq] <;> omega

end ForeignCall.Number
