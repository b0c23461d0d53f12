import ForeignCall.Number.Binary
import Mathlib.Algebra.Order.Field.Rat
import Mathlib.Algebra.Order.Floor.Semifield
import Mathlib.Data.Rat.Floor
import Mathlib.Tactic.FieldSimp
import Mathlib.Tactic.Linarith
import Mathlib.Tactic.Positivity
import Mathlib.Tactic.Ring

/-!
# The magnitudes of ranks

A rank is a word without its sign bit, read as a natural number. This file says which rational
number it stands for. From one rank to the next the magnitude grows by one unit in the last place,
so ranks and magnitudes have the same order, and what is said about neighbouring numbers can be said
about `rank` and `rank + 1`.

The rank of infinity has a magnitude here too, the one that would come next if the format went on.
This is how rounding sees it.

## Taking a rank apart

A rank is `m + k * binade`, where `m` is the significand and `k` counts the doublings of the unit.
The significand has its leading bit unless `k` is zero. `value_add_mul_binade` reads the magnitude
off such a sum, and lets `m` be one too great: the carry into the next binade is the same rank.

## Main definitions

* `Format.value` — the magnitude of a rank
* `Format.midpoint` — halfway between the magnitudes of a rank and the next one
* `Format.Holds` — the integers that the significand has room for

## Main results

* `Format.value_succ`, `Format.strictMono_value` — ranks and magnitudes have the same order
* `Format.holds_iff` — the integers among the magnitudes
* `Double.wholePart_eq_floor` — the whole part of a number is that of its magnitude
-/

namespace ForeignCall.Number

/-! ## Powers as fractions -/

theorem powNum_div_powDen {b : ℕ} (hb : 0 < b) (e : ℤ) :
    (powNum b e : ℚ) / powDen b e = (b : ℚ) ^ e := by
  have hb' : (b : ℚ) ≠ 0 := by exact_mod_cast hb.ne'
  rcases le_total 0 e with he | he
  · obtain ⟨n, rfl⟩ := Int.eq_ofNat_of_zero_le he
    simp [powNum, powDen]
  · obtain ⟨n, hn⟩ := Int.exists_eq_neg_ofNat he
    subst hn
    simp [powNum, powDen]

theorem powNum_pos {b : ℕ} (hb : 0 < b) (e : ℤ) : 0 < powNum b e := Nat.pow_pos hb

theorem powDen_pos {b : ℕ} (hb : 0 < b) (e : ℤ) : 0 < powDen b e := Nat.pow_pos hb

namespace Format

variable (f : Format) {m k rank : ℕ}

/-- The magnitude of a rank. -/
def value (rank : ℕ) : ℚ := f.significand rank * 2 ^ f.exponent rank

/-- Halfway between the magnitudes of a rank and the next one. -/
def midpoint (rank : ℕ) : ℚ := (f.value rank + f.value (rank + 1)) / 2

theorem binade_pos : 0 < f.binade := Nat.two_pow_pos _

/-! ## Taking a rank apart -/

theorem significand_lt (rank : ℕ) : f.significand rank < 2 * f.binade := by
  have hB := f.binade_pos
  have hmod := Nat.mod_lt rank hB
  rw [significand]
  split <;> omega

/-- A rank is its significand and the doublings of the unit. -/
theorem significand_add_mul_binade (rank : ℕ) :
    f.significand rank + (rank / f.binade - 1) * f.binade = rank := by
  have hB := f.binade_pos
  have hdiv : f.binade * (rank / f.binade) + rank % f.binade = rank := Nat.div_add_mod _ _
  rw [significand]
  split
  · next h => rw [Nat.div_eq_of_lt h, Nat.zero_sub, Nat.zero_mul, Nat.add_zero]
  · next h =>
    have hpos : 0 < rank / f.binade := Nat.div_pos (Nat.not_lt.mp h) hB
    obtain ⟨k, hk⟩ := Nat.exists_eq_add_one.mpr hpos
    rw [hk] at hdiv ⊢
    rw [Nat.add_sub_cancel]
    linarith [mul_comm f.binade k]

/-- Only the ranks of the first binade have a significand without its leading bit. -/
theorem binade_le_significand (h : rank / f.binade - 1 ≠ 0) : f.binade ≤ f.significand rank := by
  have hge : ¬ rank < f.binade := fun hlt => h (by rw [Nat.div_eq_of_lt hlt])
  rw [significand, if_neg hge]
  exact Nat.le_add_left _ _

/-- The magnitude of a rank that is given as a significand and a number of doublings. -/
theorem value_of_lt (hm : m < 2 * f.binade) (hk : k = 0 ∨ f.binade ≤ m) :
    f.value (m + k * f.binade) = m * 2 ^ (f.leastExponent + k) := by
  have hB := f.binade_pos
  by_cases hmB : m < f.binade
  · obtain rfl : k = 0 := hk.resolve_right (Nat.not_le.mpr hmB)
    rw [Nat.zero_mul, Nat.add_zero, value, significand, if_pos hmB, exponent, Nat.div_eq_of_lt hmB]
  · obtain ⟨d, rfl⟩ := Nat.exists_eq_add_of_le (Nat.not_lt.mp hmB)
    have hd : d < f.binade := by omega
    have hrank : f.binade + d + k * f.binade = d + (k + 1) * f.binade := by ring
    have hdiv : (d + (k + 1) * f.binade) / f.binade = k + 1 := by
      rw [Nat.add_mul_div_right _ _ hB, Nat.div_eq_of_lt hd, Nat.zero_add]
    have hmod : (d + (k + 1) * f.binade) % f.binade = d := by
      rw [Nat.add_mul_mod_self_right, Nat.mod_eq_of_lt hd]
    have hge : ¬ d + (k + 1) * f.binade < f.binade := by
      rw [Nat.not_lt, Nat.add_one_mul]
      omega
    rw [hrank, value, significand, if_neg hge, hmod, exponent, hdiv, Nat.add_sub_cancel,
      Nat.add_comm d]

/-- **The magnitude of a significand and a number of doublings.** The significand may be one too
great. -/
theorem value_add_mul_binade (hm : m ≤ 2 * f.binade) (hk : k = 0 ∨ f.binade ≤ m) :
    f.value (m + k * f.binade) = m * 2 ^ (f.leastExponent + k) := by
  rcases Nat.lt_or_eq_of_le hm with hlt | rfl
  · exact f.value_of_lt hlt hk
  · have hB := f.binade_pos
    have hcarry : 2 * f.binade + k * f.binade = f.binade + (k + 1) * f.binade := by ring
    have hunit : (2 : ℚ) ^ (f.leastExponent + (k + 1 : ℕ)) = 2 ^ (f.leastExponent + k) * 2 := by
      rw [Nat.cast_succ, ← add_assoc, zpow_add_one₀ two_ne_zero]
    rw [hcarry, f.value_of_lt (by omega) (.inr le_rfl), hunit]
    push_cast
    ring

/-- The magnitude of a rank in terms of its parts. -/
theorem value_eq (rank : ℕ) :
    f.value rank = f.significand rank * 2 ^ (f.leastExponent + (rank / f.binade - 1 : ℕ)) := rfl

/-! ## The order of ranks -/

@[simp] theorem value_zero : f.value 0 = 0 := by
  have hzero : f.significand 0 = 0 := by rw [significand, if_pos f.binade_pos]
  rw [value, hzero, Nat.cast_zero, zero_mul]

/-- **From one rank to the next** the magnitude grows by one unit in the last place. -/
theorem value_succ (rank : ℕ) : f.value (rank + 1) = f.value rank + 2 ^ f.exponent rank := by
  have hparts := f.significand_add_mul_binade rank
  have hlt := f.significand_lt rank
  have hnext : rank + 1 = f.significand rank + 1 + (rank / f.binade - 1) * f.binade := by omega
  have hlead : rank / f.binade - 1 = 0 ∨ f.binade ≤ f.significand rank + 1 := by
    by_cases h : rank / f.binade - 1 = 0
    · exact .inl h
    · exact .inr (Nat.le_succ_of_le (f.binade_le_significand h))
  rw [hnext, f.value_add_mul_binade hlt hlead, value_eq, exponent]
  push_cast
  ring

theorem strictMono_value : StrictMono f.value :=
  strictMono_nat_of_lt_succ fun rank => by
    rw [value_succ]
    exact lt_add_of_pos_right _ (zpow_pos two_pos _)

theorem value_nonneg (rank : ℕ) : 0 ≤ f.value rank :=
  mul_nonneg (Nat.cast_nonneg _) (zpow_nonneg two_pos.le _)

/-- With an exponent that is not negative the magnitude is an integer. -/
theorem value_of_exponent_eq (h : f.exponent rank = k) :
    f.value rank = (f.significand rank * 2 ^ k : ℕ) := by
  rw [value, h, zpow_natCast]
  push_cast
  rfl

/-- With a negative exponent the magnitude is no greater than the significand. -/
theorem value_le_significand (h : f.exponent rank ≤ 0) : f.value rank ≤ f.significand rank :=
  mul_le_of_le_one_right (Nat.cast_nonneg _) (zpow_le_one_of_nonpos₀ one_le_two h)

theorem midpoint_eq (rank : ℕ) : f.midpoint rank = f.value rank + 2 ^ f.exponent rank / 2 := by
  rw [midpoint, value_succ]
  ring

theorem value_lt_midpoint (rank : ℕ) : f.value rank < f.midpoint rank := by
  rw [midpoint_eq]
  exact lt_add_of_pos_right _ (half_pos (zpow_pos two_pos _))

/-- The midpoint above a significand and a number of doublings. -/
theorem midpoint_add_mul_binade (hm : m < 2 * f.binade) (hk : k = 0 ∨ f.binade ≤ m) :
    f.midpoint (m + k * f.binade) = (m + 1 / 2) * 2 ^ (f.leastExponent + k) := by
  have hsucc : m + k * f.binade + 1 = m + 1 + k * f.binade := by omega
  rw [midpoint, hsucc, f.value_add_mul_binade hm.le hk,
    f.value_add_mul_binade hm (hk.imp_right Nat.le_succ_of_le)]
  push_cast
  ring

theorem midpoint_lt_value_succ (rank : ℕ) : f.midpoint rank < f.value (rank + 1) := by
  have := f.strictMono_value (Nat.lt_succ_self rank)
  rw [midpoint]
  linarith

/-! ## Integers -/

/-- An integer that the significand has room for, behind which stand zeros only. -/
def Holds (n : ℕ) : Prop := ∃ m k, m < 2 * f.binade ∧ n = m * 2 ^ k

variable {f}

/-- A significand of any exponent from the least one on is the magnitude of a rank. -/
theorem exists_value_eq (hm : m < 2 * f.binade) (k : ℕ) :
    ∃ rank, f.value rank = m * 2 ^ (f.leastExponent + k) := by
  induction k generalizing m with
  | zero => exact ⟨m + 0 * f.binade, f.value_of_lt hm (.inl rfl)⟩
  | succ k ih =>
    by_cases hlead : f.binade ≤ m
    · exact ⟨_, f.value_of_lt hm (.inr hlead)⟩
    · -- the leading bit is missing, so a bit can be moved out of the exponent
      obtain ⟨rank, hrank⟩ := ih (m := 2 * m) (by omega)
      refine ⟨rank, hrank.trans ?_⟩
      rw [Nat.cast_succ, ← add_assoc, zpow_add_one₀ two_ne_zero]
      push_cast
      ring

theorem Holds.of_lt {n : ℕ} (h : n < 2 * f.binade) : f.Holds n := ⟨n, 0, h, by simp⟩

/-- **The integers among the magnitudes** are the ones that the significand has room for. -/
theorem holds_iff (hf : f.leastExponent ≤ 0) {n : ℕ} : f.Holds n ↔ ∃ rank, f.value rank = n := by
  constructor
  · rintro ⟨m, k, hm, rfl⟩
    obtain ⟨l, hl⟩ := Int.eq_ofNat_of_zero_le (neg_nonneg.mpr hf)
    obtain ⟨rank, hrank⟩ := exists_value_eq hm (k + l)
    refine ⟨rank, ?_⟩
    have hexponent : f.leastExponent + (k + l : ℕ) = k := by
      push_cast
      omega
    rw [hrank, hexponent, zpow_natCast]
    push_cast
    ring
  · rintro ⟨rank, hrank⟩
    have hlt := f.significand_lt rank
    rcases le_total 0 (f.exponent rank) with he | he
    · obtain ⟨k, hk⟩ := Int.eq_ofNat_of_zero_le he
      rw [f.value_of_exponent_eq hk, Nat.cast_inj] at hrank
      exact ⟨f.significand rank, k, hlt, hrank.symm⟩
    · have hle := f.value_le_significand he
      rw [hrank, Nat.cast_le] at hle
      exact .of_lt (lt_of_le_of_lt hle hlt)

end Format

/-! ## Double precision -/

namespace Double

/-- The whole part of a number is the greatest integer up to its magnitude. -/
theorem wholePart_eq_floor (x : Double) : x.wholePart = ⌊Format.double.value x.rank⌋₊ := by
  have hvalue : Format.double.value x.rank =
      ((x.significand * powNum 2 x.exponent : ℕ) : ℚ) / (powDen 2 x.exponent : ℕ) := by
    rw [Nat.cast_mul, mul_div_assoc, powNum_div_powDen two_pos]
    rfl
  rw [hvalue, Nat.floor_div_eq_div]
  rfl

theorem rank_ofRank {negative : Bool} {rank : ℕ} (h : rank < signWeight) :
    (ofRank negative rank).rank = rank := by
  rw [signWeight] at h
  rw [ofRank, Double.rank, signWeight, UInt64.toNat_ofNat']
  cases negative with
  | true =>
    rw [if_pos rfl]
    omega
  | false =>
    rw [if_neg Bool.false_ne_true]
    omega

end Double

end ForeignCall.Number
