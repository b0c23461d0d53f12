import ForeignCall.Number.Decimal
import ForeignCall.Proofs.Ranks
import Mathlib.Algebra.Order.Field.Power
import Mathlib.Tactic.NormNum

/-!
# Rounding to the nearest number

A fraction is rounded by integer division: it is brought to a unit in the last place, divided, and
the quotient is put together with the number of doublings of the unit. What comes out is the rank
whose magnitude is nearest to the fraction, and of two equally near ones the even rank. There is no
greatest rank in this statement; the format comes to its end afterwards, where all ranks from that
of infinity on become infinity.

Which side of a rank a fraction is rounded to can be told from one midpoint, by `Nearest.lt_iff`. So
a range check on rounded numbers is a range check on the numbers that were written, with its bound
moved by half a unit in the last place.

## Main definitions

* `Format.Nearest` — the rank whose magnitude is nearest to a number, halves to even

## Main results

* `Format.Nearest.lt_iff` — rounding compared with a rank
* `Format.nearest_rankOfRatio` — fractions are rounded to the nearest rank
* `Decimal.nearest_toDouble` — and so are decimals
* `Format.Nearest.floor_eq_iff` — when the integer part survives rounding
-/

namespace ForeignCall.Number

/-! ## Nearest quotients -/

section

variable {n d : ℕ}

theorem divNearestEven_sub_half_le (hd : 0 < d) : (divNearestEven n d : ℚ) - 1 / 2 ≤ n / d := by
  have hd' : (0 : ℚ) < d := by exact_mod_cast hd
  have hbound : (2 * divNearestEven n d * d : ℚ) ≤ 2 * n + d := by
    exact_mod_cast (divNearestEven_bounds n d hd).2
  rw [le_div_iff₀ hd']
  linarith

theorem le_divNearestEven_add_half (hd : 0 < d) : (n : ℚ) / d ≤ divNearestEven n d + 1 / 2 := by
  have hd' : (0 : ℚ) < d := by exact_mod_cast hd
  have hbound : (2 * n : ℚ) ≤ (2 * divNearestEven n d + 1) * d := by
    exact_mod_cast (divNearestEven_bounds n d hd).1
  rw [div_le_iff₀ hd']
  linarith

/-- A half goes to the even neighbour. -/
theorem divNearestEven_mod_two (hd : 0 < d)
    (h : (n : ℚ) / d = divNearestEven n d - 1 / 2 ∨ (n : ℚ) / d = divNearestEven n d + 1 / 2) :
    divNearestEven n d % 2 = 0 := by
  have hd' : (d : ℚ) ≠ 0 := by exact_mod_cast hd.ne'
  have hn : d * (n / d) + n % d = n := Nat.div_add_mod n d
  have hmod : n % d < d := Nat.mod_lt n hd
  have htie : 2 * n + d = 2 * divNearestEven n d * d ∨
      2 * n = (2 * divNearestEven n d + 1) * d := by
    rcases h with h | h
    · left
      rw [div_eq_iff hd'] at h
      have : (2 * n + d : ℚ) = 2 * divNearestEven n d * d := by linarith
      exact_mod_cast this
    · right
      rw [div_eq_iff hd'] at h
      have : (2 * n : ℚ) = (2 * divNearestEven n d + 1) * d := by linarith
      exact_mod_cast this
  -- a half is the last of the three cases of the division
  have hq : n / d * d = d * (n / d) := Nat.mul_comm _ _
  revert htie
  simp only [divNearestEven]
  split
  · simp only [Nat.add_mul, Nat.mul_assoc, hq]
    omega
  · split
    · simp only [Nat.add_mul, Nat.mul_add, Nat.mul_assoc, hq]
      omega
    · omega

/-- The leading binary digit of a fraction. -/
theorem floorLog2_spec (hn : 0 < n) (hd : 0 < d) :
    (2 : ℚ) ^ floorLog2 n d ≤ n / d ∧ (n : ℚ) / d < 2 ^ (floorLog2 n d + 1) := by
  have hd' : (0 : ℚ) < d := by exact_mod_cast hd
  have hnlow : (2 : ℚ) ^ (n.log2 : ℤ) ≤ n := by exact_mod_cast Nat.log2_self_le hn.ne'
  have hnhigh : (n : ℚ) < 2 ^ ((n.log2 : ℤ) + 1) := by exact_mod_cast Nat.lt_log2_self
  have hdlow : (2 : ℚ) ^ (d.log2 : ℤ) ≤ d := by exact_mod_cast Nat.log2_self_le hd.ne'
  have hdhigh : (d : ℚ) < 2 ^ ((d.log2 : ℤ) + 1) := by exact_mod_cast Nat.lt_log2_self
  obtain ⟨l, hl⟩ : ∃ l : ℤ, l = n.log2 - d.log2 := ⟨_, rfl⟩
  have hlow : (2 : ℚ) ^ (l - 1) ≤ n / d := by
    rw [le_div_iff₀ hd']
    calc (2 : ℚ) ^ (l - 1) * d ≤ 2 ^ (l - 1) * 2 ^ ((d.log2 : ℤ) + 1) := by gcongr
      _ = 2 ^ (n.log2 : ℤ) := by rw [← zpow_add₀ two_ne_zero]; congr 1; omega
      _ ≤ n := hnlow
  have hhigh : (n : ℚ) / d < 2 ^ (l + 1) := by
    rw [div_lt_iff₀ hd']
    calc (n : ℚ) < 2 ^ ((n.log2 : ℤ) + 1) := hnhigh
      _ = 2 ^ (l + 1) * 2 ^ (d.log2 : ℤ) := by rw [← zpow_add₀ two_ne_zero]; congr 1; omega
      _ ≤ 2 ^ (l + 1) * d := by gcongr
  have hnum : (0 : ℚ) < powNum 2 l := by exact_mod_cast powNum_pos two_pos l
  have hden : (0 : ℚ) < powDen 2 l := by exact_mod_cast powDen_pos two_pos l
  have htest : n * powDen 2 l < d * powNum 2 l ↔ (n : ℚ) / d < 2 ^ l := by
    have hpow : (powNum 2 l : ℚ) / powDen 2 l = 2 ^ l := powNum_div_powDen two_pos l
    rw [← hpow, div_lt_div_iff₀ hd' hden, mul_comm (powNum 2 l : ℚ)]
    exact_mod_cast Iff.rfl
  simp only [floorLog2, ← hl]
  split
  · next h => exact ⟨hlow, by rw [sub_add_cancel]; exact htest.mp h⟩
  · next h => exact ⟨not_lt.mp (htest.not.mp h), hhigh⟩

end

/-! ## The nearest rank -/

variable {a b q : ℚ}

theorem abs_sub_left_le_iff (h : a < b) : |a - q| ≤ |b - q| ↔ q ≤ (a + b) / 2 := by
  have hprod : (b - q) ^ 2 - (a - q) ^ 2 = 2 * (b - a) * ((a + b) / 2 - q) := by ring
  rw [← sq_le_sq, ← sub_nonneg, hprod, mul_nonneg_iff_of_pos_left (by linarith), sub_nonneg]

theorem abs_sub_right_le_iff (h : a < b) : |b - q| ≤ |a - q| ↔ (a + b) / 2 ≤ q := by
  have hprod : (a - q) ^ 2 - (b - q) ^ 2 = 2 * (b - a) * (q - (a + b) / 2) := by ring
  rw [← sq_le_sq, ← sub_nonneg, hprod, mul_nonneg_iff_of_pos_left (by linarith), sub_nonneg]

namespace Format

variable {f : Format} {q x : ℚ} {r t m k : ℕ}

/-- The rank whose magnitude is nearest to a number. Of two equally near ones it is the even one. -/
structure Nearest (f : Format) (q : ℚ) (r : ℕ) : Prop where
  le : ∀ r', |f.value r - q| ≤ |f.value r' - q|
  even : ∀ r', r' ≠ r → |f.value r' - q| = |f.value r - q| → r % 2 = 0

/-- **Rounding compared with a rank.** A number is rounded beyond a rank if it is above the midpoint
that follows, or at it if the rank is odd. -/
theorem Nearest.lt_iff (h : f.Nearest q r) :
    t < r ↔ f.midpoint t < q ∨ f.midpoint t = q ∧ t % 2 = 1 := by
  have hmono := f.strictMono_value
  have hnext : f.value t < f.value (t + 1) := hmono (Nat.lt_succ_self t)
  constructor
  · intro ht
    have hmid : (f.value t + f.value r) / 2 ≤ q :=
      (abs_sub_right_le_iff (hmono ht)).mp (h.le t)
    have hle : f.value (t + 1) ≤ f.value r := hmono.monotone ht
    rcases lt_or_eq_of_le (show f.midpoint t ≤ q by rw [midpoint]; linarith) with hlt | heq
    · exact .inl hlt
    · refine .inr ⟨heq, ?_⟩
      have hr : t + 1 = r := hmono.injective (by rw [midpoint] at heq; linarith)
      subst hr
      have hfar := (abs_sub_left_le_iff hnext).mpr heq.ge
      have heven := h.even t (Nat.succ_ne_self t).symm (le_antisymm hfar (h.le t))
      omega
  · intro hq
    by_contra hr
    rw [not_lt] at hr
    have hmid : q ≤ (f.value r + f.value (t + 1)) / 2 :=
      (abs_sub_left_le_iff (hmono (Nat.lt_succ_of_le hr))).mp (h.le (t + 1))
    have hle : f.value r ≤ f.value t := hmono.monotone hr
    rcases hq with hlt | ⟨heq, hodd⟩
    · rw [midpoint] at hlt
      linarith
    · have ht : r = t := hmono.injective (by rw [midpoint] at heq; linarith)
      subst ht
      have hfar := (abs_sub_right_le_iff hnext).mpr heq.le
      have heven := h.even (r + 1) (Nat.succ_ne_self r) (le_antisymm hfar (h.le (r + 1)))
      omega

/-- A number has one nearest rank. -/
theorem Nearest.unique (h : f.Nearest q r) (h' : f.Nearest q t) : r = t := by
  rcases lt_trichotomy r t with hlt | heq | hlt
  · exact absurd (h.lt_iff.mpr (h'.lt_iff.mp hlt)) (lt_irrefl _)
  · exact heq
  · exact absurd (h'.lt_iff.mpr (h.lt_iff.mp hlt)) (lt_irrefl _)

/-- A rank is nearest to the numbers between the midpoints around it. -/
theorem Nearest.of_midpoints
    (hlow : ∀ t, t + 1 = r → f.midpoint t ≤ q ∧ (f.midpoint t = q → r % 2 = 0))
    (hhigh : q ≤ f.midpoint r) (htie : f.midpoint r = q → r % 2 = 0) : f.Nearest q r := by
  have hmono := f.strictMono_value
  have habove : ∀ r', r < r' → f.midpoint r ≤ (f.value r + f.value r') / 2 := by
    intro r' hr'
    have : f.value (r + 1) ≤ f.value r' := hmono.monotone hr'
    rw [midpoint]
    linarith
  have hbelow : ∀ r', r' < r → ∃ t, t + 1 = r ∧ (f.value r' + f.value r) / 2 ≤ f.midpoint t := by
    intro r' hr'
    obtain ⟨t, rfl⟩ := Nat.exists_eq_add_one.mpr (Nat.zero_lt_of_lt hr')
    have : f.value r' ≤ f.value t := hmono.monotone (Nat.le_of_lt_succ hr')
    refine ⟨t, rfl, ?_⟩
    rw [midpoint]
    linarith
  refine ⟨fun r' => ?_, fun r' hne heq => ?_⟩
  · rcases lt_trichotomy r r' with h | rfl | h
    · exact (abs_sub_left_le_iff (hmono h)).mpr (hhigh.trans (habove r' h))
    · exact le_rfl
    · obtain ⟨t, ht, hmid⟩ := hbelow r' h
      exact (abs_sub_right_le_iff (hmono h)).mpr (hmid.trans (hlow t ht).1)
  · rcases lt_or_gt_of_ne hne with h | h
    · obtain ⟨t, ht, hmid⟩ := hbelow r' h
      have := (abs_sub_left_le_iff (hmono h)).mp heq.le
      exact (hlow t ht).2 (le_antisymm (hlow t ht).1 (this.trans hmid))
    · have := (abs_sub_right_le_iff (hmono h)).mp heq.le
      exact htie (le_antisymm ((habove r' h).trans this) hhigh)

/-- Rounding keeps the order: what is not above a magnitude does not get above it. -/
theorem Nearest.value_le (h : f.Nearest q r) (hq : q ≤ f.value t) : f.value r ≤ f.value t := by
  refine f.strictMono_value.monotone (not_lt.mp fun ht => ?_)
  have := f.value_lt_midpoint t
  rcases h.lt_iff.mp ht with hlt | ⟨heq, -⟩ <;> linarith

theorem Nearest.le_value (h : f.Nearest q r) (hq : f.value t ≤ q) : f.value t ≤ f.value r := by
  refine f.strictMono_value.monotone (not_lt.mp fun ht => ?_)
  have := (abs_sub_left_le_iff (f.strictMono_value ht)).mp (h.le t)
  have := f.strictMono_value ht
  linarith

/-! ## Fractions -/

theorem binade_mod_two (hp : 2 ≤ f.precision) : f.binade % 2 = 0 := by
  obtain ⟨p, hp⟩ := Nat.exists_eq_add_of_le hp
  have hbinade : f.binade = 2 * 2 ^ p := by
    rw [binade, hp, show 2 + p - 1 = p + 1 by omega]
    exact Nat.pow_succ'
  omega

/-- The rank that a quotient and a number of doublings make up is the nearest one, if the quotient
is the nearest integer. -/
theorem nearest_add_mul_binade (hp : 2 ≤ f.precision) (hm : m ≤ 2 * f.binade)
    (hk : k = 0 ∨ (f.binade : ℚ) ≤ x) (hlow : m - 1 / 2 ≤ x) (hhigh : x ≤ m + 1 / 2)
    (htie : x = m - 1 / 2 ∨ x = m + 1 / 2 → m % 2 = 0) :
    f.Nearest (x * 2 ^ (f.leastExponent + k)) (m + k * f.binade) := by
  have hunit : (0 : ℚ) < 2 ^ (f.leastExponent + k) := zpow_pos two_pos _
  have hlead : k = 0 ∨ f.binade ≤ m := by
    refine hk.imp_right fun hx => ?_
    have : (f.binade : ℚ) < m + 1 := by linarith
    exact Nat.lt_succ_iff.mp (by exact_mod_cast this)
  have hvalue := f.value_add_mul_binade hm hlead
  have heven : m % 2 = 0 → (m + k * f.binade) % 2 = 0 := by
    intro h
    rw [Nat.add_mod, Nat.mul_mod, f.binade_mod_two hp, h, Nat.mul_zero]
  have hnext : (m + 1 / 2) * 2 ^ (f.leastExponent + k) ≤ f.midpoint (m + k * f.binade) := by
    have hexponent : f.leastExponent + k ≤ f.exponent (m + k * f.binade) := by
      rw [exponent, Nat.add_mul_div_right _ _ f.binade_pos]
      rcases hlead with rfl | hB
      · omega
      · have := Nat.div_pos hB f.binade_pos
        omega
    have := zpow_le_zpow_right₀ (one_le_two (α := ℚ)) hexponent
    rw [midpoint_eq, hvalue]
    linarith
  refine .of_midpoints (fun t ht => ?_) ?_ fun h => ?_
  · by_cases hm' : ∃ n, m = n + 1 ∧ (k = 0 ∨ f.binade ≤ n)
    · obtain ⟨n, rfl, hn⟩ := hm'
      obtain rfl : t = n + k * f.binade := by omega
      have hhalf : (n + 1 / 2 : ℚ) = (n + 1 : ℕ) - 1 / 2 := by
        push_cast
        ring
      rw [f.midpoint_add_mul_binade hm hn, hhalf]
      exact ⟨mul_le_mul_of_nonneg_right hlow hunit.le,
        fun h => heven (htie (.inl (mul_right_cancel₀ hunit.ne' h).symm))⟩
    · -- the quotient is the least one with its leading bit, so the number is not below it
      have hB := f.binade_pos
      have hm0 : m = f.binade ∧ k ≠ 0 := by
        rcases Nat.eq_zero_or_pos m with rfl | hpos
        · rw [hlead.resolve_right (by omega), Nat.zero_mul] at ht
          omega
        · obtain ⟨n, rfl⟩ := Nat.exists_eq_add_one.mpr hpos
          have := not_or.mp fun h => hm' ⟨n, rfl, h⟩
          omega
      have hx : (m : ℚ) ≤ x := by
        rw [hm0.1]
        exact hk.resolve_left hm0.2
      have hlt : f.midpoint t < x * 2 ^ (f.leastExponent + k) :=
        calc f.midpoint t < f.value (t + 1) := f.midpoint_lt_value_succ t
          _ = m * 2 ^ (f.leastExponent + k) := by rw [ht, hvalue]
          _ ≤ x * 2 ^ (f.leastExponent + k) := mul_le_mul_of_nonneg_right hx hunit.le
      exact ⟨hlt.le, fun h => absurd h hlt.ne⟩
  · exact (mul_le_mul_of_nonneg_right hhigh hunit.le).trans hnext
  · refine heven (htie (.inr (le_antisymm hhigh ?_)))
    exact le_of_mul_le_mul_right (hnext.trans h.le) hunit

theorem cast_binade (hp : 2 ≤ f.precision) :
    (f.binade : ℚ) = 2 ^ ((f.precision : ℤ) - 1) := by
  obtain ⟨p, hp⟩ := Nat.exists_eq_add_of_le hp
  rw [binade, hp, show ((2 + p : ℕ) : ℤ) - 1 = ((p + 1 : ℕ) : ℤ) by omega, zpow_natCast,
    show 2 + p - 1 = p + 1 by omega]
  exact_mod_cast rfl

/-- In units of the last place a fraction is below twice the leading bit, and has the leading bit
unless its unit is the least one. -/
theorem div_unit_bounds (hp : 2 ≤ f.precision) {num den : ℕ} (hnum : 0 < num) (hden : 0 < den)
    {e : ℤ} (he : e = max f.leastExponent (floorLog2 num den - ((f.precision : ℤ) - 1))) :
    (num / den / 2 ^ e : ℚ) < 2 * f.binade ∧
      (e = f.leastExponent ∨ (f.binade : ℚ) ≤ num / den / 2 ^ e) := by
  have hunit : (0 : ℚ) < 2 ^ e := zpow_pos two_pos _
  obtain ⟨hlow, hhigh⟩ := floorLog2_spec hnum hden
  rw [f.cast_binade hp]
  constructor
  · rw [div_lt_iff₀ hunit]
    calc (num : ℚ) / den < 2 ^ (floorLog2 num den + 1) := hhigh
      _ ≤ 2 ^ (1 + ((f.precision : ℤ) - 1) + e) := zpow_le_zpow_right₀ one_le_two (by omega)
      _ = 2 * 2 ^ ((f.precision : ℤ) - 1) * 2 ^ e := by
        rw [zpow_add₀ two_ne_zero, zpow_add₀ two_ne_zero, zpow_one]
  · rw [le_div_iff₀ hunit]
    rcases max_choice f.leastExponent (floorLog2 num den - ((f.precision : ℤ) - 1)) with h | h
    · exact .inl (he.trans h)
    · right
      calc (2 : ℚ) ^ ((f.precision : ℤ) - 1) * 2 ^ e = 2 ^ floorLog2 num den := by
            rw [← zpow_add₀ two_ne_zero, he, h, add_sub_cancel]
        _ ≤ num / den := hlow

/-- **Fractions are rounded to the nearest rank**, up to infinity. -/
theorem nearest_rankOfRatio (hp : 2 ≤ f.precision) (num : ℕ) {den : ℕ} (hden : 0 < den) :
    ∃ r, f.Nearest (num / den) r ∧ f.rankOfRatio num den = min f.infinity r := by
  rcases Nat.eq_zero_or_pos num with rfl | hnum
  · refine ⟨0, .of_midpoints (by simp) ?_ (fun _ => rfl), ?_⟩
    · rw [Nat.cast_zero, zero_div]
      exact (f.value_nonneg 0).trans (f.value_lt_midpoint 0).le
    · rw [rankOfRatio, if_pos rfl, Nat.min_zero]
  · have hden' : (den : ℚ) ≠ 0 := by exact_mod_cast hden.ne'
    obtain ⟨e, he⟩ : ∃ e, e = max f.leastExponent (floorLog2 num den - ((f.precision : ℤ) - 1)) :=
      ⟨_, rfl⟩
    have hunit : (0 : ℚ) < 2 ^ e := zpow_pos two_pos _
    have hdiv : 0 < den * powNum 2 e := Nat.mul_pos hden (powNum_pos two_pos e)
    -- the quotient, and the fraction in units of the last place
    obtain ⟨m, hm⟩ : ∃ m, m = divNearestEven (num * powDen 2 e) (den * powNum 2 e) := ⟨_, rfl⟩
    have hx : ((num * powDen 2 e : ℕ) : ℚ) / (den * powNum 2 e : ℕ) = num / den / 2 ^ e := by
      have hpow : (powNum 2 e : ℚ) / powDen 2 e = 2 ^ e := powNum_div_powDen two_pos e
      have hpn : (powNum 2 e : ℚ) ≠ 0 := by exact_mod_cast (powNum_pos two_pos e).ne'
      have hpd : (powDen 2 e : ℚ) ≠ 0 := by exact_mod_cast (powDen_pos two_pos e).ne'
      rw [← hpow, Nat.cast_mul, Nat.cast_mul]
      field_simp
    have hlow := divNearestEven_sub_half_le (n := num * powDen 2 e) hdiv
    have hhigh := le_divNearestEven_add_half (n := num * powDen 2 e) hdiv
    have htie := divNearestEven_mod_two (n := num * powDen 2 e) hdiv
    rw [hx, ← hm] at hlow hhigh htie
    obtain ⟨hsmall, hlead⟩ := f.div_unit_bounds hp hnum hden he
    obtain ⟨k, hk⟩ := Int.le.dest (he.symm ▸ le_max_left .. : f.leastExponent ≤ e)
    have hlead' : k = 0 ∨ (f.binade : ℚ) ≤ num / den / 2 ^ e := hlead.imp_left fun h => by omega
    have hm2 : m ≤ 2 * f.binade := by
      have : (m : ℚ) < 2 * f.binade + 1 := by linarith
      exact Nat.lt_succ_iff.mp (by exact_mod_cast this)
    have hnearest := nearest_add_mul_binade hp hm2 hlead' hlow hhigh htie
    rw [hk, div_mul_cancel₀ _ hunit.ne'] at hnearest
    have hdoublings : (e - f.leastExponent).toNat = k := by omega
    refine ⟨_, hnearest, ?_⟩
    rw [rankOfRatio, if_neg hnum.ne']
    simp only [← he, ← hm, hdoublings]

/-! ## Powers of two -/

theorem value_binade_add (k : ℕ) :
    f.value (f.binade + k * f.binade) = f.binade * 2 ^ (f.leastExponent + k) :=
  f.value_add_mul_binade (Nat.le_mul_of_pos_left _ two_pos) (.inr le_rfl)

/-- A number is rounded to a power of two or beyond it from the midpoint below on. -/
theorem Nearest.binade_add_le_iff (hp : 2 ≤ f.precision) (h : f.Nearest q r) :
    f.binade + (k + 1) * f.binade ≤ r ↔ (2 * f.binade - 1 / 2) * 2 ^ (f.leastExponent + k) ≤ q := by
  have hB := f.binade_pos
  have heven := f.binade_mod_two hp
  obtain ⟨t, ht⟩ : ∃ t, t = 2 * f.binade - 1 + k * f.binade := ⟨_, rfl⟩
  have hrank : f.binade + (k + 1) * f.binade = t + 1 := by
    rw [Nat.add_one_mul]
    omega
  have hodd : t % 2 = 1 := by
    have : (k * f.binade) % 2 = 0 := by rw [Nat.mul_mod, heven, Nat.mul_zero]
    omega
  have hmid : f.midpoint t = (2 * f.binade - 1 / 2) * 2 ^ (f.leastExponent + k) := by
    rw [ht, f.midpoint_add_mul_binade (by omega) (.inr (by omega)), Nat.cast_sub (by omega)]
    push_cast
    ring
  rw [hrank, Nat.succ_le_iff, h.lt_iff, hmid, le_iff_lt_or_eq, and_iff_left hodd]

/-- A number is rounded to a rank above a power of two from beyond the midpoint above. -/
theorem Nearest.binade_add_lt_iff (hp : 2 ≤ f.precision) (h : f.Nearest q r) :
    f.binade + k * f.binade < r ↔ (f.binade + 1 / 2) * 2 ^ (f.leastExponent + k) < q := by
  have hB := f.binade_pos
  have hodd : ¬ (f.binade + k * f.binade) % 2 = 1 := by
    rw [Nat.add_mod, Nat.mul_mod, f.binade_mod_two hp, Nat.mul_zero]
    decide
  rw [h.lt_iff, f.midpoint_add_mul_binade (by omega) (.inr le_rfl),
    or_iff_left fun htie => hodd htie.2]

/-! ### In double precision -/

theorem binade_double : (double.binade : ℚ) = 2 ^ (52 : ℤ) := double.cast_binade (by decide)

theorem leastExponent_double : double.leastExponent = -1074 := by decide

theorem value_twoPow (e : ℕ) :
    double.value (double.binade + (e + 1022) * double.binade) = 2 ^ e := by
  have hexponent : (52 : ℤ) + (-1074 + (e + 1022 : ℕ)) = e := by
    push_cast
    ring
  rw [value_binade_add, binade_double, leastExponent_double, ← zpow_add₀ two_ne_zero, hexponent,
    zpow_natCast]

theorem value_infinity : double.value double.infinity = 2 ^ 1024 := by
  have hrank : double.infinity = double.binade + (1024 + 1022) * double.binade := by decide
  rw [hrank, value_twoPow]

/-- A power of two in terms of the leading bit of a significand. -/
theorem twoPow_eq (e : ℕ) (p : ℤ) : (2 : ℚ) ^ e = 2 ^ p * 2 ^ ((e : ℤ) - p) := by
  rw [← zpow_add₀ two_ne_zero, add_sub_cancel, zpow_natCast]

/-- **A bound below.** What stays below a power of two when it is rounded is below by more than a
quarter of the unit there. -/
theorem Nearest.value_lt_twoPow_iff (h : double.Nearest q r) (e : ℕ) :
    double.value r < 2 ^ e ↔ q < 2 ^ e - 2 ^ ((e : ℤ) - 54) := by
  have hbound : (2 * double.binade - 1 / 2 : ℚ) * 2 ^ (double.leastExponent + (e + 1021 : ℕ)) =
      2 ^ e - 2 ^ ((e : ℤ) - 54) := by
    have hunit : double.leastExponent + (e + 1021 : ℕ) = (e : ℤ) - 54 + 1 := by
      rw [leastExponent_double]
      push_cast
      ring
    rw [binade_double, hunit, zpow_add_one₀ two_ne_zero, twoPow_eq e 54]
    ring
  rw [← value_twoPow e, double.strictMono_value.lt_iff_lt, ← not_le,
    h.binade_add_le_iff (k := e + 1021) (by decide), hbound, not_le, value_twoPow e]

/-- **A bound above.** What stays up to a power of two when it is rounded is above by half of the
unit there at most. -/
theorem Nearest.value_le_twoPow_iff (h : double.Nearest q r) (e : ℕ) :
    double.value r ≤ 2 ^ e ↔ q ≤ 2 ^ e + 2 ^ ((e : ℤ) - 53) := by
  have hbound : (double.binade + 1 / 2 : ℚ) * 2 ^ (double.leastExponent + (e + 1022 : ℕ)) =
      2 ^ e + 2 ^ ((e : ℤ) - 53) := by
    have hunit : double.leastExponent + (e + 1022 : ℕ) = (e : ℤ) - 53 + 1 := by
      rw [leastExponent_double]
      push_cast
      ring
    rw [binade_double, hunit, zpow_add_one₀ two_ne_zero, twoPow_eq e 53]
    ring
  rw [← value_twoPow e, double.strictMono_value.le_iff_le, ← not_lt,
    h.binade_add_lt_iff (by decide), hbound, not_lt, value_twoPow e]

/-! ## Integer parts -/

/-- Where the significand ends, all magnitudes are integers. -/
theorem exists_nat_eq_value (h : (2 * f.binade : ℚ) ≤ f.value r) : ∃ n : ℕ, f.value r = n := by
  rcases le_total 0 (f.exponent r) with he | he
  · obtain ⟨k, hk⟩ := Int.eq_ofNat_of_zero_le he
    exact ⟨_, f.value_of_exponent_eq hk⟩
  · have hle := f.value_le_significand he
    have hlt : (f.significand r : ℚ) < 2 * f.binade := by exact_mod_cast f.significand_lt r
    linarith

theorem Holds.of_le {n : ℕ} (h : n ≤ 2 * f.binade) : f.Holds n := by
  rcases Nat.lt_or_eq_of_le h with hlt | rfl
  · exact .of_lt hlt
  · have hB := f.binade_pos
    exact ⟨f.binade, 1, by omega, by rw [pow_one, Nat.mul_comm]⟩

theorem Nearest.value_eq (hf : f.leastExponent ≤ 0) (h : f.Nearest q r) {n : ℕ} (hq : q = n)
    (hholds : f.Holds n) : f.value r = n := by
  obtain ⟨t, ht⟩ := (holds_iff hf).mp hholds
  rw [← ht] at hq ⊢
  exact le_antisymm (h.value_le hq.le) (h.le_value hq.ge)

/-- **When the integer part survives rounding.** The significand has to have room for it, and the
number must not be rounded up to the next integer. -/
theorem Nearest.floor_eq_iff (hf : f.leastExponent ≤ 0) (h : f.Nearest q r) (hq : 0 ≤ q) :
    ⌊f.value r⌋₊ = ⌊q⌋₊ ↔ f.Holds ⌊q⌋₊ ∧ f.value r ≠ ⌊q⌋₊ + 1 := by
  obtain ⟨n, hn⟩ : ∃ n, n = ⌊q⌋₊ := ⟨_, rfl⟩
  have hle : (n : ℚ) ≤ q := by rw [hn]; exact Nat.floor_le hq
  have hlt : q < n + 1 := by rw [hn]; exact Nat.lt_floor_add_one q
  rw [← hn, Nat.floor_eq_iff (f.value_nonneg r)]
  constructor
  · rintro ⟨hlow, hhigh⟩
    refine ⟨?_, hhigh.ne⟩
    by_cases hsmall : n < 2 * f.binade
    · exact .of_lt hsmall
    · have hB : (2 * f.binade : ℚ) ≤ n := by exact_mod_cast Nat.not_lt.mp hsmall
      obtain ⟨m, hm⟩ := exists_nat_eq_value (hB.trans hlow)
      rw [hm, Nat.cast_le] at hlow
      rw [hm, ← Nat.cast_succ, Nat.cast_lt] at hhigh
      obtain rfl : m = n := by omega
      exact (holds_iff hf).mpr ⟨r, hm⟩
  · rintro ⟨hholds, hne⟩
    obtain ⟨t, ht⟩ := (holds_iff hf).mp hholds
    have hlow : (n : ℚ) ≤ f.value r := ht ▸ h.le_value (ht.trans_le hle)
    refine ⟨hlow, ?_⟩
    by_cases hsmall : n + 1 ≤ 2 * f.binade
    · obtain ⟨u, hu⟩ := (holds_iff hf).mp (Holds.of_le hsmall)
      rw [Nat.cast_succ] at hu
      exact lt_of_le_of_ne (hu ▸ h.value_le (hu ▸ hlt.le)) hne
    · -- the next integer need not be a magnitude, but the nearest magnitude is an integer
      have hB : (2 * f.binade : ℚ) ≤ n := by exact_mod_cast Nat.lt_succ_iff.mp (not_le.mp hsmall)
      obtain ⟨m, hm⟩ := exists_nat_eq_value (hB.trans hlow)
      have hnear := h.le t
      rw [ht, abs_of_nonpos (sub_nonpos.mpr hle)] at hnear
      have hm2 : (m : ℚ) < n + 2 := by
        have := le_abs_self (f.value r - q)
        rw [← hm]
        linarith
      have hm2' : m < n + 2 := by exact_mod_cast hm2
      have hmne : m ≠ n + 1 := by
        rintro rfl
        exact hne (by rw [hm, Nat.cast_succ])
      rw [hm]
      exact_mod_cast (by omega : m < n + 1)

end Format

/-! ## Decimals -/

namespace Decimal

variable (d : Decimal)

/-- The magnitude of a decimal is a fraction of `10 ^ places`. -/
theorem lt_ten_zpow :
    (d.coefficient * 10 ^ d.exponent : ℚ) < 10 ^ ((digits d.coefficient).length + d.exponent) := by
  have hlt : d.coefficient < 10 ^ (digits d.coefficient).length :=
    (Nat.length_toDigits_le_iff (by decide) Nat.length_toDigits_pos).mp le_rfl
  rw [zpow_add₀ (by norm_num), zpow_natCast]
  exact mul_lt_mul_of_pos_right (by exact_mod_cast hlt) (by positivity)

/-- Its leading digit is not zero. -/
theorem ten_zpow_le (h : d.coefficient ≠ 0) :
    (10 : ℚ) ^ ((digits d.coefficient).length + d.exponent - 1) ≤
      d.coefficient * 10 ^ d.exponent := by
  obtain ⟨n, hn⟩ := Nat.exists_eq_add_one.mpr
    (Nat.length_toDigits_pos (b := 10) (n := d.coefficient))
  have hle : 10 ^ n ≤ d.coefficient := by
    rcases Nat.eq_zero_or_pos n with rfl | hpos
    · exact Nat.one_le_iff_ne_zero.mpr h
    · have hlength : ¬ (Nat.toDigits 10 d.coefficient).length ≤ n := by omega
      exact not_lt.mp fun hlt =>
        hlength ((Nat.length_toDigits_le_iff (by decide) hpos).mpr hlt)
  have hexponent : ((digits d.coefficient).length : ℤ) + d.exponent - 1 = n + d.exponent := by
    rw [digits, hn]
    omega
  rw [hexponent, zpow_add₀ (by norm_num), zpow_natCast]
  exact mul_le_mul_of_nonneg_right (by exact_mod_cast hle) (by positivity)

theorem two_zpow_le_ten_zpow : (2 : ℚ) ^ (1089 : ℤ) ≤ 10 ^ (330 : ℤ) := by
  have hten : (2 : ℚ) ^ (33 : ℤ) ≤ 10 ^ (10 : ℤ) := by norm_num
  calc (2 : ℚ) ^ (1089 : ℤ) = (2 ^ (33 : ℤ)) ^ (33 : ℤ) := by rw [← zpow_mul]; rfl
    _ ≤ (10 ^ (10 : ℤ)) ^ (33 : ℤ) := zpow_le_zpow_left₀ (by decide) (by positivity) hten
    _ = 10 ^ (330 : ℤ) := by rw [← zpow_mul]; rfl

/-- Far below the least magnitude everything is rounded to zero. -/
theorem rank_eq_zero {r : ℕ} (hr : Format.double.Nearest (d.coefficient * 10 ^ d.exponent) r)
    (h : d.coefficient = 0 ∨ (digits d.coefficient).length + d.exponent < -reach) : r = 0 := by
  have hmid : Format.double.midpoint 0 = 2 ^ (-1075 : ℤ) := by
    have hexponent : Format.double.exponent 0 = -1074 := by decide
    rw [Format.midpoint_eq, Format.value_zero, hexponent, zero_add, div_eq_mul_inv,
      ← zpow_sub_one₀ two_ne_zero]
    rfl
  have hlt : (d.coefficient * 10 ^ d.exponent : ℚ) < Format.double.midpoint 0 := by
    rw [hmid]
    rcases h with h | h
    · rw [h, Nat.cast_zero, zero_mul]
      positivity
    · rw [reach] at h
      calc (d.coefficient * 10 ^ d.exponent : ℚ) < 10 ^ (_ : ℤ) := d.lt_ten_zpow
        _ ≤ 10 ^ (-330 : ℤ) := zpow_le_zpow_right₀ (by norm_num) (by omega)
        _ ≤ 2 ^ (-1089 : ℤ) := by
          rw [zpow_neg, zpow_neg]
          exact inv_anti₀ (by positivity) two_zpow_le_ten_zpow
        _ ≤ 2 ^ (-1075 : ℤ) := zpow_le_zpow_right₀ one_le_two (by decide)
  refine Nat.eq_zero_of_not_pos fun hpos => ?_
  rcases hr.lt_iff.mp hpos with h' | ⟨h', -⟩ <;> linarith

/-- Far above the greatest magnitude everything is rounded to infinity. -/
theorem infinity_le_rank {r : ℕ} (hr : Format.double.Nearest (d.coefficient * 10 ^ d.exponent) r)
    (hne : d.coefficient ≠ 0) (h : reach < (digits d.coefficient).length + d.exponent) :
    Format.double.infinity ≤ r := by
  rw [reach] at h
  refine Format.double.strictMono_value.le_iff_le.mp (hr.le_value ?_)
  calc Format.double.value Format.double.infinity = 2 ^ (1024 : ℤ) := Format.value_infinity
    _ ≤ 2 ^ (1089 : ℤ) := zpow_le_zpow_right₀ one_le_two (by decide)
    _ ≤ 10 ^ (330 : ℤ) := two_zpow_le_ten_zpow
    _ ≤ 10 ^ ((digits d.coefficient).length + d.exponent - 1) :=
      zpow_le_zpow_right₀ (by norm_num) (by omega)
    _ ≤ d.coefficient * 10 ^ d.exponent := d.ten_zpow_le hne

/-- **Decimals are rounded to the nearest number**, up to infinity. The two shortcuts for very small
and very great decimals give what rounding would give. -/
theorem nearest_toDouble :
    ∃ r, Format.double.Nearest (d.coefficient * 10 ^ d.exponent) r ∧
      d.toDouble = .ofRank d.negative (min Format.double.infinity r) := by
  obtain ⟨r, hr, hrank⟩ := Format.nearest_rankOfRatio (f := .double) (by decide)
    (d.coefficient * powNum 10 d.exponent) (powDen_pos (by decide : 0 < 10) d.exponent)
  have hratio : ((d.coefficient * powNum 10 d.exponent : ℕ) : ℚ) / (powDen 10 d.exponent : ℕ) =
      d.coefficient * 10 ^ d.exponent := by
    rw [Nat.cast_mul, mul_div_assoc, powNum_div_powDen (by decide)]
    rfl
  rw [hratio] at hr
  refine ⟨r, hr, ?_⟩
  rw [toDouble]
  split
  · next hsmall => rw [d.rank_eq_zero hr hsmall, Nat.min_zero]
  · next hsmall =>
    split
    · next hgreat => rw [Nat.min_eq_left (d.infinity_le_rank hr (not_or.mp hsmall).1 hgreat)]
    · rw [Double.ofRatio, hrank]

end Decimal

end ForeignCall.Number
