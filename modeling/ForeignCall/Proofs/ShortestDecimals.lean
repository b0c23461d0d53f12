import ForeignCall.Number.Layout
import ForeignCall.Proofs.Truncation

/-!
# Shortest decimals

A finite number is written as the shortest decimal that reads back as it. Here this is proved of the
search for that decimal: what it finds rounds to the number, and it finds something.

The numbers that round to a rank are those between the midpoints around it, and the ends belong to
them if the rank is even. This is the interval that the search is given. A multiple of a power of
ten that is found in it rounds to the rank, whichever of two is taken. The interval is not too small
a part of the number, since a significand has 53 bits, and so a grid of seventeen digits is finer
than the interval and has a point in it.

Then the decimal is written, with a point or with an exponent, and that text denotes it. So what was
written is read back, and different numbers have different texts.

## Main definitions

* `Neighbourhood.center`, `lower`, `upper` — a number and the ends of its interval, as rationals

## Main results

* `Format.value_lt_mul_gap` — the interval that rounds to a rank is not too small
* `Neighbourhood.nearest_of_contains` — what lies in the interval of a number rounds to it
* `Neighbourhood.isSome_onGrid?_sixteen` — seventeen digits always suffice
* `nearest_shortest` — the shortest decimal rounds to the number
* `denotes_positional`, `denotes_scientific` — what is written denotes the decimal
* `Layout.plain?_write`, `Layout.write_inj` — a written number is read back
-/

namespace ForeignCall.Number

/-! ## The numbers that round to a rank -/

namespace Format

variable {f : Format} {t : ℕ}

theorem significand_mod_two (hp : 2 ≤ f.precision) (rank : ℕ) :
    f.significand rank % 2 = rank % 2 := by
  have hparts := f.significand_add_mul_binade rank
  have heven : (rank / f.binade - 1) * f.binade % 2 = 0 := by
    rw [Nat.mul_mod, f.binade_mod_two hp, Nat.mul_zero, Nat.zero_mod]
  omega

/-- The unit below a power of two is half of the unit there, unless that is the least one. -/
theorem exponent_succ (t : ℕ) : f.exponent (t + 1) =
    if f.significand (t + 1) = f.binade ∧ f.leastExponent < f.exponent (t + 1) then
      f.exponent t + 1
    else f.exponent t := by
  have hB := f.binade_pos
  have hquotient : (t + 1) / f.binade = t / f.binade + if f.binade ∣ t + 1 then 1 else 0 :=
    Nat.succ_div
  by_cases hdvd : f.binade ∣ t + 1
  · have hge : ¬ t + 1 < f.binade := Nat.not_lt.mpr (Nat.le_of_dvd (Nat.succ_pos t) hdvd)
    have hsignificand : f.significand (t + 1) = f.binade := by
      rw [significand, if_neg hge, Nat.mod_eq_zero_of_dvd hdvd, Nat.zero_add]
    rw [if_pos hdvd] at hquotient
    simp only [hsignificand, true_and, exponent, hquotient]
    split <;> omega
  · have hsignificand : f.significand (t + 1) ≠ f.binade := by
      rw [significand]
      split
      · omega
      · have := Nat.emod_pos_of_not_dvd hdvd
        omega
    rw [if_neg hdvd] at hquotient
    rw [if_neg fun h => hsignificand h.1, exponent, exponent, hquotient, Nat.add_zero]

/-- The midpoint below a rank. -/
theorem midpoint_pred (t : ℕ) : f.midpoint t = f.value (t + 1) - 2 ^ f.exponent t / 2 := by
  rw [midpoint_eq, value_succ]
  ring

/-- **What rounds to a rank is not too small a part of it**: more than one part in twice the leading
bit. -/
theorem value_lt_mul_gap (t : ℕ) :
    f.value (t + 1) < 2 * f.binade * (f.midpoint (t + 1) - f.midpoint t) := by
  have hunit : (0 : ℚ) < 2 ^ f.exponent t := zpow_pos two_pos _
  have hB : (0 : ℚ) < f.binade := by exact_mod_cast f.binade_pos
  have hexponent := f.exponent_succ t
  rw [midpoint_eq, midpoint_pred, value]
  split at hexponent
  · next h =>
    rw [h.1, hexponent, zpow_add_one₀ two_ne_zero]
    nlinarith [mul_pos hB hunit]
  · have hlt : (f.significand (t + 1) : ℚ) < 2 * f.binade := by
      exact_mod_cast f.significand_lt (t + 1)
    rw [hexponent]
    nlinarith [mul_lt_mul_of_pos_right hlt hunit]

end Format

namespace Neighbourhood

variable {v : Neighbourhood} {num den c : ℕ} {k : ℤ} {tie : Tie} {x : Double} {t : ℕ}

/-! ## Grids -/

/-- The number that a neighbourhood is about. -/
def center (v : Neighbourhood) : ℚ := v.value / v.scale

/-- The lower end of the interval. -/
def lower (v : Neighbourhood) : ℚ := v.low / v.scale

/-- The upper end of the interval. -/
def upper (v : Neighbourhood) : ℚ := v.high / v.scale

theorem contains_iff (hscale : 0 < v.scale) (hden : 0 < den) :
    v.contains num den = true ↔
      if v.closed then v.lower ≤ num / den ∧ (num / den : ℚ) ≤ v.upper
      else v.lower < num / den ∧ (num / den : ℚ) < v.upper := by
  have hs : (0 : ℚ) < v.scale := by exact_mod_cast hscale
  have hd : (0 : ℚ) < den := by exact_mod_cast hden
  rw [contains, lower, upper]
  split <;>
  · simp only [Bool.and_eq_true, decide_eq_true_eq, div_le_div_iff₀ hs hd, div_le_div_iff₀ hd hs,
      div_lt_div_iff₀ hs hd, div_lt_div_iff₀ hd hs]
    norm_cast

/-- What lies between the ends belongs to the interval in any case. -/
theorem contains_of_lt (hscale : 0 < v.scale) (hden : 0 < den) (hlow : v.lower < num / den)
    (hhigh : (num / den : ℚ) < v.upper) : v.contains num den = true := by
  rw [contains_iff hscale hden]
  split
  · exact ⟨hlow.le, hhigh.le⟩
  · exact ⟨hlow, hhigh⟩

/-- A point of a grid, as the search writes it. -/
theorem grid_point (c : ℕ) (k : ℤ) :
    ((c * powNum 10 k : ℕ) : ℚ) / (powDen 10 k : ℕ) = c * 10 ^ k := by
  have hpower : (powNum 10 k : ℚ) / powDen 10 k = 10 ^ k := powNum_div_powDen (by decide) k
  rw [Nat.cast_mul, mul_div_assoc, hpower]

/-- A hit on a grid lies in the interval. -/
theorem contains_of_onGrid? (h : v.onGrid? tie k = some c) :
    v.contains (c * powNum 10 k) (powDen 10 k) = true := by
  simp only [onGrid?] at h
  split at h
  · exact absurd h (by simp)
  · next hc _ =>
    obtain rfl := Option.some.inj h
    exact hc
  · next hc =>
    obtain rfl := Option.some.inj h
    exact hc
  · next hc hc' =>
    split at h
    · obtain rfl := Option.some.inj h
      exact hc
    · split at h
      · obtain rfl := Option.some.inj h
        exact hc'
      · cases tie with
        | away =>
          obtain rfl := Option.some.inj h
          exact hc'
        | even =>
          obtain rfl := Option.some.inj h
          split
          · exact hc
          · exact hc'

/-- The coefficient that is looked at is the greatest one that does not go beyond the number. -/
theorem coefficient_bounds (hscale : 0 < v.scale) (k : ℤ) :
    let c := v.value * powDen 10 k / (powNum 10 k * v.scale)
    (c * 10 ^ k : ℚ) ≤ v.center ∧ v.center < (c + 1) * 10 ^ k := by
  intro c
  have hs : (0 : ℚ) < v.scale := by exact_mod_cast hscale
  have hnum : (0 : ℚ) < powNum 10 k := by exact_mod_cast powNum_pos (by decide : 0 < 10) k
  have hden : (0 : ℚ) < powDen 10 k := by exact_mod_cast powDen_pos (by decide : 0 < 10) k
  have hpower : (powNum 10 k : ℚ) / powDen 10 k = 10 ^ k := powNum_div_powDen (by decide) k
  have hten : (0 : ℚ) < 10 ^ k := by positivity
  have hc : c = ⌊v.center / 10 ^ k⌋₊ := by
    have hratio : v.center / 10 ^ k =
        ((v.value * powDen 10 k : ℕ) : ℚ) / ((powNum 10 k * v.scale : ℕ) : ℚ) := by
      rw [center, ← hpower]
      push_cast
      field_simp
    rw [hratio, Nat.floor_div_eq_div]
  have hnonneg : 0 ≤ v.center / 10 ^ k := by
    rw [center]
    positivity
  rw [hc, ← le_div_iff₀ hten, ← div_lt_iff₀ hten]
  exact ⟨Nat.floor_le hnonneg, Nat.lt_floor_add_one _⟩

/-- **A grid that is finer than the interval has a hit.** -/
theorem isSome_onGrid? (hscale : 0 < v.scale) (hlow : v.lower < v.center)
    (hhigh : v.center < v.upper) (hfine : (10 : ℚ) ^ k < v.upper - v.lower) (tie : Tie) :
    (v.onGrid? tie k).isSome = true := by
  obtain ⟨hbelow, habove⟩ := coefficient_bounds hscale k
  have hden : 0 < powDen 10 k := powDen_pos (by decide) k
  simp only [onGrid?]
  generalize v.value * powDen 10 k / (powNum 10 k * v.scale) = c at hbelow habove ⊢
  split
  · next hc hc' =>
    -- the two neighbours on the grid are outside, one on each side
    have hlower : (c * 10 ^ k : ℚ) ≤ v.lower := not_lt.mp fun hlt => by
      have := contains_of_lt hscale hden (by rwa [grid_point]) (by rw [grid_point]; linarith)
      exact absurd (this.symm.trans hc) (by simp)
    have hupper : v.upper ≤ (c + 1) * 10 ^ k := not_lt.mp fun hlt => by
      have hpoint := grid_point (c + 1) k
      rw [Nat.cast_succ] at hpoint
      have := contains_of_lt hscale hden (by rw [hpoint]; linarith) (by rwa [hpoint])
      exact absurd (this.symm.trans hc') (by simp)
    linarith
  · rfl
  · rfl
  · split
    · rfl
    · split
      · rfl
      · cases tie <;> rfl

/-! ## The interval of a number -/

theorem scale_pos (x : Double) : 0 < (ofDouble x).scale :=
  Nat.mul_pos (by decide) (powDen_pos two_pos _)

/-- A number of quarters of the unit, over the scale. -/
theorem quarters_div_scale (x : Double) (n : ℕ) :
    ((n * powNum 2 x.exponent : ℕ) : ℚ) / (ofDouble x).scale = n / 4 * 2 ^ x.exponent := by
  have hpower : (powNum 2 x.exponent : ℚ) / powDen 2 x.exponent = 2 ^ x.exponent :=
    powNum_div_powDen two_pos _
  have hden : (powDen 2 x.exponent : ℚ) ≠ 0 := by exact_mod_cast (powDen_pos two_pos _).ne'
  simp only [ofDouble]
  rw [← hpower]
  push_cast
  field_simp

theorem center_ofDouble (x : Double) : (ofDouble x).center = Format.double.value x.rank := by
  rw [center, show (ofDouble x).value = 4 * x.significand * powNum 2 x.exponent from rfl,
    quarters_div_scale, Format.value]
  push_cast
  rw [mul_div_cancel_left₀ _ four_ne_zero]
  rfl

theorem upper_ofDouble (x : Double) : (ofDouble x).upper = Format.double.midpoint x.rank := by
  rw [upper, show (ofDouble x).high = (4 * x.significand + 2) * powNum 2 x.exponent from rfl,
    quarters_div_scale, Format.midpoint_eq, Format.value]
  rw [show Format.double.significand x.rank = x.significand from rfl,
    show Format.double.exponent x.rank = x.exponent from rfl]
  push_cast
  ring

theorem lower_ofDouble (h : x.rank = t + 1) : (ofDouble x).lower = Format.double.midpoint t := by
  have hpos : 1 ≤ x.significand := by
    rw [Double.significand, h, Format.significand]
    split <;> have := Format.double.binade_pos <;> omega
  have hexponent := Format.double.exponent_succ t
  rw [← h] at hexponent
  rw [Format.midpoint_pred, ← h, Format.value, lower]
  rw [show Format.double.significand x.rank = x.significand from rfl,
    show Format.double.exponent x.rank = x.exponent from rfl] at *
  have hlow : (ofDouble x).low = (4 * x.significand -
      if x.significand = Format.double.binade ∧ Format.double.leastExponent < x.exponent then 1
      else 2) * powNum 2 x.exponent := rfl
  rw [hlow, quarters_div_scale]
  split at hexponent
  · next hp =>
    rw [if_pos hp, Nat.cast_sub (by omega), hexponent, zpow_add_one₀ two_ne_zero]
    push_cast
    ring
  · next hp =>
    rw [if_neg hp, Nat.cast_sub (by omega), hexponent]
    push_cast
    ring

theorem closed_ofDouble (x : Double) : (ofDouble x).closed = true ↔ x.rank % 2 = 0 := by
  rw [← Format.significand_mod_two (f := .double) (by decide) x.rank]
  exact beq_iff_eq

/-- **What lies in the interval of a number rounds to it.** -/
theorem nearest_of_contains (h : x.rank ≠ 0) (hden : 0 < den)
    (hin : (ofDouble x).contains num den = true) : Format.double.Nearest (num / den) x.rank := by
  obtain ⟨t, ht⟩ := Nat.exists_eq_add_one_of_ne_zero h
  rw [contains_iff (scale_pos x) hden, lower_ofDouble ht, upper_ofDouble] at hin
  split at hin
  · next hclosed =>
    have heven := (closed_ofDouble x).mp hclosed
    refine .of_midpoints (fun s hs => ?_) hin.2 fun _ => heven
    obtain rfl : s = t := by omega
    exact ⟨hin.1, fun _ => heven⟩
  · refine .of_midpoints (fun s hs => ?_) hin.2.le fun htie => absurd htie hin.2.ne'
    obtain rfl : s = t := by omega
    exact ⟨hin.1.le, fun htie => absurd htie hin.1.ne⟩

/-! ## Seventeen digits -/

/-- The least magnitude is not too small for the search to find its leading digit. -/
theorem one_le_center_mul (h : x.rank ≠ 0) {e : ℕ} (he : 350 ≤ e) :
    (1 : ℚ) ≤ (ofDouble x).center * 10 ^ e := by
  have hleast : Format.double.value 1 = 2 ^ (-1074 : ℤ) := by
    have hexponent : Format.double.exponent 1 = -1074 := by decide
    have hsignificand : Format.double.significand 1 = 1 := by decide
    rw [Format.value, hexponent, hsignificand, Nat.cast_one, one_mul]
  have hvalue : Format.double.value 1 ≤ Format.double.value x.rank :=
    Format.double.strictMono_value.monotone (Nat.one_le_iff_ne_zero.mpr h)
  have hten : (2 : ℚ) ^ (1074 : ℤ) ≤ 10 ^ e :=
    calc (2 : ℚ) ^ (1074 : ℤ) ≤ 2 ^ (1089 : ℤ) := zpow_le_zpow_right₀ one_le_two (by decide)
      _ ≤ 10 ^ (330 : ℤ) := Decimal.two_zpow_le_ten_zpow
      _ ≤ 10 ^ (e : ℤ) := zpow_le_zpow_right₀ (by norm_num) (by omega)
      _ = 10 ^ e := zpow_natCast _ _
  rw [center_ofDouble]
  calc (1 : ℚ) = 2 ^ (-1074 : ℤ) * 2 ^ (1074 : ℤ) := by
        rw [← zpow_add₀ two_ne_zero]
        rfl
    _ ≤ Format.double.value x.rank * 10 ^ e :=
      mul_le_mul (hleast ▸ hvalue) hten (by positivity) (Format.double.value_nonneg _)

/-- The leading digit of a number, found by counting the digits in front of a shifted point. -/
theorem ten_zpow_le_center {e : ℕ} {d : ℤ} (hd : d = e + 1)
    (h : (1 : ℚ) ≤ (ofDouble x).center * 10 ^ e) :
    (10 : ℚ) ^ (((digits ((ofDouble x).value * Nat.pow 10 e / (ofDouble x).scale)).length : ℤ) -
      d) ≤ (ofDouble x).center := by
  obtain ⟨n, hn⟩ : ∃ n, n = (ofDouble x).value * Nat.pow 10 e / (ofDouble x).scale := ⟨_, rfl⟩
  have hfloor : n = ⌊(ofDouble x).center * 10 ^ e⌋₊ := by
    have hpower : ((Nat.pow 10 e : ℕ) : ℚ) = 10 ^ e := Nat.cast_pow 10 e
    rw [hn, ← Nat.floor_div_eq_div (K := ℚ), center, Nat.cast_mul, hpower, div_mul_eq_mul_div]
  have hpos : n ≠ 0 := by
    rwa [hfloor, ← Nat.one_le_iff_ne_zero, Nat.le_floor_iff' one_ne_zero, Nat.cast_one]
  have hle : (n : ℚ) ≤ (ofDouble x).center * 10 ^ e := by
    rw [hfloor]
    exact Nat.floor_le (zero_le_one.trans h)
  have hexponent : ((digits n).length : ℤ) - d = (digits n).length + -e - 1 := by
    rw [hd]
    ring
  rw [← hn, hexponent]
  calc (10 : ℚ) ^ ((digits n).length + -e - 1 : ℤ) ≤ n * 10 ^ (-e : ℤ) :=
        Decimal.ten_zpow_le ⟨false, n, -e⟩ hpos
    _ ≤ (ofDouble x).center * 10 ^ e * 10 ^ (-e : ℤ) :=
      mul_le_mul_of_nonneg_right hle (by positivity)
    _ = (ofDouble x).center := by
      rw [zpow_neg, zpow_natCast, mul_assoc, mul_inv_cancel₀ (by positivity), mul_one]

/-- The decade of a number is not above it. -/
theorem ten_zpow_decade_le (h : x.rank ≠ 0) :
    (10 : ℚ) ^ (ofDouble x).decade ≤ (ofDouble x).center := by
  obtain ⟨e, he⟩ : ∃ e : ℕ, e = 350 := ⟨_, rfl⟩
  rw [decade, ← he]
  exact ten_zpow_le_center (by omega) (one_le_center_mul h he.ge)

/-- **Seventeen digits always suffice.** -/
theorem isSome_onGrid?_sixteen (h : x.rank ≠ 0) (tie : Tie) :
    ((ofDouble x).onGrid? tie ((ofDouble x).decade - 16)).isSome = true := by
  obtain ⟨t, ht⟩ := Nat.exists_eq_add_one_of_ne_zero h
  have hgap := Format.double.value_lt_mul_gap t
  have hdecade := ten_zpow_decade_le h
  rw [center_ofDouble] at hdecade
  refine isSome_onGrid? (scale_pos x) ?_ ?_ ?_ tie
  · rw [lower_ofDouble ht, center_ofDouble, ht]
    exact Format.double.midpoint_lt_value_succ t
  · rw [center_ofDouble, upper_ofDouble]
    exact Format.double.value_lt_midpoint _
  · rw [lower_ofDouble ht, upper_ofDouble, ht, zpow_sub₀ (by norm_num),
      div_lt_iff₀ (by positivity)]
    rw [ht] at hdecade
    have hbinade : (2 * Format.double.binade : ℚ) < 10 ^ (16 : ℤ) := by
      rw [Format.binade_double]
      norm_num
    have hpos : 0 < Format.double.midpoint (t + 1) - Format.double.midpoint t := by
      have := Format.double.midpoint_lt_value_succ t
      have := Format.double.value_lt_midpoint (t + 1)
      linarith
    nlinarith [mul_lt_mul_of_pos_right hbinade hpos]

end Neighbourhood

/-! ## The shortest decimal -/

/-- Zeros are moved into the exponent without a change of the value. -/
theorem stripZeros_value (n c : ℕ) (k : ℤ) :
    ((stripZeros n c k).1 * 10 ^ (stripZeros n c k).2 : ℚ) = c * 10 ^ k := by
  fun_induction stripZeros n c k with
  | case1 => rfl
  | case2 n c k h ih =>
    obtain ⟨d, rfl⟩ := Nat.dvd_of_mod_eq_zero h
    rw [ih, Nat.mul_div_cancel_left _ (by decide), zpow_add_one₀ (by norm_num)]
    push_cast
    ring
  | case3 => rfl

/-- **The shortest decimal rounds to the number.** -/
theorem nearest_shortest {x : Double} (h : x.rank ≠ 0) (tie : Tie) :
    Format.double.Nearest ((shortest tie x).1 * 10 ^ (shortest tie x).2) x.rank := by
  simp only [shortest]
  split
  · next c k hit =>
    obtain ⟨n, -, hgrid⟩ := List.exists_of_findSome?_eq_some hit
    obtain ⟨c', hc', hpair⟩ := Option.map_eq_some_iff.mp hgrid
    obtain ⟨rfl, rfl⟩ := Prod.mk.inj hpair
    rw [stripZeros_value]
    have hin := Neighbourhood.contains_of_onGrid? hc'
    have hnear := Neighbourhood.nearest_of_contains h (powDen_pos (by decide) _) hin
    rwa [Neighbourhood.grid_point] at hnear
  · next hit =>
    have hlast := Neighbourhood.isSome_onGrid?_sixteen h tie
    have hnone := Option.map_eq_none_iff.mp (List.findSome?_eq_none_iff.mp hit 16 (by simp))
    rw [Nat.cast_ofNat] at hnone
    rw [hnone] at hlast
    exact absurd hlast (by simp)

/-! ## What is written denotes the decimal -/

section Texts

open Numeral (Digits MantissaDenotes ExponentDenotes Denotes ofDigits_append IsSign)

variable {ds : List Char} {mark : List Char} {x : ℚ} {q : ℚ}

theorem digits_digits (n : ℕ) : Digits (digits n) :=
  ⟨digits_ne_nil n, fun _ => isDigit_of_mem_digits⟩

theorem isDigit_of_mem_zeros {n : ℕ} {c : Char} (h : c ∈ zeros n) : c.isDigit = true := by
  rw [List.eq_of_mem_replicate h]
  rfl

theorem ofDigits_zeros (n : ℕ) : ofDigits (zeros n) = 0 := by
  induction n with
  | zero => rfl
  | succ n ih =>
    rw [zeros, List.replicate_succ', ofDigits_append, ← zeros, ih]
    rfl

theorem length_zeros (n : ℕ) : (zeros n).length = n := List.length_replicate

/-- A mantissa without an exponent. -/
theorem Numeral.MantissaDenotes.denotes (h : MantissaDenotes ds x) : Denotes ds x :=
  ⟨ds, [], x, 0, (List.append_nil ds).symm, h, .absent, by rw [zpow_zero, mul_one]⟩

/-- Digits with a point in front of the last few of them. -/
theorem mantissaDenotes_point {fs : List Char} (hds : ∀ c ∈ ds, c.isDigit = true)
    (hfs : ∀ c ∈ fs, c.isDigit = true) (hne : ds ++ fs ≠ []) :
    MantissaDenotes (ds ++ '.' :: fs) (ofDigits (ds ++ fs) / 10 ^ fs.length) := by
  have hten : (10 : ℚ) ^ fs.length ≠ 0 := by positivity
  have hvalue : (ofDigits (ds ++ fs) / 10 ^ fs.length : ℚ) =
      ofDigits ds + ofDigits fs / 10 ^ fs.length := by
    rw [ofDigits_append, Nat.cast_add, Nat.cast_mul, Nat.cast_pow, Nat.cast_ofNat, add_div,
      mul_div_cancel_right₀ _ hten]
  rw [hvalue]
  exact .point hds hfs hne

/-- A coefficient with zeros behind it, and perhaps with a point and a zero. -/
theorem mantissaDenotes_whole (c n : ℕ) (marked : Bool) :
    MantissaDenotes (digits c ++ zeros n ++ if marked then ['.', '0'] else []) (c * 10 ^ n) := by
  have hwhole : Digits (digits c ++ zeros n) := by
    refine ⟨by simp [digits_ne_nil], fun d hd => ?_⟩
    exact (List.mem_append.mp hd).elim isDigit_of_mem_digits isDigit_of_mem_zeros
  have hvalue : (ofDigits (digits c ++ zeros n) : ℚ) = c * 10 ^ n := by
    rw [ofDigits_append, ofDigits_digits, ofDigits_zeros, length_zeros]
    push_cast
    ring
  rw [← hvalue]
  cases marked with
  | false => exact (List.append_nil _).symm ▸ .whole hwhole
  | true =>
    have hzero : ∀ d ∈ ['0'], d.isDigit = true := List.forall_mem_singleton.mpr rfl
    have hpoint := MantissaDenotes.point hwhole.2 hzero (by simp)
    rw [show ofDigits ['0'] = 0 from rfl, Nat.cast_zero, zero_div, add_zero] at hpoint
    exact hpoint

/-- A coefficient with some places behind the point, which has zeros in front of it if it has fewer
digits. -/
theorem mantissaDenotes_places (c p : ℕ) :
    MantissaDenotes
      (if p < (digits c).length then
        (digits c).take ((digits c).length - p) ++ '.' :: (digits c).drop ((digits c).length - p)
      else '0' :: '.' :: (zeros (p - (digits c).length) ++ digits c)) (c / 10 ^ p) := by
  have hdigit : ∀ d ∈ digits c, d.isDigit = true := fun _ => isDigit_of_mem_digits
  split
  · next hlt =>
    have hlength : ((digits c).drop ((digits c).length - p)).length = p := by
      rw [List.length_drop]
      omega
    have hpoint := mantissaDenotes_point (fun d hd => hdigit d (List.mem_of_mem_take hd))
      (fun d hd => hdigit d (List.mem_of_mem_drop hd))
      (by rw [List.take_append_drop ((digits c).length - p)]; exact digits_ne_nil c)
    rwa [List.take_append_drop, ofDigits_digits, hlength] at hpoint
  · next hge =>
    have hlength : (zeros (p - (digits c).length) ++ digits c).length = p := by
      rw [List.length_append, length_zeros]
      omega
    have hzero : ∀ d ∈ ['0'], d.isDigit = true := List.forall_mem_singleton.mpr rfl
    have hback : ∀ d ∈ zeros (p - (digits c).length) ++ digits c, d.isDigit = true :=
      fun d hd => (List.mem_append.mp hd).elim isDigit_of_mem_zeros (hdigit d)
    have hpoint := mantissaDenotes_point hzero hback (by simp)
    rwa [hlength, ofDigits_append, ofDigits_append, ofDigits_zeros, ofDigits_digits,
      show ofDigits ['0'] = 0 from rfl, zero_mul, zero_add, zero_mul, zero_add] at hpoint

/-- **A positional numeral denotes its decimal.** -/
theorem denotes_positional (c : ℕ) (k : ℤ) (marked : Bool) :
    Denotes (positional c k marked) (c * 10 ^ k) := by
  rw [positional]
  split
  · next hk =>
    obtain ⟨n, rfl⟩ := Int.eq_ofNat_of_zero_le hk
    rw [Int.toNat_natCast, zpow_natCast]
    exact (mantissaDenotes_whole c n marked).denotes
  · next hk =>
    have hpower : (10 : ℚ) ^ k = (10 ^ (-k).toNat)⁻¹ := by
      rw [← zpow_natCast, ← zpow_neg]
      congr 1
      omega
    rw [hpower, ← div_eq_mul_inv]
    exact (mantissaDenotes_places c (-k).toNat).denotes

/-- A coefficient with a point behind its first digit. -/
theorem mantissaDenotes_leading {d : Char} {rest : List Char}
    (hdigit : ∀ a ∈ d :: rest, a.isDigit = true) :
    MantissaDenotes ([d] ++ if rest.length + 1 ≤ 1 then [] else '.' :: rest)
      (ofDigits (d :: rest) / 10 ^ rest.length) := by
  cases rest with
  | nil => simpa using MantissaDenotes.whole ⟨List.cons_ne_nil d [], hdigit⟩
  | cons a rest =>
    have hfirst : ∀ b ∈ [d], b.isDigit = true :=
      List.forall_mem_singleton.mpr (hdigit d (List.mem_cons_self ..))
    have hrest : ∀ b ∈ a :: rest, b.isDigit = true :=
      fun b hb => hdigit b (List.mem_cons_of_mem _ hb)
    exact mantissaDenotes_point hfirst hrest (by simp)

/-- A power behind its mark. -/
theorem exponentDenotes_power (hmark : mark = ['e'] ∨ mark = ['e', '+']) (power : ℤ) :
    ExponentDenotes
      (if 0 ≤ power then mark ++ digits power.toNat else 'e' :: '-' :: digits (-power).toNat)
      power := by
  have hpresent : ∀ (sign : Option Char) (n : ℕ), (∀ c ∈ sign, IsSign c) →
      ExponentDenotes ('e' :: (sign.toList ++ digits n)) (Numeral.withSign sign n) := by
    intro sign n hsign
    have h := ExponentDenotes.present (.inl rfl) hsign (digits_digits n)
    rwa [ofDigits_digits] at h
  split
  · next hpos =>
    have hsame : (power.toNat : ℤ) = power := Int.toNat_of_nonneg hpos
    rcases hmark with rfl | rfl
    · have h := hpresent none power.toNat (by simp)
      rwa [Numeral.withSign, if_neg (by simp), hsame] at h
    · have h := hpresent (some '+') power.toNat (by simp [IsSign])
      rwa [Numeral.withSign, if_neg (by decide), hsame] at h
  · next hneg =>
    have hsame : -((-power).toNat : ℤ) = power := by omega
    have h := hpresent (some '-') (-power).toNat (by simp [IsSign])
    rwa [Numeral.withSign, if_pos rfl, hsame] at h

/-- **A numeral with an exponent denotes its decimal.** -/
theorem denotes_scientific (hmark : mark = ['e'] ∨ mark = ['e', '+']) (c : ℕ) (k : ℤ) :
    Denotes (scientific c k mark) (c * 10 ^ k) := by
  obtain ⟨d, rest, hdigits⟩ := List.exists_cons_of_ne_nil (digits_ne_nil c)
  have hdigit : ∀ a ∈ d :: rest, a.isDigit = true :=
    fun a ha => isDigit_of_mem_digits (n := c) (hdigits ▸ ha)
  have hcoefficient : ofDigits (d :: rest) = c := hdigits ▸ ofDigits_digits c
  have hmantissa := mantissaDenotes_leading hdigit
  rw [hcoefficient] at hmantissa
  refine ⟨_, _, _, k + rest.length, ?_, hmantissa, exponentDenotes_power hmark _, ?_⟩
  · simp only [scientific, hdigits, List.length_cons, Nat.add_sub_cancel, List.take_succ_cons,
      List.take_zero, List.drop_succ_cons, List.drop_zero]
  · rw [zpow_add₀ (by norm_num), zpow_natCast]
    field_simp

/-! ## Reading back what was written -/

/-- The text of a number denotes a decimal that rounds to it. -/
theorem Layout.write_denotes {l : Layout}
    (hmark : l.exponentMark = ['e'] ∨ l.exponentMark = ['e', '+']) (x : Double) :
    ∃ ds q, l.write x = (if x.isNegative then ['-'] else []) ++ ds ∧ Denotes ds q ∧
      Format.double.Nearest q x.rank := by
  rw [write]
  split
  · next h0 =>
    refine ⟨_, _, rfl, denotes_positional 0 0 _, ?_⟩
    rw [h0, Nat.cast_zero, zero_mul]
    exact .of_midpoints (by simp)
      ((Format.double.value_nonneg 0).trans (Format.double.value_lt_midpoint 0).le) fun _ => rfl
  · next h0 =>
    have hnear := nearest_shortest h0 l.tie
    generalize shortest l.tie x = d at hnear ⊢
    obtain ⟨c, k⟩ := d
    refine ⟨_, _, rfl, ?_, hnear⟩
    split
    · exact denotes_positional _ _ _
    · exact denotes_scientific hmark _ _

/-- A number is written with the characters of numerals. -/
theorem Layout.isPlain_of_mem_write {l : Layout}
    (hmark : l.exponentMark = ['e'] ∨ l.exponentMark = ['e', '+']) {x : Double} {c : Char}
    (h : c ∈ l.write x) : Numeral.isPlain c = true := by
  obtain ⟨ds, q, hwrite, hds, -⟩ := l.write_denotes hmark x
  rw [hwrite] at h
  rcases List.mem_append.mp h with h | h
  · split at h
    · rw [List.mem_singleton.mp h]
      rfl
    · exact absurd h List.not_mem_nil
  · exact hds.isDecimal.isPlain c h

/-- **A finite number that was written is read back as itself**, its sign included. -/
theorem Layout.plain?_write {l : Layout}
    (hmark : l.exponentMark = ['e'] ∨ l.exponentMark = ['e', '+']) {x : Double}
    (hx : x.isFinite = true) : Numeral.plain? (l.write x) = some x := by
  obtain ⟨ds, q, hwrite, hds, hq⟩ := l.write_denotes hmark x
  have hsplit : splitSign (l.write x) = (x.isNegative, ds) := by
    rw [hwrite]
    cases x.isNegative with
    | true => rfl
    | false => exact Numeral.splitSign_of_head hds.isDecimal.head_ne
  obtain ⟨r, hr, hread⟩ := Numeral.plain?_of_denotes hsplit hds
  have hfinite : x.rank < Format.double.infinity := by simpa [Double.isFinite] using hx
  rw [hread, hr.unique hq, Nat.min_eq_right hfinite.le, Double.ofRank_rank]

/-- Different finite numbers have different texts. -/
theorem Layout.write_inj {l : Layout}
    (hmark : l.exponentMark = ['e'] ∨ l.exponentMark = ['e', '+']) {x y : Double}
    (hx : x.isFinite = true) (hy : y.isFinite = true) : l.write x = l.write y ↔ x = y := by
  refine ⟨fun h => ?_, fun h => congrArg l.write h⟩
  have hread := Layout.plain?_write hmark hx
  rw [h, Layout.plain?_write hmark hy] at hread
  exact (Option.some.inj hread).symm

end Texts

end ForeignCall.Number
