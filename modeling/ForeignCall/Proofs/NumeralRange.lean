import ForeignCall.Proofs.Truncation

/-!
# The range of integers

An integer that is read is meant to be below `2 ^ 64` in front of its sign, so that it can be taken
for a signed or an unsigned number of 64 bits. A numeral with a fraction or an exponent is checked
for this after it has been rounded. The check looks for numbers that are too great and not for
numbers that are too small, and a minus in second place gets by it. Behind such a sign numerals of
any size are read, and cut off at the end of 128 bits.

This file says from which numbers on the integers are too great for 64 bits, and from which the
arithmetic leaves 128 bits. These bounds are not powers of two, but the numbers that are rounded to
them.

## Main definitions

* `Numeral.StepsFit` — the arithmetic of the reader stays within 128 bits

## Main results

* `Numeral.exists_of_magnitude?` — without a minus of its own a magnitude is of 64 bits
* `Numeral.TwoSigns.stepsFit_iff`, `TwoSigns.natAbs_lt_iff` — what happens with a minus in second
  place
* `Numeral.integer?_range` — when an integer is of 64 bits, and its reading within 128 bits
-/

namespace ForeignCall.Number.Numeral

variable {q : ℚ} {r : ℕ} {cs ds : List Char} {s : String}

/-- A number that is cut off into a range lies in it. -/
theorem toIntWithin_bounds {low high : ℤ} (hlow : low ≤ 0) (hhigh : 0 ≤ high) (x : Double) :
    low ≤ x.toIntWithin low high ∧ x.toIntWithin low high ≤ high := by
  rw [Double.toIntWithin]
  split
  · exact ⟨hlow, hhigh⟩
  · split
    · omega
    · split <;> omega

/-! ## A minus in second place -/

/-- All that becomes infinity is beyond 128 bits. -/
theorem lt_floor_of_infinity_le (h : Format.double.infinity ≤ r) :
    2 ^ 127 < ⌊Format.double.value r⌋₊ := by
  have hle : 2 ^ 128 ≤ ⌊Format.double.value r⌋₊ := by
    refine Nat.le_floor ?_
    calc ((2 ^ 128 : ℕ) : ℚ) = 2 ^ 128 := by norm_num
      _ ≤ 2 ^ 1024 := pow_le_pow_right₀ one_le_two (by decide)
      _ = Format.double.value Format.double.infinity := Format.value_infinity.symm
      _ ≤ Format.double.value r := Format.double.strictMono_value.monotone h
  omega

/-- **The magnitude of a numeral with a minus of its own.** It is below zero, whatever its size, and
is cut off at the end of 128 bits. -/
theorem magnitude?_minus (h : Denotes ds q) : ∃ r, Format.double.Nearest q r ∧
    plain? ('-' :: ds) = some (.ofRank true (min Format.double.infinity r)) ∧
    magnitude? ('-' :: ds) = some (-((min (2 ^ 127) ⌊Format.double.value r⌋₊ : ℕ) : ℤ)) := by
  have hsplit : splitSign ('-' :: ds) = (true, ds) := rfl
  obtain ⟨r, hr, hplain⟩ := plain?_of_denotes hsplit h
  have hcs : ∀ c ∈ '-' :: ds, isPlain c = true :=
    List.forall_mem_cons.mpr ⟨by decide, h.isDecimal.isPlain⟩
  refine ⟨r, hr, hplain, ?_⟩
  rw [magnitude?_of_plain hcs rfl hplain hr, if_neg (by simp), Double.toIntWithin_ofRank_min]
  congr 1
  split
  · rw [if_pos rfl, floor]
    omega
  · next hinfinite =>
    have hge := lt_floor_of_infinity_le (not_lt.mp hinfinite)
    rw [Nat.min_eq_left hge.le]
    rfl

/-! ## The steps of the reader -/

/-- An integer of 128 bits. -/
def IsInt128 (i : ℤ) : Prop := -2 ^ 127 ≤ i ∧ i < 2 ^ 127

/-- The arithmetic behind the reading of an integer stays within 128 bits: where the fraction of a
decimal numeral is cut off, and where the sign in front of it is applied. -/
structure StepsFit (cs : List Char) : Prop where
  cut : ∀ x, hexBody? (splitSign cs).2 = none → (splitSign cs).2.all Char.isDigit = false →
    plain? (splitSign cs).2 = some x → x.reachesTwoPow64 = false →
      x.isFinite = true ∧ IsInt128 x.truncate
  sign : ∀ m, (splitSign cs).1 = true → magnitude? (splitSign cs).2 = some m → IsInt128 (-m)

theorem floor_lt_twoPow_iff (hr : Format.double.Nearest q r) (e : ℕ) :
    ⌊Format.double.value r⌋₊ < 2 ^ e ↔ q < 2 ^ e - 2 ^ ((e : ℤ) - 54) := by
  rw [Nat.floor_lt (Format.double.value_nonneg r), Nat.cast_pow, Nat.cast_two,
    hr.value_lt_twoPow_iff]

theorem floor_le_twoPow_iff (hr : Format.double.Nearest q r) {e : ℕ} (he : 53 ≤ e) :
    ⌊Format.double.value r⌋₊ ≤ 2 ^ e ↔ q ≤ 2 ^ e + 2 ^ ((e : ℤ) - 53) := by
  rw [← hr.value_le_twoPow_iff]
  constructor
  · intro hfloor
    by_contra hvalue
    -- magnitudes of this size are integers, so nothing was cut off
    have hB : (2 * Format.double.binade : ℚ) ≤ Format.double.value r :=
      calc (2 * Format.double.binade : ℚ) = 2 ^ 53 := by rw [Format.binade_double]; norm_num
        _ ≤ 2 ^ e := pow_le_pow_right₀ one_le_two he
        _ ≤ Format.double.value r := (not_le.mp hvalue).le
    obtain ⟨n, hn⟩ := Format.exists_nat_eq_value hB
    rw [hn, Nat.floor_natCast] at hfloor
    exact hvalue (by rw [hn]; exact_mod_cast hfloor)
  · intro hvalue
    exact Nat.floor_le_of_le (by exact_mod_cast hvalue)

/-- A numeral with two signs, the second one a minus, is read within 128 bits unless it is too great
for them. -/
theorem TwoSigns.stepsFit_iff {a : Char} (h : TwoSigns cs a '-' ds) (hds : Denotes ds q) :
    StepsFit cs ↔ ¬ (2 ^ 127 + 2 ^ 74 < q ∨ a = '-' ∧ 2 ^ 127 - 2 ^ 73 ≤ q) := by
  obtain ⟨r, hr, hplain, hmagnitude⟩ := magnitude?_minus hds
  obtain ⟨hsplit, hbody, hall, -⟩ := h.split
  have hfst : (splitSign cs).1 = (a == '-') := by rw [hsplit]
  have hsnd : (splitSign cs).2 = '-' :: ds := by rw [hsplit]
  have hreach : (Double.ofRank true (min Format.double.infinity r)).reachesTwoPow64 = false :=
    reachesTwoPow64_of_minus hplain
  obtain ⟨n, hn⟩ : ∃ n, n = ⌊Format.double.value r⌋₊ := ⟨_, rfl⟩
  have hcut : n ≤ 2 ^ 127 ↔ q ≤ 2 ^ 127 + 2 ^ 74 := by
    rw [hn, floor_le_twoPow_iff hr (by decide)]
    norm_num
  have hsign : n < 2 ^ 127 ↔ q < 2 ^ 127 - 2 ^ 73 := by
    rw [hn, floor_lt_twoPow_iff hr]
    norm_num
  rw [not_or, not_and, not_lt, not_le, ← hcut, ← hsign]
  rw [← hn] at hmagnitude
  constructor
  · rintro ⟨hfit, hneg⟩
    rw [hsnd] at hfit hneg
    obtain ⟨hfinite, hlow, -⟩ := hfit _ hbody hall hplain hreach
    rw [Double.isFinite_ofRank_min, decide_eq_true_eq] at hfinite
    rw [Double.truncate_ofRank_min true hfinite, if_pos rfl, ← hn] at hlow
    refine ⟨by omega, fun ha => ?_⟩
    have hhigh := (hneg _ (by rw [hfst, ha]; rfl) hmagnitude).2
    omega
  · rintro ⟨hle, hlt⟩
    have hfinite : r < Format.double.infinity := by
      by_contra hinfinite
      have := lt_floor_of_infinity_le (not_lt.mp hinfinite)
      omega
    refine ⟨fun x _ _ hx _ => ?_, fun m ha hm => ?_⟩
    · rw [hsnd, hplain, Option.some.injEq] at hx
      rw [← hx, Double.isFinite_ofRank_min, Double.truncate_ofRank_min true hfinite, if_pos rfl,
        ← hn, IsInt128]
      exact ⟨decide_eq_true hfinite, by omega⟩
    · rw [hsnd, hmagnitude, Option.some.injEq] at hm
      rw [hfst, beq_iff_eq] at ha
      have := hlt ha
      rw [IsInt128]
      omega

theorem eq_cons_of_splitSign (h : splitSign cs = (true, ds)) : cs = '-' :: ds := by
  unfold splitSign at h
  split at h
  · rw [(Prod.mk.inj h).2]
  · exact absurd (Prod.mk.inj h).1 Bool.false_ne_true
  · exact absurd (Prod.mk.inj h).1 Bool.false_ne_true

/-- Without a minus of its own a decimal numeral that passes the range check is of 64 bits. -/
theorem cut_of_not_minus {x : Double} (hhead : ∀ cs, ds ≠ '-' :: cs) (hx : plain? ds = some x)
    (hreach : x.reachesTwoPow64 = false) : ∃ n < 2 ^ 64,
      x.isFinite = true ∧ x.truncate = (n : ℕ) ∧ x.toIntWithin floor (2 ^ 64) = n := by
  rcases hsplit : splitSign ds with ⟨_ | _, ds'⟩
  · obtain ⟨q, r, -, hr, rfl⟩ := exists_of_plain? hsplit hx
    have hq : q < 2 ^ 64 - 2 ^ 10 := by
      rw [← Bool.not_eq_true, Double.reachesTwoPow64_ofRank_min false hr] at hreach
      exact not_le.mp fun h => hreach ⟨rfl, h⟩
    obtain ⟨hfinite, hlt⟩ := lt_infinity_of_lt hr hq
    refine ⟨_, hlt, ?_, ?_, ?_⟩
    · rw [Double.isFinite_ofRank_min, decide_eq_true hfinite]
    · rw [Double.truncate_ofRank_min false hfinite, if_neg Bool.false_ne_true]
    · rw [Double.toIntWithin_ofRank_min, if_pos hfinite, if_neg Bool.false_ne_true, floor]
      omega
  · exact absurd (eq_cons_of_splitSign hsplit) (hhead ds')

theorem lt_of_word? {n k : ℕ} (h : word? n = some k) : k < 2 ^ 64 := by
  rw [word?, Option.ite_none_right_eq_some, Option.some.injEq] at h
  rw [← h.2]
  exact h.1

/-- Without a minus of its own a magnitude is of 64 bits. -/
theorem exists_of_magnitude? {i : ℤ} (hhead : ∀ cs, ds ≠ '-' :: cs) (h : magnitude? ds = some i) :
    ∃ n < 2 ^ 64, i = (n : ℕ) := by
  rw [magnitude?] at h
  split at h
  · next hex _ =>
    obtain ⟨n, hn, rfl⟩ := Option.map_eq_some_iff.mp h
    rw [hexadecimal?, Option.ite_none_left_eq_some] at hn
    obtain ⟨k, -, hword⟩ := Option.bind_eq_some_iff.mp hn.2
    exact ⟨n, lt_of_word? hword, rfl⟩
  · split at h
    · obtain ⟨n, hn, rfl⟩ := Option.map_eq_some_iff.mp h
      exact ⟨n, lt_of_word? hn, rfl⟩
    · obtain ⟨x, hx, hcut⟩ := Option.bind_eq_some_iff.mp h
      rw [Option.ite_none_left_eq_some, Bool.not_eq_true, Option.some.injEq] at hcut
      obtain ⟨n, hn, -, -, hwithin⟩ := cut_of_not_minus hhead hx hcut.1
      exact ⟨n, hn, hcut.2.symm.trans hwithin⟩

/-- A minus behind the first sign makes a numeral with two signs, if it is read. -/
theorem ne_minus_of_not_twoSigns {i : ℤ} (hnot : ∀ a ds, ¬ TwoSigns cs a '-' ds)
    (h : magnitude? (splitSign cs).2 = some i) : ∀ ds, (splitSign cs).2 ≠ '-' :: ds := by
  intro ds hds
  rw [hds] at h
  obtain ⟨sign, hcs, hsign, hnone⟩ := exists_of_splitSign (Prod.mk.eta (p := splitSign cs)).symm
  rw [hds] at hcs hnone
  have hplain : ∃ x, plain? ('-' :: ds) = some x := by
    rcases magnitude?_iff.mp ⟨i, h⟩ with ⟨hex, hbody, -⟩ | ⟨-, hall, -⟩ | ⟨-, -, x, hx, -⟩
    · obtain ⟨x, -, -, hcons⟩ := hexBody?_eq_some_iff.mp hbody
      exact absurd (List.cons.inj hcons).1 (by decide)
    · exact absurd hall (by simp)
    · exact ⟨x, hx⟩
  have hsplit : splitSign ('-' :: ds) = (true, ds) := rfl
  have hdecimal : IsDecimal ds := (plain?_iff hsplit).mp hplain
  cases sign with
  | none => exact hnone rfl '-' rfl (.inr rfl)
  | some a => exact hnot a ds ⟨hcs, hsign a rfl, .inr rfl, hdecimal⟩

theorem stepsFit_of_not_minus (hhead : ∀ ds, (splitSign cs).2 ≠ '-' :: ds) : StepsFit cs where
  cut x _ _ hx hreach := by
    obtain ⟨n, hn, hfinite, htruncate, -⟩ := cut_of_not_minus hhead hx hreach
    refine ⟨hfinite, ?_⟩
    rw [htruncate, IsInt128]
    omega
  sign m _ hm := by
    obtain ⟨n, hn, rfl⟩ := exists_of_magnitude? hhead hm
    rw [IsInt128]
    omega

/-- A magnitude is at most `2 ^ 64`, and cut off at the end of 128 bits. -/
theorem bounds_of_magnitude? {i : ℤ} (h : magnitude? ds = some i) : floor ≤ i ∧ i ≤ 2 ^ 64 := by
  by_cases hhead : ∀ cs, ds ≠ '-' :: cs
  · obtain ⟨n, hn, rfl⟩ := exists_of_magnitude? hhead h
    rw [floor]
    omega
  · obtain ⟨cs, rfl⟩ := not_forall_not.mp hhead
    have hbody : hexBody? ('-' :: cs) = none := rfl
    have hall : ('-' :: cs).all Char.isDigit = false := by
      rw [List.all_cons]
      rfl
    simp only [magnitude?, hbody, hall, Bool.false_eq_true, if_false] at h
    obtain ⟨x, -, hx⟩ := Option.bind_eq_some_iff.mp h
    rw [Option.ite_none_left_eq_some, Option.some.injEq] at hx
    rw [← hx.2]
    exact toIntWithin_bounds (by decide) (by decide) x

/-- A sign does not change how great a magnitude is. -/
theorem natAbs_applySign {i : ℤ} (hlow : floor ≤ i) (hhigh : i ≤ 2 ^ 64) (negative : Bool) :
    (applySign negative i).natAbs = i.natAbs := by
  rw [floor] at hlow
  cases negative with
  | false => rfl
  | true =>
    rw [applySign, if_pos rfl, Int.bmod]
    split <;> omega

/-- An integer has the magnitude of what stands behind its sign, if anything does. -/
theorem exists_magnitude_of_integer? {v : ℤ} (hcs : Blank.Trims cs s) (h : integer? s = some v) :
    cs = [] ∧ v = 0 ∨ ∃ m, magnitude? (splitSign cs).2 = some m ∧ v.natAbs = m.natAbs := by
  rw [integer?, integerOfChars?, ← Blank.trims_iff.mp hcs] at h
  split at h
  · exact .inl ⟨rfl, (Option.some.inj h).symm⟩
  · right
    rw [Option.ite_none_left_eq_some] at h
    obtain ⟨m, hm, hv⟩ := Option.map_eq_some_iff.mp h.2
    obtain ⟨hlow, hhigh⟩ := bounds_of_magnitude? hm
    exact ⟨m, hm, by rw [← hv, natAbs_applySign hlow hhigh]⟩

theorem natAbs_lt_of_not_twoSigns {v : ℤ} (hnot : ∀ a ds, ¬ TwoSigns cs a '-' ds)
    (hcs : Blank.Trims cs s) (h : integer? s = some v) : v.natAbs < 2 ^ 64 := by
  rcases exists_magnitude_of_integer? hcs h with ⟨-, rfl⟩ | ⟨m, hm, hv⟩
  · decide
  · obtain ⟨n, hn, rfl⟩ := exists_of_magnitude? (ne_minus_of_not_twoSigns hnot hm) hm
    rwa [hv, Int.natAbs_natCast]

/-- A numeral with two signs, the second one a minus, is read as an integer of 64 bits unless it is
too great for them. -/
theorem TwoSigns.natAbs_lt_iff {a : Char} {v : ℤ} (htwo : TwoSigns cs a '-' ds)
    (hds : Denotes ds q) (hcs : Blank.Trims cs s) (h : integer? s = some v) :
    v.natAbs ≤ 2 ^ 127 ∧ (v.natAbs < 2 ^ 64 ↔ ¬ 2 ^ 64 - 2 ^ 10 ≤ q) := by
  obtain ⟨r, hr, -, hmagnitude⟩ := magnitude?_minus hds
  have hfloor : ⌊Format.double.value r⌋₊ < 2 ^ 64 ↔ ¬ 2 ^ 64 - 2 ^ 10 ≤ q := by
    rw [floor_lt_twoPow_iff hr, not_le]
    norm_num
  rw [← hfloor]
  rcases exists_magnitude_of_integer? hcs h with ⟨hnil, -⟩ | ⟨m, hm, hv⟩
  · rw [htwo.eq] at hnil
    exact absurd hnil (by simp)
  · rw [htwo.split.1, hmagnitude, Option.some.injEq] at hm
    omega

/-- What holds of all texts but some of those with a minus in second place. -/
theorem iff_not_exists_twoSigns {P : Prop} {Q : Char → ℚ → Prop}
    (hnone : (∀ a ds, ¬ TwoSigns cs a '-' ds) → P)
    (hsome : ∀ a ds q, TwoSigns cs a '-' ds → Denotes ds q → (P ↔ ¬ Q a q)) :
    P ↔ ¬ ∃ a ds q, TwoSigns cs a '-' ds ∧ Denotes ds q ∧ Q a q := by
  by_cases htwo : ∃ a ds, TwoSigns cs a '-' ds
  · obtain ⟨a, ds, htwo⟩ := htwo
    obtain ⟨q, hq⟩ := htwo.decimal.exists_denotes
    constructor
    · rintro hP ⟨a', ds', q', htwo', hq', hQ⟩
      exact (hsome a' ds' q' htwo' hq').mp hP hQ
    · exact fun hno => (hsome a ds q htwo hq).mpr fun hQ => hno ⟨a, ds, q, htwo, hq, hQ⟩
  · have hnot : ∀ a ds, ¬ TwoSigns cs a '-' ds := fun a ds h => htwo ⟨a, ds, h⟩
    exact iff_of_true (hnone hnot) fun ⟨a, ds, _, h, _⟩ => hnot a ds h

/-- **The range of the integers that are read.** Only a numeral with two signs, the second one a
minus, is read as an integer that is too great for 64 bits, and only there the arithmetic leaves 128
bits. The numbers from which on this happens are those that are rounded to the bounds. -/
theorem integer?_range {v : ℤ} (h : integer? s = some v) : ∃ cs, Blank.Trims cs s ∧
    v.natAbs ≤ 2 ^ 127 ∧
    (v.natAbs < 2 ^ 64 ↔
      ¬ ∃ a ds q, TwoSigns cs a '-' ds ∧ Denotes ds q ∧ 2 ^ 64 - 2 ^ 10 ≤ q) ∧
    (StepsFit cs ↔ ¬ ∃ a ds q, TwoSigns cs a '-' ds ∧ Denotes ds q ∧
      (2 ^ 127 + 2 ^ 74 < q ∨ a = '-' ∧ 2 ^ 127 - 2 ^ 73 ≤ q)) := by
  obtain ⟨cs, hcs⟩ : ∃ cs, Blank.Trims cs s := ⟨_, Blank.trims_iff.mpr rfl⟩
  refine ⟨cs, hcs, ?_, iff_not_exists_twoSigns (fun hnot => natAbs_lt_of_not_twoSigns hnot hcs h)
      fun a ds q htwo hq => (htwo.natAbs_lt_iff hq hcs h).2,
    iff_not_exists_twoSigns (fun hnot => ?_) fun a ds q htwo hq => htwo.stepsFit_iff hq⟩
  · by_cases htwo : ∃ a ds, TwoSigns cs a '-' ds
    · obtain ⟨a, ds, htwo⟩ := htwo
      obtain ⟨q, hq⟩ := htwo.decimal.exists_denotes
      exact (htwo.natAbs_lt_iff hq hcs h).1
    · have := natAbs_lt_of_not_twoSigns (fun a ds h => htwo ⟨a, ds, h⟩) hcs h
      omega
  · rcases exists_magnitude_of_integer? hcs h with ⟨rfl, -⟩ | ⟨m, hm, -⟩
    · exact stepsFit_of_not_minus (by simp)
    · exact stepsFit_of_not_minus (ne_minus_of_not_twoSigns hnot hm)

/-- The range of `--1e20`, which is beyond 64 bits. -/
theorem integer?_range_minus_minus : integer? "--1e20" = some 100000000000000000000 ∧
    ∃ cs, Blank.Trims cs "--1e20" ∧ (100000000000000000000 : ℤ).natAbs ≤ 2 ^ 127 ∧
    ((100000000000000000000 : ℤ).natAbs < 2 ^ 64 ↔
      ¬ ∃ a ds q, TwoSigns cs a '-' ds ∧ Denotes ds q ∧ 2 ^ 64 - 2 ^ 10 ≤ q) ∧
    (StepsFit cs ↔ ¬ ∃ a ds q, TwoSigns cs a '-' ds ∧ Denotes ds q ∧
      (2 ^ 127 + 2 ^ 74 < q ∨ a = '-' ∧ 2 ^ 127 - 2 ^ 73 ≤ q)) := by
  have hread : integer? "--1e20" = some 100000000000000000000 := by decide +kernel
  exact ⟨hread, integer?_range hread⟩

/-- **Integers beyond 64 bits are read**, as from `--1e20`, and the sign of `--1e39` leads out of
128 bits, so that it is lost. -/
theorem not_forall_range :
    (¬ ∀ (s : String) (v : ℤ), integer? s = some v → v.natAbs < 2 ^ 64) ∧
    ¬ ∀ (s : String) (v : ℤ) (cs : List Char), integer? s = some v → Blank.Trims cs s →
      StepsFit cs := by
  constructor
  · intro h
    have hread : integer? "--1e20" = some 100000000000000000000 := by decide +kernel
    exact absurd (h _ _ hread) (by decide)
  · intro h
    have hread : integer? "--1e39" = some (-2 ^ 127) := by decide +kernel
    have htrims : Blank.Trims ['-', '-', '1', 'e', '3', '9'] "--1e39" := Blank.trims_iff.mpr rfl
    have hmagnitude : magnitude? ['-', '1', 'e', '3', '9'] = some (-2 ^ 127) := by decide +kernel
    exact absurd ((h _ _ _ hread htrims).sign _ rfl hmagnitude).2 (by decide)

end ForeignCall.Number.Numeral
