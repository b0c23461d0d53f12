import ForeignCall.Proofs.Nearest
import ForeignCall.Proofs.NumeralGrammar

/-!
# Numerals cut off to integers

A numeral with a fraction or an exponent can be read as an integer. The number that was written is
rounded to double precision first, and the fraction is cut off from what comes out. So the integer
is the integer part of the number as it was written only if rounding kept this part, and where the
range ends, it ends for rounded numbers.

## Main definitions

* `Numeral.Denotes` — the number that a decimal numeral denotes

## Main results

* `Numeral.plain?_of_denotes` — decimal numerals are rounded to the nearest number
* `Numeral.integer?_truncates_iff` — when the integer part of the written number is read
-/

namespace ForeignCall.Number

variable {q : ℚ} {r : ℕ} {negative : Bool}

/-! ## Rounded numbers -/

namespace Double

variable (negative r)

theorem min_infinity_lt : min Format.double.infinity r < signWeight :=
  lt_of_le_of_lt (Nat.min_le_left _ _) (by decide)

theorem isNaN_ofRank_min : (ofRank negative (min Format.double.infinity r)).isNaN = false := by
  rw [isNaN, rank_ofRank (min_infinity_lt r), decide_eq_false_iff_not, not_lt]
  exact Nat.min_le_left _ _

theorem isFinite_ofRank_min : (ofRank negative (min Format.double.infinity r)).isFinite =
    decide (r < Format.double.infinity) := by
  rw [isFinite, rank_ofRank (min_infinity_lt r)]
  simp

variable {r}

theorem truncate_ofRank_min (h : r < Format.double.infinity) :
    (ofRank negative (min Format.double.infinity r)).truncate =
      if negative then -(⌊Format.double.value r⌋₊ : ℤ) else ⌊Format.double.value r⌋₊ := by
  rw [truncate, wholePart_eq_floor, Numeral.isNegative_ofRank (min_infinity_lt r),
    rank_ofRank (min_infinity_lt r), Nat.min_eq_right h.le]

theorem toIntWithin_ofRank_min (low high : ℤ) :
    (ofRank negative (min Format.double.infinity r)).toIntWithin low high =
      if r < Format.double.infinity then
        max low (min high
          (if negative then -(⌊Format.double.value r⌋₊ : ℤ) else ⌊Format.double.value r⌋₊))
      else if negative then low else high := by
  rw [toIntWithin, isNaN_ofRank_min, isFinite_ofRank_min,
    Numeral.isNegative_ofRank (min_infinity_lt r)]
  by_cases h : r < Format.double.infinity
  · simp [h, truncate_ofRank_min]
  · simp [h]

/-- The range check, on numbers that have been rounded. -/
theorem reachesTwoPow64_ofRank_min (h : Format.double.Nearest q r) :
    (ofRank negative (min Format.double.infinity r)).reachesTwoPow64 = true ↔
      negative = false ∧ 2 ^ 64 - 2 ^ 10 ≤ q := by
  have hbound : Format.double.rankOfRatio 0x10000000000000000 1 =
      Format.double.binade + (64 + 1022) * Format.double.binade := by decide +kernel
  have hinfinity : Format.double.binade + (64 + 1022) * Format.double.binade ≤
      Format.double.infinity := by decide
  have hreach : Format.double.binade + (64 + 1022) * Format.double.binade ≤ r ↔
      2 ^ 64 - 2 ^ 10 ≤ q := by
    rw [← Format.double.strictMono_value.le_iff_le, Format.value_twoPow, ← not_lt,
      h.value_lt_twoPow_iff, not_lt]
    norm_num
  rw [reachesTwoPow64, isNaN_ofRank_min, Numeral.isNegative_ofRank (min_infinity_lt r),
    rank_ofRank (min_infinity_lt r), hbound]
  simp [hreach, hinfinity]

end Double

namespace Numeral

variable {cs ds m e : List Char} {s : String} {x : ℚ} {k : ℤ}

/-! ## The number that is written -/

/-- What a sign makes of a number. -/
def withSign (sign : Option Char) (n : ℤ) : ℤ := if sign = some '-' then -n else n

/-- The number that a mantissa denotes. -/
inductive MantissaDenotes : List Char → ℚ → Prop where
  | whole {ds : List Char} (digits : Digits ds) : MantissaDenotes ds (ofDigits ds)
  | point {ds fs : List Char} (before : ∀ c ∈ ds, c.isDigit = true)
      (behind : ∀ c ∈ fs, c.isDigit = true) (nonempty : ds ++ fs ≠ []) :
      MantissaDenotes (ds ++ '.' :: fs) (ofDigits ds + ofDigits fs / 10 ^ fs.length)

/-- The power of ten that an exponent denotes. -/
inductive ExponentDenotes : List Char → ℤ → Prop where
  | absent : ExponentDenotes [] 0
  | present {e : Char} {sign : Option Char} {ds : List Char} (mark : e = 'e' ∨ e = 'E')
      (isSign : ∀ c ∈ sign, IsSign c) (digits : Digits ds) :
      ExponentDenotes (e :: (sign.toList ++ ds)) (withSign sign (ofDigits ds))

/-- The number that a decimal numeral denotes. -/
def Denotes (cs : List Char) (q : ℚ) : Prop :=
  ∃ m e x k, cs = m ++ e ∧ MantissaDenotes m x ∧ ExponentDenotes e k ∧ q = x * 10 ^ k

theorem MantissaDenotes.mantissa (h : MantissaDenotes m x) : Mantissa m := by
  cases h with
  | whole hds => exact .whole hds
  | point hds hfs hne => exact .point hds hfs hne

theorem ExponentDenotes.exponent (h : ExponentDenotes e k) : Exponent e := by
  cases h with
  | absent => exact .absent
  | present he hsign hds => exact .present he hsign hds

theorem Denotes.isDecimal (h : Denotes ds q) : IsDecimal ds := by
  obtain ⟨m, e, x, k, rfl, hm, he, -⟩ := h
  exact ⟨m, e, rfl, hm.mantissa, he.exponent⟩

/-- Every decimal numeral denotes a number. -/
theorem IsDecimal.exists_denotes (h : IsDecimal ds) : ∃ q, Denotes ds q := by
  obtain ⟨m, e, rfl, hm, he⟩ := h
  obtain ⟨x, hx⟩ : ∃ x, MantissaDenotes m x := by
    cases hm with
    | whole hds => exact ⟨_, .whole hds⟩
    | point hds hfs hne => exact ⟨_, .point hds hfs hne⟩
  obtain ⟨k, hk⟩ : ∃ k, ExponentDenotes e k := by
    cases he with
    | absent => exact ⟨_, .absent⟩
    | present he hsign hds => exact ⟨_, .present he hsign hds⟩
  exact ⟨_, m, e, x, k, rfl, hx, hk, rfl⟩

theorem Denotes.nonneg (h : Denotes ds q) : 0 ≤ q := by
  obtain ⟨m, e, x, k, rfl, hm, -, rfl⟩ := h
  have hx : 0 ≤ x := by cases hm <;> positivity
  positivity

/-! ## Reading a numeral -/

theorem ofDigits_concat (cs : List Char) (c : Char) :
    ofDigits (cs ++ [c]) = ofDigits cs * 10 + digitValue c := by
  simp [ofDigits]

theorem ofDigits_append (ds fs : List Char) :
    ofDigits (ds ++ fs) = ofDigits ds * 10 ^ fs.length + ofDigits fs := by
  induction fs using List.reverseRecOn with
  | nil => simp [ofDigits]
  | append_singleton fs c ih =>
    rw [← List.append_assoc, ofDigits_concat, ofDigits_concat, ih, List.length_append,
      List.length_singleton]
    ring

/-- A mantissa is split into digits that denote its number, without the point. -/
theorem MantissaDenotes.split (hm : MantissaDenotes m x) (he : Exponent e) :
    ∃ whole fraction, Decimal.splitMantissa (m ++ e) = (whole, fraction, e) ∧
      ¬ (whole = [] ∧ fraction = []) ∧
      x = ofDigits (whole ++ fraction) / 10 ^ fraction.length := by
  cases hm with
  | whole hds =>
    exact ⟨m, [], splitMantissa_whole hds he, fun h => hds.1 h.1, by simp⟩
  | @point ds fs hds hfs hne =>
    refine ⟨ds, fs, splitMantissa_point hds hfs he, fun h => hne (by rw [h.1, h.2]; rfl), ?_⟩
    have hten : (10 : ℚ) ^ fs.length ≠ 0 := by positivity
    rw [ofDigits_append, eq_div_iff hten]
    push_cast
    rw [add_mul, div_mul_cancel₀ _ hten]

theorem ExponentDenotes.read (h : ExponentDenotes e k) : Decimal.readExponent? e = some k := by
  cases h with
  | absent => rfl
  | present he hsign hds =>
    rw [readExponent?_present he hsign hds, withSign]
    simp

/-- **A decimal numeral is read exactly**, before it is rounded. -/
theorem read?_of_denotes (hsplit : splitSign cs = (negative, ds)) (h : Denotes ds q) :
    ∃ d, Decimal.read? cs = some d ∧ d.negative = negative ∧
      (d.coefficient * 10 ^ d.exponent : ℚ) = q := by
  obtain ⟨m, e, x, k, rfl, hm, he, rfl⟩ := h
  obtain ⟨whole, fraction, hmantissa, hne, rfl⟩ := hm.split he.exponent
  have hten : (10 : ℚ) ≠ 0 := by norm_num
  refine ⟨⟨negative, ofDigits (whole ++ fraction), k - fraction.length⟩, ?_, rfl, ?_⟩
  · simp only [Decimal.read?, hsplit, hmantissa]
    rw [if_neg hne, he.read]
    rfl
  · simp only
    rw [zpow_sub₀ hten, zpow_natCast]
    ring

/-- **A decimal numeral is rounded to the nearest number**, with a sign of its own. -/
theorem plain?_of_denotes (hsplit : splitSign cs = (negative, ds)) (h : Denotes ds q) :
    ∃ r, Format.double.Nearest q r ∧
      plain? cs = some (.ofRank negative (min Format.double.infinity r)) := by
  obtain ⟨d, hd, rfl, rfl⟩ := read?_of_denotes hsplit h
  obtain ⟨r, hr, hdouble⟩ := d.nearest_toDouble
  obtain ⟨x, hx⟩ := (plain?_iff hsplit).mpr h.isDecimal
  refine ⟨r, hr, ?_⟩
  rw [plain?] at hx ⊢
  split at hx
  · next hplain => rw [if_pos hplain, hd, Option.map_some, hdouble]
  · exact absurd hx (by simp)

/-- What is read as a decimal numeral is a rounded number. -/
theorem exists_of_plain? {x : Double} (hsplit : splitSign cs = (negative, ds))
    (h : plain? cs = some x) : ∃ q r, Denotes ds q ∧ Format.double.Nearest q r ∧
      x = .ofRank negative (min Format.double.infinity r) := by
  obtain ⟨q, hq⟩ := ((plain?_iff hsplit).mp ⟨x, h⟩).exists_denotes
  obtain ⟨r, hr, hplain⟩ := plain?_of_denotes hsplit hq
  exact ⟨q, r, hq, hr, Option.some.inj (h.symm.trans hplain)⟩

/-! ## Cutting off the fraction -/

theorem value_lt_infinity (h : Format.double.value r < 2 ^ 1024) : r < Format.double.infinity := by
  rwa [← Format.value_infinity, Format.double.strictMono_value.lt_iff_lt] at h

/-- Below the bound of the reader a number without its fraction is of 64 bits. -/
theorem lt_infinity_of_lt (hr : Format.double.Nearest q r) (hq : q < 2 ^ 64 - 2 ^ 10) :
    r < Format.double.infinity ∧ ⌊Format.double.value r⌋₊ < 2 ^ 64 := by
  have hvalue : Format.double.value r < 2 ^ 64 :=
    (hr.value_lt_twoPow_iff 64).mpr (lt_of_lt_of_eq hq (by norm_num))
  refine ⟨value_lt_infinity (hvalue.trans (pow_lt_pow_right₀ one_lt_two (by decide))), ?_⟩
  exact (Nat.floor_lt (Format.double.value_nonneg r)).mpr (by exact_mod_cast hvalue)

/-- What is no row of digits is read as a decimal numeral. -/
theorem magnitude?_of_plain (hcs : ∀ c ∈ cs, isPlain c = true) (hall : cs.all Char.isDigit = false)
    (hplain : plain? cs = some (.ofRank negative (min Format.double.infinity r)))
    (hr : Format.double.Nearest q r) : magnitude? cs =
      if negative = false ∧ 2 ^ 64 - 2 ^ 10 ≤ q then none
      else some
        ((Double.ofRank negative (min Format.double.infinity r)).toIntWithin floor (2 ^ 64)) := by
  simp only [magnitude?, hexBody?_of_isPlain hcs, hall, Bool.false_eq_true, if_false, hplain,
    Option.bind_some, Double.reachesTwoPow64_ofRank_min negative hr]
  rfl

/-- **The magnitude of a numeral with a fraction or an exponent.** -/
theorem magnitude?_of_denotes (h : Denotes ds q) (hdigits : ¬ Digits ds) :
    ∃ r, Format.double.Nearest q r ∧ magnitude? ds =
      if q < 2 ^ 64 - 2 ^ 10 then some (⌊Format.double.value r⌋₊ : ℤ) else none := by
  obtain ⟨r, hr, hplain⟩ := plain?_of_denotes (splitSign_of_head h.isDecimal.head_ne) h
  have hall : ds.all Char.isDigit = false := by
    rw [Bool.eq_false_iff]
    obtain ⟨c, rest, rfl, -⟩ := h.isDecimal.head
    exact fun hall => hdigits ⟨by simp, List.all_eq_true.mp hall⟩
  refine ⟨r, hr, ?_⟩
  rw [magnitude?_of_plain h.isDecimal.isPlain hall hplain hr]
  by_cases hq : q < 2 ^ 64 - 2 ^ 10
  · obtain ⟨hfinite, hfloor⟩ := lt_infinity_of_lt hr hq
    rw [if_neg fun h => absurd hq (not_lt.mpr h.2), if_pos hq, Double.toIntWithin_ofRank_min,
      if_pos hfinite, if_neg Bool.false_ne_true, floor]
    congr 1
    omega
  · rw [if_pos ⟨rfl, not_lt.mp hq⟩, if_neg hq]

/-! ## Integers -/

theorem withSign_injective (sign : Option Char) : Function.Injective (withSign sign) := by
  intro a b h
  rw [withSign, withSign] at h
  split at h <;> omega

@[simp] theorem natAbs_withSign (sign : Option Char) (n : ℤ) :
    (withSign sign n).natAbs = n.natAbs := by
  rw [withSign]
  split <;> omega

theorem integer?_eq_map {sign : Option Char} (htrims : Blank.Trims (sign.toList ++ ds) s)
    (hsign : ∀ c ∈ sign, IsSign c) (hhead : ∀ c ∈ ds.head?, ¬ IsSign c) (hne : ds ≠ []) :
    integer? s = (magnitude? ds).map (applySign (sign == some '-')) := by
  have hcs := Blank.trims_iff.mp htrims
  obtain ⟨c, rest, hcons⟩ := List.exists_cons_of_ne_nil (List.append_ne_nil_of_right_ne_nil
    sign.toList hne)
  have hsplit := splitSign_append hsign hhead
  rw [hcons] at hsplit hcs
  rw [integer?, integerOfChars?, ← hcs]
  simp only [hsplit, if_neg hne]

/-- **A numeral with a fraction or an exponent** is read as the integer part of the number that it
is rounded to. -/
theorem integer?_of_denotes {sign : Option Char} (htrims : Blank.Trims (sign.toList ++ ds) s)
    (hsign : ∀ c ∈ sign, IsSign c) (hds : Denotes ds q) (hdigits : ¬ Digits ds) :
    ∃ r, Format.double.Nearest q r ∧ integer? s =
      if q < 2 ^ 64 - 2 ^ 10 then some (withSign sign ⌊Format.double.value r⌋₊) else none := by
  obtain ⟨c, rest, hcons, -⟩ := hds.isDecimal.head
  have hread := integer?_eq_map htrims hsign hds.isDecimal.head_ne (by rw [hcons]; simp)
  obtain ⟨r, hr, hmagnitude⟩ := magnitude?_of_denotes hds hdigits
  refine ⟨r, hr, ?_⟩
  rw [hread, hmagnitude]
  split
  · next hq =>
    rw [Option.map_some, applySign_natCast (lt_infinity_of_lt hr hq).2]
    simp only [withSign, beq_iff_eq]
  · rfl

theorem integer?_of_digits {sign : Option Char} (htrims : Blank.Trims (sign.toList ++ ds) s)
    (hsign : ∀ c ∈ sign, IsSign c) (hds : Digits ds) {v : ℤ} (h : integer? s = some v) :
    v = withSign sign (ofDigits ds) := by
  have hplain : IsDecimal ds := ⟨ds, [], by simp, .whole hds, .absent⟩
  rw [integer?_eq_map htrims hsign hplain.head_ne hds.1, magnitude?,
    hexBody?_of_isPlain hplain.isPlain] at h
  simp only [List.all_eq_true.mpr hds.2, if_true, decimal?, word?] at h
  split at h
  · next hlt =>
    rw [Option.map_some, Option.map_some, Int.ofNat_eq_natCast, applySign_natCast hlt] at h
    rw [← Option.some.inj h, withSign]
    simp only [beq_iff_eq]
  · exact absurd h (by simp)

theorem not_digits_point {fs : List Char} : ¬ Digits (ds ++ '.' :: fs) :=
  fun h => absurd (h.2 '.' (by simp)) (by decide)

theorem Digits.denotes_point_zero (h : Digits ds) : Denotes (ds ++ ['.', '0']) (ofDigits ds) := by
  have hzero : ∀ c ∈ ['0'], c.isDigit = true := List.forall_mem_singleton.mpr rfl
  refine ⟨ds ++ ['.', '0'], [], _, 0, by simp, .point h.2 hzero (by simp), .absent, ?_⟩
  simp [ofDigits, digitValue]

/-- **A point and a zero behind an integer** change it, unless double precision has room for it. -/
theorem integer?_point_zero_iff {sign : Option Char} {s' : String}
    (htrims : Blank.Trims (sign.toList ++ ds) s)
    (htrims' : Blank.Trims (sign.toList ++ (ds ++ ['.', '0'])) s') (hsign : ∀ c ∈ sign, IsSign c)
    (hds : Digits ds) {v v' : ℤ} (h : integer? s = some v) (h' : integer? s' = some v') :
    v' = v ↔ Format.double.Holds v.natAbs := by
  have hpoint := hds.denotes_point_zero
  obtain ⟨r, hr, hread⟩ := integer?_of_denotes htrims' hsign hpoint not_digits_point
  obtain rfl := integer?_of_digits htrims hsign hds h
  have hfloor := hr.floor_eq_iff (by decide) hpoint.nonneg
  rw [h'] at hread
  split at hread
  · rw [Nat.floor_natCast] at hfloor
    rw [Option.some.inj hread, (withSign_injective sign).eq_iff, Nat.cast_inj, hfloor,
      natAbs_withSign, Int.natAbs_natCast, and_iff_left_of_imp]
    intro hholds
    rw [hr.value_eq (by decide) rfl hholds]
    exact (lt_add_one _).ne
  · exact absurd hread (by simp)

/-- **When a numeral is read as its integer part.** -/
theorem integer?_truncates_iff {sign : Option Char}
    (htrims : Blank.Trims (sign.toList ++ ds) s) (hsign : ∀ c ∈ sign, IsSign c)
    (hds : Denotes ds q) :
    (¬ Digits ds → ∃ r, Format.double.Nearest q r ∧
      integer? s = (if q < 2 ^ 64 - 2 ^ 10 then some (withSign sign ⌊Format.double.value r⌋₊)
        else none) ∧
      ∀ v, integer? s = some v → (v = withSign sign ⌊q⌋₊ ↔
        Format.double.Holds ⌊q⌋₊ ∧ Format.double.value r ≠ ⌊q⌋₊ + 1)) ∧
    (Digits ds → ∀ s' v v', Blank.Trims (sign.toList ++ (ds ++ ['.', '0'])) s' →
      integer? s = some v → integer? s' = some v' → (v' = v ↔ Format.double.Holds v.natAbs)) := by
  refine ⟨fun hdigits => ?_, fun hdigits s' v v' htrims' h h' =>
    integer?_point_zero_iff htrims htrims' hsign hdigits h h'⟩
  obtain ⟨r, hr, hread⟩ := integer?_of_denotes htrims hsign hds hdigits
  refine ⟨r, hr, hread, fun v hv => ?_⟩
  rw [hread] at hv
  split at hv
  · rw [← Option.some.inj hv, (withSign_injective sign).eq_iff, Nat.cast_inj]
    exact hr.floor_eq_iff (by decide) hds.nonneg
  · exact absurd hv (by simp)

theorem digits_odd : Digits "9007199254740993".toList := ⟨by decide, List.all_eq_true.mp rfl⟩

/-- The text `9007199254740993.0` denotes an integer that double precision has no room for. -/
theorem denotes_odd : Denotes ("9007199254740993".toList ++ ['.', '0']) 9007199254740993 := by
  have hvalue : ofDigits "9007199254740993".toList = 9007199254740993 := by decide +kernel
  have hdenotes := digits_odd.denotes_point_zero
  rwa [hvalue] at hdenotes

/-- What is read from `9007199254740993.0`. -/
theorem integer?_truncates_iff_point_zero :
    Denotes ("9007199254740993".toList ++ ['.', '0']) 9007199254740993 ∧
    ∃ r, Format.double.Nearest 9007199254740993 r ∧
      integer? "9007199254740993.0" =
        (if (9007199254740993 : ℚ) < 2 ^ 64 - 2 ^ 10 then
          some (withSign none ⌊Format.double.value r⌋₊) else none) ∧
      ∀ v, integer? "9007199254740993.0" = some v → (v = withSign none ⌊(9007199254740993 : ℚ)⌋₊ ↔
        Format.double.Holds ⌊(9007199254740993 : ℚ)⌋₊ ∧
          Format.double.value r ≠ ⌊(9007199254740993 : ℚ)⌋₊ + 1) := by
  have htrims : Blank.Trims (Option.toList none ++ ("9007199254740993".toList ++ ['.', '0']))
    "9007199254740993.0" := Blank.trims_iff.mpr (by decide)
  exact ⟨denotes_odd, (integer?_truncates_iff htrims (by simp) denotes_odd).1 not_digits_point⟩

/-- **The integer part is not kept.** What is read from `9007199254740993.0` is even. -/
theorem not_forall_truncates :
    ¬ ∀ (s : String) (sign : Option Char) (ds : List Char) (q : ℚ) (v : ℤ),
      Blank.Trims (sign.toList ++ ds) s → (∀ c ∈ sign, IsSign c) → Denotes ds q → ¬ Digits ds →
      integer? s = some v → v = withSign sign ⌊q⌋₊ := by
  intro h
  have hread : integer? "9007199254740993.0" = some 9007199254740992 := by decide +kernel
  have htrims : Blank.Trims (Option.toList none ++ ("9007199254740993".toList ++ ['.', '0']))
    "9007199254740993.0" := Blank.trims_iff.mpr (by decide)
  have hv := h _ none _ _ _ htrims (by simp) denotes_odd not_digits_point hread
  rw [Nat.floor_ofNat] at hv
  exact absurd hv (by decide)

end Numeral

end ForeignCall.Number
