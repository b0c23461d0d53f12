import ForeignCall.Proofs.Addresses
import ForeignCall.Proofs.NumeralRange

/-!
# The null address

The null address names no function, and a function operand that is zero is refused. The test comes
before the integer is reduced modulo `2 ^ 64`. That makes no difference for integers of 64 bits, as
all are meant to be. But a minus in second place gets by the range check of the reader, and behind
it a numeral can be a multiple of `2 ^ 64`: it is not zero when it is tested, and null when it is
reduced.

So the reference is accepted, and it is the loader that refuses it, with a text of its own. The
numerals for which this happens are those that are rounded to a multiple of `2 ^ 64`. Far above
`2 ^ 64` this holds of all of them, because there the unit in the last place is such a multiple.

## Main definitions

* `Reference.WrapsToNull` — the operands that are read as a positive multiple of `2 ^ 64`

## Main results

* `Format.exists_mul_twoPow_of_le` — the magnitudes from `2 ^ 116` on are multiples of `2 ^ 64`
* `Reference.resolve_eq_invalid_iff` — a loader refuses the null address, and it alone
* `Reference.accepts_null_iff` — when the null address is accepted, and refused by the loader
-/

namespace ForeignCall

namespace Number

/-! ## Multiples of `2 ^ 64` -/

namespace Format

variable {r : ℕ}

/-- From `2 ^ 116` on the unit in the last place is a multiple of `2 ^ 64`. -/
theorem exists_mul_twoPow_of_le (h : 2 ^ 116 ≤ double.value r) :
    ∃ k : ℕ, double.value r = (k * 2 ^ 64 : ℕ) := by
  have hexponent : (64 : ℤ) ≤ double.exponent r := by
    by_contra hlt
    have hsig : (double.significand r : ℚ) < 2 ^ 53 := by
      have hlt : double.significand r < 2 ^ 53 := double.significand_lt r
      exact_mod_cast hlt
    have hunit : (2 : ℚ) ^ double.exponent r ≤ 2 ^ (63 : ℤ) :=
      zpow_le_zpow_right₀ one_le_two (by omega)
    have hvalue : double.value r < 2 ^ 116 :=
      calc double.value r = double.significand r * 2 ^ double.exponent r := rfl
        _ ≤ double.significand r * 2 ^ (63 : ℤ) := by gcongr
        _ < 2 ^ 53 * 2 ^ (63 : ℤ) := by gcongr
        _ = 2 ^ 116 := by norm_num
    exact absurd h (not_le.mpr hvalue)
  obtain ⟨k, hk⟩ := Int.le.dest hexponent
  refine ⟨double.significand r * 2 ^ k, ?_⟩
  rw [double.value_of_exponent_eq (k := 64 + k) (by rw [← hk]; push_cast; rfl), Nat.cast_inj]
  ring

/-- From `2 ^ 64` on a magnitude has no fraction, so it is a multiple of `2 ^ 64` if its whole part
is. -/
theorem exists_mul_twoPow_of_dvd_floor (hlarge : 2 ^ 64 ≤ ⌊double.value r⌋₊)
    (hdvd : 2 ^ 64 ∣ ⌊double.value r⌋₊) : ∃ k : ℕ, double.value r = (k * 2 ^ 64 : ℕ) := by
  have hB : (2 * double.binade : ℚ) ≤ double.value r := by
    have hfloor : ((2 ^ 64 : ℕ) : ℚ) ≤ double.value r :=
      (Nat.le_floor_iff (double.value_nonneg r)).mp hlarge
    refine le_trans ?_ hfloor
    rw [binade_double]
    norm_num
  obtain ⟨n, hn⟩ := exists_nat_eq_value hB
  obtain ⟨k, hk⟩ := hdvd
  rw [hn, Nat.floor_natCast] at hk
  exact ⟨k, by rw [hn, hk, Nat.mul_comm]⟩

/-- What is cut off at the end of 128 bits is a multiple of `2 ^ 64` exactly if it was one. -/
theorem dvd_min_floor_iff :
    min (2 ^ 127) ⌊double.value r⌋₊ ≠ 0 ∧ 2 ^ 64 ∣ min (2 ^ 127) ⌊double.value r⌋₊ ↔
      ∃ k : ℕ, 0 < k ∧ double.value r = (k * 2 ^ 64 : ℕ) := by
  constructor
  · rintro ⟨hne, hdvd⟩
    have hlarge : 2 ^ 64 ≤ ⌊double.value r⌋₊ := by
      have := Nat.le_of_dvd (Nat.pos_of_ne_zero hne) hdvd
      omega
    have hmul : ∃ k : ℕ, double.value r = (k * 2 ^ 64 : ℕ) := by
      rcases Nat.le_total (2 ^ 127) ⌊double.value r⌋₊ with hcut | hwhole
      · have hfloor : ((2 ^ 127 : ℕ) : ℚ) ≤ double.value r :=
          (Nat.le_floor_iff (double.value_nonneg r)).mp hcut
        refine exists_mul_twoPow_of_le (le_trans ?_ hfloor)
        norm_num
      · rw [Nat.min_eq_right hwhole] at hdvd
        exact exists_mul_twoPow_of_dvd_floor hlarge hdvd
    obtain ⟨k, hk⟩ := hmul
    refine ⟨k, ?_, hk⟩
    rw [hk, Nat.floor_natCast] at hlarge
    omega
  · rintro ⟨k, hk, hvalue⟩
    rw [hvalue, Nat.floor_natCast]
    refine ⟨by omega, ?_⟩
    rcases Nat.le_total (2 ^ 127) (k * 2 ^ 64) with hle | hle
    · rw [Nat.min_eq_left hle]
      exact pow_dvd_pow 2 (by decide)
    · rw [Nat.min_eq_right hle]
      exact Nat.dvd_mul_left ..

end Format

/-! ## A minus in second place -/

namespace Numeral

variable {cs ds : List Char} {a c : Char} {q : ℚ}

/-- The characters of decimal numerals are no blanks and no backslashes. -/
theorem visible_of_isPlain (h : isPlain c = true) : c ≠ '\\' ∧ Blank.isBlank c = false := by
  simp only [isPlain, Bool.or_eq_true, beq_iff_eq] at h
  rcases h with ((((h | rfl) | rfl) | rfl) | rfl) | rfl
  · have := toNat_of_isDigit h
    refine ⟨?_, Blank.isBlank_of_visible (by omega) (by omega)⟩
    rintro rfl
    exact absurd h (by decide)
  all_goals decide

/-- A numeral with two signs, the second one a minus, is a number of any size up to `2 ^ 127`. -/
theorem TwoSigns.exists_numeric (h : TwoSigns cs a '-' ds) (hds : Denotes ds q) : ∃ r i,
    Format.double.Nearest q r ∧ Reference.Numeric cs i ∧
      i.natAbs = min (2 ^ 127) ⌊Format.double.value r⌋₊ := by
  obtain ⟨r, hr, -, hmagnitude⟩ := magnitude?_minus hds
  have hvisible : ∀ c ∈ cs, c ≠ '\\' ∧ Blank.isBlank c = false := by
    rw [h.eq]
    simp only [List.forall_mem_cons]
    exact ⟨visible_of_isPlain h.first.isPlain, visible_of_isPlain h.second.isPlain,
      fun c hc => visible_of_isPlain (h.decimal.isPlain c hc)⟩
  have hne : cs ≠ [] := by
    rw [h.eq]
    simp
  have htrim : Blank.trim (String.ofList cs).toList = cs :=
    (Reference.padded_ofList cs).trim_eq (fun c hc => (hvisible c hc).2) hne
  refine ⟨r, _, hr, ⟨hvisible, ⟨a, by rw [h.eq]; rfl, .inr h.first.symm⟩,
    integer?_of_trim htrim hne h.split.1 (by simp) hmagnitude⟩, ?_⟩
  obtain ⟨hlow, hhigh⟩ := bounds_of_magnitude? hmagnitude
  rw [natAbs_applySign hlow hhigh]
  omega

end Numeral

end Number

namespace Reference

open Number (Format)
open Number.Numeral (TwoSigns Denotes)

/-! ## Accepting the null address -/

/-- An operand with two signs, the second one a minus, whose number is rounded to a positive
multiple of `2 ^ 64`. -/
def WrapsToNull (v : Value) : Prop :=
  ∃ (s : String) (cs : List Char) (a : Char) (ds : List Char) (q : ℚ) (r k : ℕ),
    v = .text s ∧ Blank.Trims cs s ∧ TwoSigns cs a '-' ds ∧ Denotes ds q ∧
      Format.double.Nearest q r ∧ 0 < k ∧ Format.double.value r = (k * 2 ^ 64 : ℕ)

/-- A loader refuses the null address, with a text of its own, and calls nothing else invalid. -/
theorem resolve_eq_invalid_iff {w : Libraries} {l : Loader} {r : Reference} {e : InvalidFunction} :
    (l.resolve w r).2.2 = .error (.invalid e) ↔ r = .address 0 ∧ e = ⟨"0"⟩ := by
  rcases r with a | ⟨_ | library, name⟩
  · simp only [Loader.resolve]
    split
    · next ha => simp [ha, eq_comm]
    · next ha => simp [ha]
  · simp only [Loader.resolve]
    split <;> simp
  · simp only [Loader.resolve]
    split
    · simp
    · split <;> simp

/-- What is accepted as the null address is a text that is read as a multiple of `2 ^ 64`. -/
theorem ofValue_eq_null_iff {v : Value} : ofValue v = .ok (.address 0) ↔
    ∃ s cs i, v = .text s ∧ Blank.Trims cs s ∧ '\\' ∉ cs ∧ StartsNumber cs ∧
      Number.Numeral.integer? (String.ofList cs) = some i ∧ i ≠ 0 ∧ (2 ^ 64 : ℤ) ∣ i := by
  constructor
  · intro h
    cases v with
    | int i =>
      rw [ofValue] at h
      split at h
      · exact absurd h (by simp)
      · next hi =>
        rw [Except.ok.injEq, Reference.address.injEq] at h
        exact absurd (by rw [← Int64.toInt64_toUInt64 i, h]; rfl) hi
    | real x => exact absurd h (by simp [ofValue])
    | text s =>
      obtain ⟨cs, hcs⟩ : ∃ cs, Blank.Trims cs s := ⟨_, Blank.trims_iff.mpr rfl⟩
      rw [ofValue_text_eq_iff hcs] at h
      generalize hr : (Except.ok (.address 0) : Except InvalidFunction Reference) = r at h
      cases h with
      | address hplain hnumber hread hi =>
        rw [Except.ok.injEq, Reference.address.injEq] at hr
        exact ⟨s, _, _, rfl, hcs, hplain, hnumber, hread, hi, uint64_ofInt_eq_zero_iff.mp hr.symm⟩
      | qualified | bare => simp at hr
      | halved | empty | nowhere => simp at hr
  · rintro ⟨s, cs, i, rfl, hcs, hplain, hnumber, hread, hi, hdvd⟩
    rw [ofValue_text_eq_iff hcs, ← uint64_ofInt_eq_zero_iff.mpr hdvd]
    exact .address hplain hnumber hread hi

/-- **When the null address is accepted.** A text is accepted as the null address exactly if it has
a minus in second place and its number is rounded to a positive multiple of `2 ^ 64`. A loader that
is asked for what was accepted calls it invalid in that case, and in no other. -/
theorem accepts_null_iff (v : Value) :
    (ofValue v = .ok (.address 0) ↔ WrapsToNull v) ∧
    ∀ r, ofValue v = .ok r → ∀ (w : Libraries) (l : Loader) (e : InvalidFunction),
      (l.resolve w r).2.2 = .error (.invalid e) ↔ WrapsToNull v ∧ e = ⟨"0"⟩ := by
  have hnull : ofValue v = .ok (.address 0) ↔ WrapsToNull v := by
    rw [ofValue_eq_null_iff]
    constructor
    · rintro ⟨s, cs, i, rfl, hcs, -, -, hread, hi, hdvd⟩
      have hself : Blank.Trims cs (String.ofList cs) := ⟨padded_ofList cs, hcs.first, hcs.last⟩
      have htwo : ∃ a ds, TwoSigns cs a '-' ds := by
        by_contra hnot
        have hsmall := Number.Numeral.natAbs_lt_of_not_twoSigns
          (fun a ds h => hnot ⟨a, ds, h⟩) hself hread
        omega
      obtain ⟨a, ds, htwo⟩ := htwo
      obtain ⟨q, hq⟩ := htwo.decimal.exists_denotes
      obtain ⟨r, i', hr, hnumeric, habs⟩ := htwo.exists_numeric hq
      obtain rfl : i' = i := Option.some.inj (hnumeric.read.symm.trans hread)
      have hmultiple : min (2 ^ 127) ⌊Format.double.value r⌋₊ ≠ 0 ∧
          2 ^ 64 ∣ min (2 ^ 127) ⌊Format.double.value r⌋₊ := by
        rw [← habs]
        omega
      obtain ⟨k, hk, hvalue⟩ := Format.dvd_min_floor_iff.mp hmultiple
      exact ⟨s, cs, a, ds, q, r, k, rfl, hcs, htwo, hq, hr, hk, hvalue⟩
    · rintro ⟨s, cs, a, ds, q, r, k, rfl, hcs, htwo, hq, hr, hk, hvalue⟩
      obtain ⟨r', i, hr', hnumeric, habs⟩ := htwo.exists_numeric hq
      obtain rfl := hr.unique hr'
      have hmultiple := Format.dvd_min_floor_iff.mpr ⟨k, hk, hvalue⟩
      rw [← habs] at hmultiple
      exact ⟨s, cs, i, rfl, hcs, fun hc => (hnumeric.visible _ hc).1 rfl, hnumeric.number,
        hnumeric.read, by omega, by omega⟩
  refine ⟨hnull, fun r hr w l e => ?_⟩
  rw [resolve_eq_invalid_iff, ← hnull, hr, Except.ok.injEq]

/-- The text `--18446744073709551616` is accepted as the null address. -/
theorem accepts_null_iff_minus_minus :
    ofValue (.text "--18446744073709551616") = .ok (.address 0) ∧
    WrapsToNull (.text "--18446744073709551616") ∧
    (Loader.resolve ⟨fun _ => none, fun _ => .error ""⟩ {} (.address 0)).2.2 =
      .error (.invalid ⟨"0"⟩) := by
  have hread : ofValue (.text "--18446744073709551616") = .ok (.address 0) := by decide +kernel
  have hwraps := (accepts_null_iff _).1.mp hread
  exact ⟨hread, hwraps, ((accepts_null_iff _).2 _ hread _ _ _).mpr ⟨hwraps, rfl⟩⟩

/-- **The null address is accepted**, and the loader has to refuse it. -/
theorem not_forall_address_ne_zero :
    (¬ ∀ (v : Value) (a : UInt64), ofValue v = .ok (.address a) → a ≠ 0) ∧
    ¬ ∀ (v : Value) (r : Reference) (w : Libraries) (l : Loader) (e : InvalidFunction),
      ofValue v = .ok r → (l.resolve w r).2.2 ≠ .error (.invalid e) := by
  have hread : ofValue (.text "--18446744073709551616") = .ok (.address 0) := by decide +kernel
  constructor
  · intro h
    exact h _ 0 hread rfl
  · intro h
    refine h _ _ ⟨fun _ => none, fun _ => .error ""⟩ {} ⟨"0"⟩ hread ?_
    exact resolve_eq_invalid_iff.mpr ⟨rfl, rfl⟩

end Reference

end ForeignCall
