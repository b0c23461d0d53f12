import ForeignCall.Number.Numeral
import ForeignCall.Text.Ascii
import Mathlib.Data.List.Induction
import Mathlib.Data.Nat.Notation
import Mathlib.Tactic.IntervalCases

/-!
# Written numbers read back

A number is written in decimal or hexadecimal digits, and a text is read as a number by rules that
allow blanks, a sign and a mark for hexadecimal digits. Here the two meet: what is written reads
back, with any blanks around it and in any case of the letters.

Numerals with a fraction or an exponent are not looked at. They go through double precision and read
back as what they were cut off to.

## Main definitions

* `Blank.Padded` — a text with blanks around it

## Main results

* `Blank.Padded.trim_eq` — blanks around a text do not matter
* `Number.ofDigits_digits`, `Numeral.ofHexDigits?_toDigits` — digits read back
* `Numeral.ofHexDigits?_map_lower` — the case of hexadecimal digits does not matter
* `Numeral.integer?_decimal`, `integer?_negative`, `integer?_hexadecimal` — written integers read
  back
-/

namespace ForeignCall

namespace Blank

variable {cs before after : List Char}

/-- A text that is `cs` with blanks around it. -/
def Padded (cs : List Char) (s : String) : Prop :=
  ∃ before after, s.toList = before ++ cs ++ after ∧ (∀ c ∈ before, isBlank c = true) ∧
    ∀ c ∈ after, isBlank c = true

theorem Padded.self (s : String) : Padded s.toList s := ⟨[], [], by simp, by simp, by simp⟩

/-- The characters that can be seen on a page of ASCII text are not blank. -/
theorem isBlank_of_visible {c : Char} (h : 0x20 < c.toNat) (h' : c.toNat < 0x7F) :
    isBlank c = false := by
  simp [isBlank]
  omega

theorem trimStart_append_of_blank (h : ∀ c ∈ before, isBlank c = true) (cs : List Char) :
    trimStart (before ++ cs) = trimStart cs := by
  induction before with
  | nil => rfl
  | cons b before ih =>
    rw [List.cons_append, trimStart, List.dropWhile_cons_of_pos (h b (List.mem_cons_self ..))]
    exact ih fun c hc => h c (List.mem_cons_of_mem _ hc)

/-- A list that does not start with a blank is kept as it is. -/
theorem trimStart_eq_self (h : ∀ c ∈ cs.head?, isBlank c = false) : trimStart cs = cs := by
  cases cs with
  | nil => rfl
  | cons c cs =>
    rw [trimStart, List.dropWhile_cons_of_neg]
    simp [h c rfl]

/-- Blanks behind a list that does not end in one are cut off. -/
theorem trimEnd_append (h : ∀ c ∈ cs.getLast?, isBlank c = false)
    (hafter : ∀ c ∈ after, isBlank c = true) : trimEnd (cs ++ after) = cs := by
  have hback : trimStart (cs ++ after).reverse = cs.reverse := by
    rw [List.reverse_append, trimStart_append_of_blank (by simpa using hafter)]
    exact trimStart_eq_self (by rwa [List.head?_reverse])
  rw [trimEnd, ← trimStart, hback, List.reverse_reverse]

/-- **Blanks around a text do not matter.** -/
theorem Padded.trim_eq {s : String} (hs : Padded cs s) (h : ∀ c ∈ cs, isBlank c = false)
    (hne : cs ≠ []) : trim s.toList = cs := by
  obtain ⟨before, after, htext, hbefore, hafter⟩ := hs
  obtain ⟨c, cs, rfl⟩ := List.exists_cons_of_ne_nil hne
  have hfirst : ∀ d ∈ (c :: cs ++ after).head?, isBlank d = false := by
    rintro d ⟨rfl⟩
    exact h c (List.mem_cons_self ..)
  rw [htext, trim, List.append_assoc, trimStart_append_of_blank hbefore, trimStart_eq_self hfirst,
    trimEnd_append (fun d hd => h d (List.mem_of_getLast? hd)) hafter]

end Blank

namespace Number

/-! ## Decimal digits -/

theorem ofDigits_digits (n : ℕ) : ofDigits (digits n) = n := by
  have hfold : ofDigits (digits n) = Nat.ofDigitChars 10 (Nat.toDigits 10 n) 0 := by
    rw [Nat.ofDigitChars_eq_foldl, ofDigits, digits]
    simp only [digitValue, Nat.mul_comm]
  rw [hfold, Nat.ofDigitChars_ten_toDigits]

theorem isDigit_of_mem_digits {n : ℕ} {c : Char} (h : c ∈ digits n) : c.isDigit = true :=
  Nat.isDigit_of_mem_toDigits (by decide) (by decide) h

theorem digits_ne_nil (n : ℕ) : digits n ≠ [] := Nat.toDigits_ne_nil

theorem toNat_of_isDigit {c : Char} (h : c.isDigit = true) : 0x30 ≤ c.toNat ∧ c.toNat ≤ 0x39 := by
  simpa [Char.isDigit, UInt32.le_iff_toNat_le] using h

theorem isBlank_of_mem_digits {n : ℕ} {c : Char} (h : c ∈ digits n) : Blank.isBlank c = false := by
  have := toNat_of_isDigit (isDigit_of_mem_digits h)
  exact Blank.isBlank_of_visible (by omega) (by omega)

namespace Numeral

/-! ## Hexadecimal digits -/

variable {cs ds : List Char} {n : ℕ} {c : Char}

theorem hexDigit?_digitChar {d : ℕ} (h : d < 16) : hexDigit? d.digitChar = some d := by
  interval_cases d <;> rfl

/-- A capital hexadecimal digit counts as much as its small form. -/
theorem hexDigit?_lower (c : Char) : hexDigit? (Ascii.lower c) = hexDigit? c := by
  by_cases h : 'A' ≤ c ∧ c ≤ 'Z'
  · have capitals : ∀ n : Fin 26, hexDigit? (Ascii.lower (Char.ofNat (65 + n))) =
        hexDigit? (Char.ofNat (65 + n)) := by decide
    have hlow : 65 ≤ c.toNat := UInt32.le_iff_toNat_le.mp h.1
    have hhigh : c.toNat ≤ 90 := UInt32.le_iff_toNat_le.mp h.2
    have hc := capitals ⟨c.toNat - 65, by omega⟩
    rwa [show 65 + (c.toNat - 65) = c.toNat by omega, Char.ofNat_toNat] at hc
  · rw [Ascii.lower, if_neg h]

theorem toNat_of_hexDigit? {d : ℕ} (h : hexDigit? c = some d) :
    0x30 ≤ c.toNat ∧ c.toNat ≤ 0x66 := by
  simp only [hexDigit?] at h
  split at h
  · next hc =>
    have hlow : 0x30 ≤ c.toNat := UInt32.le_iff_toNat_le.mp hc.1
    have hhigh : c.toNat ≤ 0x39 := UInt32.le_iff_toNat_le.mp hc.2
    omega
  · split at h
    · next hc =>
      have hlow : 0x61 ≤ c.toNat := UInt32.le_iff_toNat_le.mp hc.1
      have hhigh : c.toNat ≤ 0x66 := UInt32.le_iff_toNat_le.mp hc.2
      omega
    · split at h
      · next hc =>
        have hlow : 0x41 ≤ c.toNat := UInt32.le_iff_toNat_le.mp hc.1
        have hhigh : c.toNat ≤ 0x46 := UInt32.le_iff_toNat_le.mp hc.2
        omega
      · exact absurd h (by simp)

/-- The last digit counts once, what stands in front of it sixteen times. -/
theorem ofHexDigits?_append (cs : List Char) (c : Char) : ofHexDigits? (cs ++ [c]) =
    (ofHexDigits? cs).bind fun n => (hexDigit? c).map (n * 16 + ·) := by
  simp [ofHexDigits?, List.foldlM_append]

/-- Written in hexadecimal digits, a number reads back. -/
theorem ofHexDigits?_toDigits (n : ℕ) : ofHexDigits? (Nat.toDigits 16 n) = some n := by
  induction n using Nat.strong_induction_on with
  | _ n ih =>
    rw [Nat.toDigits_eq_if (by decide)]
    split
    · next h => simp [ofHexDigits?, hexDigit?_digitChar h]
    · next h =>
      rw [ofHexDigits?_append, ih _ (by omega), hexDigit?_digitChar (by omega)]
      simp
      omega

/-- **The case of hexadecimal digits does not matter.** -/
theorem ofHexDigits?_map_lower (cs : List Char) :
    ofHexDigits? (cs.map Ascii.lower) = ofHexDigits? cs := by
  rw [ofHexDigits?, List.foldlM_map]
  simp only [hexDigit?_lower, ofHexDigits?]

/-- A list that denotes a number holds nothing but digits. -/
theorem hexDigit?_of_mem (h : ofHexDigits? cs = some n) (hc : c ∈ cs) :
    ∃ d, hexDigit? c = some d := by
  induction cs using List.reverseRecOn generalizing n with
  | nil => simp at hc
  | append_singleton cs c' ih =>
    rw [ofHexDigits?_append] at h
    obtain ⟨m, hm, hd⟩ := Option.bind_eq_some_iff.mp h
    obtain ⟨d, hd, -⟩ := Option.map_eq_some_iff.mp hd
    rcases List.mem_append.mp hc with hc | hc
    · exact ih hm hc
    · obtain rfl := List.mem_singleton.mp hc
      exact ⟨d, hd⟩

/-- The digits of a number, in any case. -/
theorem ofHexDigits?_of_map_lower (h : ds.map Ascii.lower = Nat.toDigits 16 n) :
    ofHexDigits? ds = some n := by
  rw [← ofHexDigits?_map_lower, h, ofHexDigits?_toDigits]

/-! ## Integers -/

theorem hexBody?_digits (n : ℕ) : hexBody? (digits n) = none := by
  unfold hexBody?
  split
  · next x c cs hdigits =>
    have hx : x.isDigit = true := isDigit_of_mem_digits (n := n) (by rw [hdigits]; simp)
    rw [if_neg]
    rintro (rfl | rfl) <;> exact absurd hx (by decide)
  · rfl

theorem magnitude?_digits (hn : n < 2 ^ 64) : magnitude? (digits n) = some (n : ℤ) := by
  have hall : (digits n).all Char.isDigit = true :=
    List.all_eq_true.mpr fun c hc => isDigit_of_mem_digits hc
  rw [magnitude?, hexBody?_digits]
  simp only [hall, if_true, decimal?, ofDigits_digits, word?]
  rw [if_pos (by simpa using hn)]
  rfl

theorem splitSign_digits (n : ℕ) : splitSign (digits n) = (false, digits n) := by
  unfold splitSign
  split
  · next cs hdigits =>
    exact absurd (isDigit_of_mem_digits (n := n) (c := '-') (by simp [hdigits])) (by decide)
  · next cs hdigits =>
    exact absurd (isDigit_of_mem_digits (n := n) (c := '+') (by simp [hdigits])) (by decide)
  · rfl

/-- A number of 64 bits is far from the end of 128 bits. -/
theorem applySign_natCast (hn : n < 2 ^ 64) (negative : Bool) :
    applySign negative n = if negative then -(n : ℤ) else n := by
  rw [applySign, Int.bmod_eq_of_le_mul_two (by omega) (by omega)]

/-- Behind its sign an integer is its magnitude. -/
theorem integer?_of_trim {s : String} {negative : Bool} {m : ℤ} (hs : Blank.trim s.toList = cs)
    (hne : cs ≠ []) (hsign : splitSign cs = (negative, ds)) (hds : ds ≠ [])
    (hm : magnitude? ds = some m) : integer? s = some (applySign negative m) := by
  obtain ⟨c, cs, rfl⟩ := List.exists_cons_of_ne_nil hne
  simp only [integer?, integerOfChars?, hs, hsign, hm]
  rw [if_neg hds]
  rfl

/-- **A natural number in decimal digits** reads back. -/
theorem integer?_decimal {s : String} (hn : n < 2 ^ 64) (h : Blank.Padded (digits n) s) :
    integer? s = some (n : ℤ) := by
  have htrim := h.trim_eq (fun c hc => isBlank_of_mem_digits hc) (digits_ne_nil n)
  exact integer?_of_trim htrim (digits_ne_nil n) (splitSign_digits n) (digits_ne_nil n)
    (magnitude?_digits hn)

/-- **A negative number in decimal digits** reads back. -/
theorem integer?_negative {s : String} (hn : n < 2 ^ 64) (h : Blank.Padded ('-' :: digits n) s) :
    integer? s = some (-(n : ℤ)) := by
  have hvisible : ∀ c ∈ '-' :: digits n, Blank.isBlank c = false := by
    intro c hc
    rcases List.mem_cons.mp hc with rfl | hc
    · decide
    · exact isBlank_of_mem_digits hc
  rw [integer?_of_trim (h.trim_eq hvisible (by simp)) (by simp) rfl (digits_ne_nil n)
    (magnitude?_digits hn), applySign_natCast hn, if_pos rfl]

/-- **A number in hexadecimal digits** reads back, in any case of the letters. -/
theorem integer?_hexadecimal {s : String} {x : Char} (hn : n < 2 ^ 64) (hx : x = 'x' ∨ x = 'X')
    (hds : ds.map Ascii.lower = Nat.toDigits 16 n) (h : Blank.Padded ('0' :: x :: ds) s) :
    integer? s = some (n : ℤ) := by
  have hvalue := ofHexDigits?_of_map_lower hds
  have hne : ds ≠ [] := by
    rintro rfl
    exact absurd hds.symm Nat.toDigits_ne_nil
  have hdigit : ∀ c ∈ ds, 0x30 ≤ c.toNat ∧ c.toNat ≤ 0x66 := by
    intro c hc
    obtain ⟨d, hd⟩ := hexDigit?_of_mem hvalue hc
    exact toNat_of_hexDigit? hd
  have hvisible : ∀ c ∈ '0' :: x :: ds, Blank.isBlank c = false := by
    simp only [List.forall_mem_cons]
    refine ⟨by decide, by rcases hx with rfl | rfl <;> decide, fun c hc => ?_⟩
    have := hdigit c hc
    exact Blank.isBlank_of_visible (by omega) (by omega)
  -- a plus is no digit, so the digits are not shortened by one
  have hplus : dropPlus ds = ds := by
    unfold dropPlus
    split
    · exact absurd (hdigit '+' (by simp)) (by decide)
    · rfl
  have hmagnitude : magnitude? ('0' :: x :: ds) = some (n : ℤ) := by
    obtain ⟨c, cs, rfl⟩ := List.exists_cons_of_ne_nil hne
    simp only [magnitude?, hexBody?, if_pos hx, hexadecimal?, hplus, hne, if_false, hvalue,
      Option.bind_some, word?]
    rw [if_pos (by simpa using hn)]
    rfl
  exact integer?_of_trim (h.trim_eq hvisible (by simp)) (by simp) rfl (by simp) hmagnitude

end Numeral

end Number

end ForeignCall
