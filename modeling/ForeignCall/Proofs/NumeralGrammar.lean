import ForeignCall.Proofs.Defects
import ForeignCall.Proofs.Numerals
import Mathlib.Data.List.TakeWhile

/-!
# The grammar of numbers

The texts that are meant to be numbers have one sign at most, and behind it digits, hexadecimal
digits behind `0x`, or a decimal numeral. The reader takes them apart in several steps, each of
which is careful about its own part of the text. Two of these steps take a sign of their own: the
one that reads a decimal numeral, and the one that reads the digits behind `0x`, though a plus only.
A sign was taken off before. So the reader accepts texts with one sign too many.

This file says which texts the reader accepts, and shows that these two forms are all that it
accepts beyond the grammar. Their ranges are those of the steps: the digits behind `0x` have to be
below `2 ^ 64`, and so does an integer, but a minus in second place is not noticed there.

## Main definitions

* `Numeral.Digits`, `HexDigits`, `Mantissa`, `Exponent`, `IsDecimal` — the parts of a number
* `Numeral.Regular` — the grammar of numbers
* `Numeral.TwoSigns`, `Numeral.PlusBehindMark` — the two forms with one sign too many
* `Numeral.WithinWord`, `Numeral.RoundsBelow` — the ranges of the reader
* `Numeral.RefusedAsNumber` — a text that no pair can have for a number

## Main results

* `Numeral.read?_iff` — the decimal numerals, with a sign of their own
* `Numeral.TwoSigns.not_regular`, `PlusBehindMark.not_regular` — the two forms are not in the
  grammar
* `Numeral.real?_beyond_iff`, `integer?_beyond_iff` — when a text outside the grammar is a number
* `Numeral.reads_beyond_grammar_iff` — both together, and the refusal of all other texts
-/

namespace ForeignCall.Number.Numeral

/-! ## The grammar -/

/-- One or more decimal digits. -/
def Digits (cs : List Char) : Prop := cs ≠ [] ∧ ∀ c ∈ cs, c.isDigit = true

/-- A hexadecimal digit. -/
def IsHexDigit (c : Char) : Prop :=
  ('0' ≤ c ∧ c ≤ '9') ∨ ('a' ≤ c ∧ c ≤ 'f') ∨ ('A' ≤ c ∧ c ≤ 'F')

/-- One or more hexadecimal digits. -/
def HexDigits (cs : List Char) : Prop := cs ≠ [] ∧ ∀ c ∈ cs, IsHexDigit c

/-- A sign. -/
def IsSign (c : Char) : Prop := c = '+' ∨ c = '-'

/-- Digits with one point at most, and at least one digit. -/
inductive Mantissa : List Char → Prop where
  | whole {ds : List Char} (digits : Digits ds) : Mantissa ds
  | point {ds fs : List Char} (before : ∀ c ∈ ds, c.isDigit = true)
      (behind : ∀ c ∈ fs, c.isDigit = true) (nonempty : ds ++ fs ≠ []) : Mantissa (ds ++ '.' :: fs)

/-- Nothing, or `e` or `E` with digits that may have a sign. -/
inductive Exponent : List Char → Prop where
  | absent : Exponent []
  | present {e : Char} {sign : Option Char} {ds : List Char} (mark : e = 'e' ∨ e = 'E')
      (isSign : ∀ c ∈ sign, IsSign c) (digits : Digits ds) : Exponent (e :: (sign.toList ++ ds))

/-- A decimal numeral without a sign. -/
def IsDecimal (cs : List Char) : Prop := ∃ m e, cs = m ++ e ∧ Mantissa m ∧ Exponent e

/-- What may follow the sign of a number. -/
inductive Magnitude : List Char → Prop where
  | digits {ds : List Char} (isDigits : Digits ds) : Magnitude ds
  | hexadecimal {x : Char} {ds : List Char} (mark : x = 'x' ∨ x = 'X') (digits : HexDigits ds) :
      Magnitude ('0' :: x :: ds)
  | decimal {ds : List Char} (isDecimal : IsDecimal ds) : Magnitude ds

/-- The grammar of numbers: nothing at all, or a magnitude with one sign at most. -/
inductive Regular : List Char → Prop where
  | empty : Regular []
  | number {sign : Option Char} {ds : List Char} (isSign : ∀ c ∈ sign, IsSign c)
      (magnitude : Magnitude ds) : Regular (sign.toList ++ ds)

/-- A decimal numeral with two signs. -/
structure TwoSigns (cs : List Char) (a b : Char) (ds : List Char) : Prop where
  eq : cs = a :: b :: ds
  first : IsSign a
  second : IsSign b
  decimal : IsDecimal ds

/-- A hexadecimal numeral with a plus behind its mark. -/
structure PlusBehindMark (cs ds : List Char) : Prop where
  eq : ∃ (sign : Option Char) (x : Char), (∀ c ∈ sign, IsSign c) ∧ (x = 'x' ∨ x = 'X') ∧
    cs = sign.toList ++ '0' :: x :: '+' :: ds
  digits : HexDigits ds

/-- Hexadecimal digits that denote a number of 64 bits. -/
def WithinWord (ds : List Char) : Prop := ∃ n, ofHexDigits? ds = some n ∧ n < 2 ^ 64

/-- A decimal numeral that rounds to a number below `2 ^ 64`. -/
def RoundsBelow (ds : List Char) : Prop := ∃ x, plain? ds = some x ∧ x.reachesTwoPow64 = false

/-! ## Characters of the parts -/

variable {cs ds m e : List Char} {a b c : Char}

theorem IsSign.not_isDigit (h : IsSign c) : c.isDigit = false := by
  rcases h with rfl | rfl <;> decide

theorem Mantissa.exists_isDigit (h : Mantissa m) : ∃ c ∈ m, c.isDigit = true := by
  cases h with
  | whole hds =>
    obtain ⟨c, cs, rfl⟩ := List.exists_cons_of_ne_nil hds.1
    exact ⟨c, List.mem_cons_self .., hds.2 c (List.mem_cons_self ..)⟩
  | @point ds fs hds hfs hne =>
    obtain ⟨c, hc⟩ := List.exists_mem_of_ne_nil _ hne
    rcases List.mem_append.mp hc with hc | hc
    · exact ⟨c, by simp [hc], hds c hc⟩
    · exact ⟨c, by simp [hc], hfs c hc⟩

theorem isPlain_of_isDigit (h : c.isDigit = true) : isPlain c = true := by
  simp [isPlain, h]

theorem IsSign.isPlain (h : IsSign c) : isPlain c = true := by
  rcases h with rfl | rfl <;> decide

theorem Mantissa.isPlain (h : Mantissa m) : ∀ c ∈ m, isPlain c = true := by
  intro c hc
  cases h with
  | whole hds => exact isPlain_of_isDigit (hds.2 c hc)
  | point hds hfs =>
    rcases List.mem_append.mp hc with hc | hc
    · exact isPlain_of_isDigit (hds c hc)
    · rcases List.mem_cons.mp hc with rfl | hc
      · decide
      · exact isPlain_of_isDigit (hfs c hc)

theorem Exponent.isPlain (h : Exponent e) : ∀ c ∈ e, isPlain c = true := by
  intro c hc
  cases h with
  | absent => simp at hc
  | @present e sign ds he hsign hds =>
    rcases List.mem_cons.mp hc with rfl | hc
    · rcases he with rfl | rfl <;> decide
    · rcases List.mem_append.mp hc with hc | hc
      · exact (hsign c (Option.mem_toList.mp hc)).isPlain
      · exact isPlain_of_isDigit (hds.2 c hc)

theorem IsDecimal.isPlain (h : IsDecimal ds) : ∀ c ∈ ds, isPlain c = true := by
  obtain ⟨m, e, rfl, hm, he⟩ := h
  intro c hc
  rcases List.mem_append.mp hc with hc | hc
  · exact hm.isPlain c hc
  · exact he.isPlain c hc

/-- A decimal numeral starts with a digit or a point. -/
theorem IsDecimal.head (h : IsDecimal ds) :
    ∃ c rest, ds = c :: rest ∧ (c.isDigit = true ∨ c = '.') := by
  obtain ⟨m, e, rfl, hm, -⟩ := h
  cases hm with
  | whole hds =>
    obtain ⟨c, cs, rfl⟩ := List.exists_cons_of_ne_nil hds.1
    exact ⟨c, cs ++ e, rfl, .inl (hds.2 c (List.mem_cons_self ..))⟩
  | @point ds fs hds =>
    rcases ds with _ | ⟨c, ds⟩
    · exact ⟨'.', fs ++ e, rfl, .inr rfl⟩
    · exact ⟨c, (ds ++ '.' :: fs) ++ e, rfl, .inl (hds c (List.mem_cons_self ..))⟩

theorem zero_head_ne (cs : List Char) : ∀ c ∈ ('0' :: cs).head?, ¬ IsSign c := by
  rintro c ⟨rfl⟩ hc
  exact absurd hc.not_isDigit (by decide)

/-- What follows the sign of a number does not start with a sign. -/
theorem Magnitude.head_ne (h : Magnitude ds) : ∀ c ∈ ds.head?, ¬ IsSign c := by
  intro c hc hsign
  have hnot := hsign.not_isDigit
  cases h with
  | digits hds =>
    rw [hds.2 c (List.mem_of_mem_head? hc)] at hnot
    exact Bool.false_ne_true hnot.symm
  | hexadecimal => exact zero_head_ne _ c hc hsign
  | decimal hds =>
    obtain ⟨d, rest, rfl, hd⟩ := hds.head
    obtain rfl : d = c := Option.some.inj hc
    rcases hd with hd | rfl
    · rw [hd] at hnot
      exact Bool.false_ne_true hnot.symm
    · rcases hsign with hsign | hsign <;> exact absurd hsign (by decide)

theorem IsDecimal.head_ne (h : IsDecimal ds) : ∀ c ∈ ds.head?, ¬ IsSign c :=
  (Magnitude.decimal h).head_ne

/-! ## Signs -/

theorem splitSign_cons (h : IsSign a) (ds : List Char) : splitSign (a :: ds) = (a == '-', ds) := by
  rcases h with rfl | rfl <;> rfl

theorem splitSign_of_head (h : ∀ c ∈ cs.head?, ¬ IsSign c) : splitSign cs = (false, cs) := by
  unfold splitSign
  split
  · exact absurd (.inr rfl) (h '-' rfl)
  · exact absurd (.inl rfl) (h '+' rfl)
  · rfl

theorem splitSign_append {sign : Option Char} (hsign : ∀ c ∈ sign, IsSign c)
    (h : ∀ c ∈ ds.head?, ¬ IsSign c) : splitSign (sign.toList ++ ds) = (sign == some '-', ds) := by
  cases sign with
  | none => exact splitSign_of_head h
  | some a => exact splitSign_cons (hsign a rfl) ds

/-- What is split off is a sign, if there is one. -/
theorem exists_of_splitSign {negative : Bool} (h : splitSign cs = (negative, ds)) :
    ∃ sign : Option Char, cs = sign.toList ++ ds ∧ (∀ c ∈ sign, IsSign c) ∧
      (sign = none → ∀ c ∈ ds.head?, ¬ IsSign c) := by
  by_cases hcs : ∃ a ∈ cs.head?, IsSign a
  · obtain ⟨a, ha, hsign⟩ := hcs
    obtain ⟨rest, rfl⟩ := List.head?_eq_some_iff.mp ha
    rw [splitSign_cons hsign] at h
    obtain ⟨-, rfl⟩ := Prod.mk.inj h
    exact ⟨some a, rfl, by simpa using hsign, by simp⟩
  · have hhead : ∀ c ∈ cs.head?, ¬ IsSign c := fun c hc hsign => hcs ⟨c, hc, hsign⟩
    rw [splitSign_of_head hhead] at h
    obtain ⟨-, rfl⟩ := Prod.mk.inj h
    exact ⟨none, rfl, by simp, fun _ => hhead⟩

/-! ## Decimal numerals -/

/-- A run of digits ends in front of a character that is none. -/
theorem span_digits (hds : ∀ c ∈ ds, c.isDigit = true) (hcs : ∀ c ∈ cs.head?, c.isDigit = false) :
    (ds ++ cs).takeWhile Char.isDigit = ds ∧ (ds ++ cs).dropWhile Char.isDigit = cs := by
  rw [List.takeWhile_append_of_pos hds, List.dropWhile_append_of_pos hds]
  cases cs with
  | nil => simp
  | cons c cs => simp [hcs c rfl]

theorem Exponent.head (h : Exponent e) : ∀ c ∈ e.head?, c = 'e' ∨ c = 'E' := by
  cases h with
  | absent => simp
  | present he =>
    rintro c ⟨rfl⟩
    exact he

theorem Exponent.head_not_isDigit (h : Exponent e) : ∀ c ∈ e.head?, c.isDigit = false := by
  intro c hc
  rcases h.head c hc with rfl | rfl <;> decide

theorem splitMantissa_whole (hds : Digits ds) (he : Exponent e) :
    Decimal.splitMantissa (ds ++ e) = (ds, [], e) := by
  obtain ⟨htake, hdrop⟩ := span_digits hds.2 he.head_not_isDigit
  simp only [Decimal.splitMantissa, htake, hdrop]
  split
  · rcases he.head '.' rfl with h | h <;> exact absurd h (by decide)
  · rfl

theorem splitMantissa_point {fs : List Char} (hds : ∀ c ∈ ds, c.isDigit = true)
    (hfs : ∀ c ∈ fs, c.isDigit = true) (he : Exponent e) :
    Decimal.splitMantissa ((ds ++ '.' :: fs) ++ e) = (ds, fs, e) := by
  have hpoint : ∀ c ∈ ('.' :: fs ++ e).head?, c.isDigit = false := by
    rintro c ⟨rfl⟩
    decide
  obtain ⟨htake, hdrop⟩ := span_digits hds hpoint
  obtain ⟨htake', hdrop'⟩ := span_digits hfs he.head_not_isDigit
  rw [List.append_assoc, Decimal.splitMantissa, htake, hdrop]
  simp only [List.cons_append, htake', hdrop']

/-- A mantissa is split off in front of an exponent. -/
theorem splitMantissa_append (hm : Mantissa m) (he : Exponent e) :
    ∃ whole fraction, Decimal.splitMantissa (m ++ e) = (whole, fraction, e) ∧
      ¬ (whole = [] ∧ fraction = []) := by
  cases hm with
  | whole hds => exact ⟨m, [], splitMantissa_whole hds he, fun h => hds.1 h.1⟩
  | @point ds fs hds hfs hne =>
    exact ⟨ds, fs, splitMantissa_point hds hfs he, fun h => hne (by rw [h.1, h.2]; rfl)⟩

/-- What is split off is a mantissa, if it has a digit. -/
theorem exists_of_splitMantissa {whole fraction rest : List Char}
    (h : Decimal.splitMantissa cs = (whole, fraction, rest))
    (hne : ¬ (whole = [] ∧ fraction = [])) : ∃ m, cs = m ++ rest ∧ Mantissa m := by
  have hcs : cs.takeWhile Char.isDigit ++ cs.dropWhile Char.isDigit = cs :=
    List.takeWhile_append_dropWhile
  have hdigits : ∀ c ∈ cs.takeWhile Char.isDigit, c.isDigit = true :=
    fun c hc => List.mem_takeWhile_imp hc
  simp only [Decimal.splitMantissa] at h
  split at h
  · next rest' hdrop =>
    obtain ⟨rfl, hrest⟩ := Prod.mk.inj h
    obtain ⟨rfl, rfl⟩ := Prod.mk.inj hrest
    refine ⟨cs.takeWhile Char.isDigit ++ '.' :: rest'.takeWhile Char.isDigit, ?_,
      .point hdigits (fun c hc => List.mem_takeWhile_imp hc) ?_⟩
    · rw [List.append_assoc, List.cons_append, List.takeWhile_append_dropWhile, ← hdrop, hcs]
    · exact fun hnil => hne (List.append_eq_nil_iff.mp hnil)
  · obtain ⟨rfl, hrest⟩ := Prod.mk.inj h
    obtain ⟨rfl, rfl⟩ := Prod.mk.inj hrest
    exact ⟨_, hcs.symm, .whole ⟨fun hnil => hne ⟨hnil, rfl⟩, hdigits⟩⟩

theorem readExponent?_present {c : Char} {sign : Option Char} (hc : c = 'e' ∨ c = 'E')
    (hsign : ∀ c ∈ sign, IsSign c) (hds : Digits ds) :
    Decimal.readExponent? (c :: (sign.toList ++ ds)) =
      some (if (sign == some '-') = true then -(ofDigits ds : ℤ) else ofDigits ds) := by
  have hsplit := splitSign_append hsign (Magnitude.digits hds).head_ne
  rw [Decimal.readExponent?, if_pos hc, hsplit]
  simp only
  rw [if_pos ⟨hds.1, List.all_eq_true.mpr hds.2⟩]

/-- An exponent is read exactly if it is one. -/
theorem readExponent?_iff : (∃ n, Decimal.readExponent? e = some n) ↔ Exponent e := by
  constructor
  · rintro ⟨n, h⟩
    cases e with
    | nil => exact .absent
    | cons c cs =>
      rw [Decimal.readExponent?] at h
      split at h
      · next hc =>
        rcases hsplit : splitSign cs with ⟨negative, ds⟩
        simp only [hsplit] at h
        split at h
        · next hds =>
          obtain ⟨sign, rfl, hsign, -⟩ := exists_of_splitSign hsplit
          exact .present hc hsign ⟨hds.1, List.all_eq_true.mp hds.2⟩
        · exact absurd h (by simp)
      · exact absurd h (by simp)
  · rintro (_ | ⟨he, hsign, hds⟩)
    · exact ⟨0, rfl⟩
    · exact ⟨_, readExponent?_present he hsign hds⟩

/-- **A decimal numeral is read with a sign of its own.** -/
theorem read?_iff {negative : Bool} (h : splitSign cs = (negative, ds)) :
    (∃ d, Decimal.read? cs = some d) ↔ IsDecimal ds := by
  rcases hsplit : Decimal.splitMantissa ds with ⟨whole, fraction, rest⟩
  simp only [Decimal.read?, h, hsplit]
  constructor
  · rintro ⟨d, hd⟩
    split at hd
    · exact absurd hd (by simp)
    · next hne =>
      obtain ⟨n, hn, -⟩ := Option.map_eq_some_iff.mp hd
      obtain ⟨m, rfl, hm⟩ := exists_of_splitMantissa hsplit hne
      exact ⟨m, rest, rfl, hm, readExponent?_iff.mp ⟨n, hn⟩⟩
  · rintro ⟨m, e, rfl, hm, he⟩
    obtain ⟨whole', fraction', hsplit', hne⟩ := splitMantissa_append hm he
    rw [hsplit, Prod.mk.injEq, Prod.mk.injEq] at hsplit'
    obtain ⟨rfl, rfl, rfl⟩ := hsplit'
    obtain ⟨n, hn⟩ := readExponent?_iff.mpr he
    rw [if_neg hne, hn]
    exact ⟨_, rfl⟩

/-- The sign of a decimal numeral is kept. -/
theorem negative_of_read? {negative : Bool} (h : splitSign cs = (negative, ds)) {d : Decimal}
    (hd : Decimal.read? cs = some d) : d.negative = negative := by
  simp only [Decimal.read?, h] at hd
  split at hd
  · exact absurd hd (by simp)
  · obtain ⟨n, -, rfl⟩ := Option.map_eq_some_iff.mp hd
    rfl

/-- **A decimal numeral is a number**, with a sign of its own. -/
theorem plain?_iff {negative : Bool} (h : splitSign cs = (negative, ds)) :
    (∃ x, plain? cs = some x) ↔ IsDecimal ds := by
  rw [plain?]
  constructor
  · rintro ⟨x, hx⟩
    split at hx
    · obtain ⟨d, hd, -⟩ := Option.map_eq_some_iff.mp hx
      exact (read?_iff h).mp ⟨d, hd⟩
    · exact absurd hx (by simp)
  · intro hds
    obtain ⟨d, hd⟩ := (read?_iff h).mpr hds
    obtain ⟨sign, rfl, hsign, -⟩ := exists_of_splitSign h
    have hplain : ∀ c ∈ sign.toList ++ ds, isPlain c = true := by
      intro c hc
      rcases List.mem_append.mp hc with hc | hc
      · exact (hsign c (Option.mem_toList.mp hc)).isPlain
      · exact hds.isPlain c hc
    have hdigit : ∃ c ∈ sign.toList ++ ds, c.isDigit = true := by
      obtain ⟨m, e, rfl, hm, -⟩ := hds
      obtain ⟨c, hc, hdigit⟩ := hm.exists_isDigit
      exact ⟨c, by simp [hc], hdigit⟩
    rw [List.all_eq_true.mpr hplain, List.any_eq_true.mpr hdigit, hd]
    exact ⟨_, rfl⟩

/-! ### Numbers below zero -/

theorem isNegative_ofRank {negative : Bool} {rank : ℕ} (h : rank < Double.signWeight) :
    (Double.ofRank negative rank).isNegative = negative := by
  rw [Double.signWeight] at h
  rw [Double.ofRank, Double.isNegative, Double.signWeight, UInt64.toNat_ofNat']
  cases negative with
  | true =>
    rw [if_pos rfl, decide_eq_true_eq]
    omega
  | false =>
    rw [if_neg Bool.false_ne_true, decide_eq_false_iff_not]
    omega

/-- Rounding keeps the sign. -/
theorem isNegative_toDouble (d : Decimal) : d.toDouble.isNegative = d.negative := by
  have hinfinity : Format.double.infinity < Double.signWeight := by decide
  rw [Decimal.toDouble]
  split
  · exact isNegative_ofRank (by decide)
  · split
    · exact isNegative_ofRank hinfinity
    · exact isNegative_ofRank (lt_of_le_of_lt (Format.rankOfRatio_le_infinity ..) hinfinity)

/-- A number with a minus of its own is below `2 ^ 64`. -/
theorem reachesTwoPow64_of_minus {x : Double} (h : plain? ('-' :: ds) = some x) :
    x.reachesTwoPow64 = false := by
  rw [plain?] at h
  split at h
  · obtain ⟨d, hd, rfl⟩ := Option.map_eq_some_iff.mp h
    have hsplit : splitSign ('-' :: ds) = (true, ds) := rfl
    have hnegative : d.negative = true := negative_of_read? hsplit hd
    rw [Double.reachesTwoPow64, isNegative_toDouble, hnegative]
    rfl
  · exact absurd h (by simp)

/-! ## Hexadecimal digits -/

theorem isHexDigit_of_hexDigit? {d : ℕ} (h : hexDigit? c = some d) : IsHexDigit c := by
  simp only [hexDigit?] at h
  split at h
  · next hc => exact .inl hc
  · split at h
    · next hc => exact .inr (.inl hc)
    · split at h
      · next hc => exact .inr (.inr hc)
      · exact absurd h (by simp)

theorem hexDigits_of_ofHexDigits? {n : ℕ} (hne : ds ≠ []) (h : ofHexDigits? ds = some n) :
    HexDigits ds := by
  refine ⟨hne, fun c hc => ?_⟩
  obtain ⟨d, hd⟩ := hexDigit?_of_mem h hc
  exact isHexDigit_of_hexDigit? hd

/-- A plus is no hexadecimal digit. -/
theorem HexDigits.plus_notMem (h : HexDigits ds) : '+' ∉ ds := by
  intro hplus
  rcases h.2 _ hplus with ⟨h, -⟩ | ⟨h, -⟩ | ⟨h, -⟩ <;> exact absurd h (by decide)

theorem hexBody?_eq_some_iff {hex : List Char} : hexBody? cs = some hex ↔
    ∃ x, (x = 'x' ∨ x = 'X') ∧ hex ≠ [] ∧ cs = '0' :: x :: hex := by
  constructor
  · intro h
    unfold hexBody? at h
    split at h
    · next x c rest =>
      split at h
      · next hx =>
        obtain rfl := Option.some.inj h
        exact ⟨x, hx, by simp, rfl⟩
      · exact absurd h (by simp)
    · exact absurd h (by simp)
  · rintro ⟨x, hx, hne, rfl⟩
    obtain ⟨c, rest, rfl⟩ := List.exists_cons_of_ne_nil hne
    exact if_pos hx

/-- The mark of hexadecimal digits does not occur in decimal numerals. -/
theorem hexBody?_of_isPlain (h : ∀ c ∈ cs, isPlain c = true) : hexBody? cs = none := by
  cases hbody : hexBody? cs with
  | none => rfl
  | some hex =>
    obtain ⟨x, hx, -, rfl⟩ := hexBody?_eq_some_iff.mp hbody
    have hplain := h x (by simp)
    rcases hx with rfl | rfl <;> exact absurd hplain (by decide)

/-- The digits behind the mark are read after a plus, and have to be below `2 ^ 64`. -/
theorem hexadecimal?_iff {hex : List Char} : (∃ n, hexadecimal? hex = some n) ↔
    dropPlus hex ≠ [] ∧ WithinWord (dropPlus hex) := by
  rw [hexadecimal?]
  constructor
  · rintro ⟨n, h⟩
    split at h
    · exact absurd h (by simp)
    · next hne =>
      obtain ⟨k, hk, hword⟩ := Option.bind_eq_some_iff.mp h
      rw [word?] at hword
      split at hword
      · next hlt => exact ⟨hne, k, hk, hlt⟩
      · exact absurd hword (by simp)
  · rintro ⟨hne, n, hn, hlt⟩
    exact ⟨n, by rw [if_neg hne, hn]; exact if_pos hlt⟩

/-! ## What is read -/

/-- Hexadecimal digits behind a mark have a regular form, or a plus in front of them. -/
theorem form_of_hexadecimal {sign : Option Char} {hex : List Char} {n : ℕ}
    (hsign : ∀ c ∈ sign, IsSign c) (hbody : hexBody? ds = some hex)
    (hn : hexadecimal? hex = some n) : Regular (sign.toList ++ ds) ∨
      ∃ hs, PlusBehindMark (sign.toList ++ ds) hs ∧ WithinWord hs := by
  obtain ⟨x, hx, -, rfl⟩ := hexBody?_eq_some_iff.mp hbody
  obtain ⟨hne, k, hk, hlt⟩ := hexadecimal?_iff.mp ⟨n, hn⟩
  have hdigits : HexDigits (dropPlus hex) := hexDigits_of_ofHexDigits? hne hk
  by_cases hplus : ∃ rest, hex = '+' :: rest
  · obtain ⟨rest, rfl⟩ := hplus
    exact .inr ⟨rest, ⟨⟨sign, x, hsign, hx, rfl⟩, hdigits⟩, k, hk, hlt⟩
  · have hdrop : dropPlus hex = hex := by
      unfold dropPlus
      split
      · next rest => exact absurd ⟨rest, rfl⟩ hplus
      · rfl
    rw [hdrop] at hdigits
    exact .inl (.number hsign (.hexadecimal hx hdigits))

/-- A decimal numeral behind a sign has a regular form, or a sign of its own. -/
theorem form_of_plain {sign : Option Char} {x : Double} (hsign : ∀ c ∈ sign, IsSign c)
    (hnone : sign = none → ∀ c ∈ ds.head?, ¬ IsSign c) (hx : plain? ds = some x) :
    Regular (sign.toList ++ ds) ∨
      ∃ a b ds', TwoSigns (sign.toList ++ ds) a b ds' ∧ ds = b :: ds' := by
  rcases hsplit : splitSign ds with ⟨negative, ds'⟩
  have hdecimal : IsDecimal ds' := (plain?_iff hsplit).mp ⟨x, hx⟩
  obtain ⟨sign', rfl, hsign', -⟩ := exists_of_splitSign hsplit
  rcases sign' with _ | b
  · exact .inl (.number hsign (.decimal hdecimal))
  · rcases sign with _ | a
    · exact absurd (hsign' b rfl) (hnone rfl b rfl)
    · exact .inr ⟨a, b, ds', ⟨rfl, hsign a rfl, hsign' b rfl, hdecimal⟩, rfl⟩

/-! ## The two readers -/

theorem magnitude?_iff : (∃ n, magnitude? ds = some n) ↔
    (∃ hex, hexBody? ds = some hex ∧ ∃ n, hexadecimal? hex = some n) ∨
    (hexBody? ds = none ∧ ds.all Char.isDigit = true ∧ ∃ n, decimal? ds = some n) ∨
    (hexBody? ds = none ∧ ds.all Char.isDigit = false ∧
      ∃ x, plain? ds = some x ∧ x.reachesTwoPow64 = false) := by
  rw [magnitude?]
  cases hbody : hexBody? ds with
  | some hex => cases hexadecimal? hex <;> simp
  | none =>
    cases hall : ds.all Char.isDigit with
    | true => cases decimal? ds <;> simp
    | false =>
      cases plain? ds with
      | none => simp
      | some x => cases hx : x.reachesTwoPow64 <;> simp [hx]

theorem realMagnitude?_iff : (∃ x, realMagnitude? ds = some x) ↔
    (∃ hex, hexBody? ds = some hex ∧ ∃ n, hexadecimal? hex = some n) ∨
    (hexBody? ds = none ∧ ∃ x, plain? ds = some x) := by
  rw [realMagnitude?]
  cases hbody : hexBody? ds with
  | some hex => cases hhex : hexadecimal? hex <;> simp [hhex]
  | none => simp

variable {s : String} {negative : Bool}

theorem integer?_iff (hcs : cs = Blank.trim s.toList) (hsplit : splitSign cs = (negative, ds)) :
    (∃ n, integer? s = some n) ↔ cs = [] ∨ ds ≠ [] ∧ ∃ m, magnitude? ds = some m := by
  rw [integer?, integerOfChars?, ← hcs]
  rcases cs with _ | ⟨c, rest⟩
  · simp
  · by_cases hds : ds = []
    · simp [hsplit, hds]
    · simp [hsplit, hds]

theorem real?_iff (hcs : cs = Blank.trim s.toList) (hsplit : splitSign cs = (negative, ds)) :
    (∃ x, real? s = some x) ↔ cs = [] ∨ ∃ x, realMagnitude? ds = some x := by
  rw [real?, realOfChars?, ← hcs]
  rcases cs with _ | ⟨c, rest⟩
  · simp
  · simp [hsplit]

/-! ## Outside the grammar -/

/-- **Two signs are outside the grammar.** -/
theorem TwoSigns.not_regular (h : TwoSigns cs a b ds) : ¬ Regular cs := by
  obtain ⟨rfl, ha, hb, -⟩ := h
  intro hregular
  generalize hcs : a :: b :: ds = cs at hregular
  cases hregular with
  | empty => simp at hcs
  | @number sign body hsign hbody =>
    have hsplit := splitSign_append hsign hbody.head_ne
    rw [← hcs, splitSign_cons ha, Prod.mk.injEq] at hsplit
    exact hbody.head_ne b (by rw [← hsplit.2]; rfl) hb

/-- **A plus behind the mark of hexadecimal digits is outside the grammar.** -/
theorem PlusBehindMark.not_regular (h : PlusBehindMark cs ds) : ¬ Regular cs := by
  obtain ⟨⟨sign, x, hsign, hx, rfl⟩, -⟩ := h
  intro hregular
  have hsplit := splitSign_append hsign (zero_head_ne (x :: '+' :: ds))
  generalize sign.toList ++ '0' :: x :: '+' :: ds = cs at hregular hsplit
  have hbody : Magnitude ('0' :: x :: '+' :: ds) := by
    cases hregular with
    | empty => simp at hsplit
    | @number sign' body hsign' hbody =>
      rw [splitSign_append hsign' hbody.head_ne, Prod.mk.injEq] at hsplit
      rwa [← hsplit.2]
  generalize hds : '0' :: x :: '+' :: ds = body at hbody
  cases hbody with
  | digits hdigits =>
    subst hds
    exact absurd (hdigits.2 '+' (by simp)) (by decide)
  | hexadecimal _ hdigits =>
    simp only [List.cons.injEq, true_and] at hds
    exact hdigits.plus_notMem (by simp [← hds.2])
  | decimal hdecimal =>
    subst hds
    have hplain := hdecimal.isPlain x (by simp)
    rcases hx with rfl | rfl <;> exact absurd hplain (by decide)

theorem plain?_plus (h : IsDecimal ds) : plain? ('+' :: ds) = plain? ds := by
  have hread : Decimal.read? ('+' :: ds) = Decimal.read? ds := by
    rw [Decimal.read?, Decimal.read?, splitSign_of_head h.head_ne]
    rfl
  have hall : ('+' :: ds).all isPlain = ds.all isPlain := rfl
  have hany : ('+' :: ds).any Char.isDigit = ds.any Char.isDigit := rfl
  rw [plain?, plain?, hread, hall, hany]

/-- Behind its first sign a text with two signs is read as a decimal numeral. -/
theorem TwoSigns.split (h : TwoSigns cs a b ds) : splitSign cs = (a == '-', b :: ds) ∧
    hexBody? (b :: ds) = none ∧ (b :: ds).all Char.isDigit = false ∧
    ∃ x, plain? (b :: ds) = some x := by
  obtain ⟨rfl, ha, hb, hds⟩ := h
  refine ⟨splitSign_cons ha _, hexBody?_of_isPlain ?_, ?_, ?_⟩
  · rw [List.forall_mem_cons]
    exact ⟨hb.isPlain, hds.isPlain⟩
  · rw [List.all_cons, hb.not_isDigit, Bool.false_and]
  · exact (plain?_iff (splitSign_cons hb ds)).mpr hds

/-- Behind its sign and its mark a text with a plus there is read as hexadecimal digits. -/
theorem PlusBehindMark.split (h : PlusBehindMark cs ds) : ∃ negative body,
    splitSign cs = (negative, body) ∧ body ≠ [] ∧ hexBody? body = some ('+' :: ds) ∧
    dropPlus ('+' :: ds) = ds ∧ ds ≠ [] := by
  obtain ⟨⟨sign, x, hsign, hx, rfl⟩, hdigits⟩ := h
  exact ⟨_, _, splitSign_append hsign (zero_head_ne _), by simp,
    hexBody?_eq_some_iff.mpr ⟨x, hx, by simp, rfl⟩, rfl, hdigits.1⟩

/-- **A text is a real number** if its form is in the grammar, or else one of the two forms with a
sign too many. -/
theorem real?_beyond_iff (hcs : cs = Blank.trim s.toList) :
    (∃ x, real? s = some x) ∧ ¬ Regular cs ↔
      (∃ a b ds, TwoSigns cs a b ds) ∨ ∃ ds, PlusBehindMark cs ds ∧ WithinWord ds := by
  rcases hsplit : splitSign cs with ⟨negative, body⟩
  rw [real?_iff hcs hsplit, realMagnitude?_iff]
  constructor
  · rintro ⟨hread, hnot⟩
    obtain ⟨sign, rfl, hsign, hnone⟩ := exists_of_splitSign hsplit
    rcases hread with hnil | ⟨hex, hbody, n, hn⟩ | ⟨-, x, hx⟩
    · rw [hnil] at hnot
      exact absurd .empty hnot
    · exact .inr ((form_of_hexadecimal hsign hbody hn).resolve_left hnot)
    · obtain ⟨a, b, ds, htwo, -⟩ := (form_of_plain hsign hnone hx).resolve_left hnot
      exact .inl ⟨a, b, ds, htwo⟩
  · rintro (⟨a, b, ds, htwo⟩ | ⟨ds, hplus, hword⟩)
    · refine ⟨.inr (.inr ?_), htwo.not_regular⟩
      obtain ⟨hsplit', hbody, -, hx⟩ := htwo.split
      obtain ⟨-, rfl⟩ := Prod.mk.inj (hsplit.symm.trans hsplit')
      exact ⟨hbody, hx⟩
    · refine ⟨.inr (.inl ?_), hplus.not_regular⟩
      obtain ⟨_, _, hsplit', -, hbody, hdrop, hne⟩ := hplus.split
      obtain ⟨-, rfl⟩ := Prod.mk.inj (hsplit.symm.trans hsplit')
      exact ⟨_, hbody, hexadecimal?_iff.mpr (by rw [hdrop]; exact ⟨hne, hword⟩)⟩

/-- **A text is an integer** if its form is in the grammar, or else one of the two forms with a sign
too many. A minus in second place hides the number from the range check. -/
theorem integer?_beyond_iff (hcs : cs = Blank.trim s.toList) :
    (∃ n, integer? s = some n) ∧ ¬ Regular cs ↔
      (∃ a b ds, TwoSigns cs a b ds ∧ (b = '-' ∨ RoundsBelow ds)) ∨
        ∃ ds, PlusBehindMark cs ds ∧ WithinWord ds := by
  rcases hsplit : splitSign cs with ⟨negative, body⟩
  rw [integer?_iff hcs hsplit, magnitude?_iff]
  constructor
  · rintro ⟨hread, hnot⟩
    obtain ⟨sign, rfl, hsign, hnone⟩ := exists_of_splitSign hsplit
    rcases hread with hnil | ⟨hne, ⟨hex, hbody, n, hn⟩ | ⟨-, hall, -⟩ | ⟨-, -, x, hx, hbelow⟩⟩
    · rw [hnil] at hnot
      exact absurd .empty hnot
    · exact .inr ((form_of_hexadecimal hsign hbody hn).resolve_left hnot)
    · exact absurd (.number hsign (.digits ⟨hne, List.all_eq_true.mp hall⟩)) hnot
    · obtain ⟨a, b, ds, htwo, rfl⟩ := (form_of_plain hsign hnone hx).resolve_left hnot
      refine .inl ⟨a, b, ds, htwo, ?_⟩
      rcases htwo.second with rfl | rfl
      · rw [plain?_plus htwo.decimal] at hx
        exact .inr ⟨x, hx, hbelow⟩
      · exact .inl rfl
  · rintro (⟨a, b, ds, htwo, hrange⟩ | ⟨ds, hplus, hword⟩)
    · refine ⟨.inr ?_, htwo.not_regular⟩
      obtain ⟨hsplit', hbody, hall, x, hx⟩ := htwo.split
      obtain ⟨-, rfl⟩ := Prod.mk.inj (hsplit.symm.trans hsplit')
      refine ⟨by simp, .inr (.inr ⟨hbody, hall, x, hx, ?_⟩)⟩
      rcases hrange with rfl | ⟨y, hy, hbelow⟩
      · exact reachesTwoPow64_of_minus hx
      · rcases htwo.second with rfl | rfl
        · rw [plain?_plus htwo.decimal, hy, Option.some.injEq] at hx
          rwa [← hx]
        · exact reachesTwoPow64_of_minus hx
    · refine ⟨.inr ?_, hplus.not_regular⟩
      obtain ⟨_, _, hsplit', hne', hbody, hdrop, hne⟩ := hplus.split
      obtain ⟨-, rfl⟩ := Prod.mk.inj (hsplit.symm.trans hsplit')
      exact ⟨hne', .inl ⟨_, hbody, hexadecimal?_iff.mpr (by rw [hdrop]; exact ⟨hne, hword⟩)⟩⟩

/-! ## Refusals -/

/-- A text is refused wherever an integer or a floating-point number is declared. The list of
operands does not marshal, and the error is about this text unless there is an earlier one. -/
def RefusedAsNumber (s : String) : Prop :=
  ∀ (site : Site) (operands : List Operand) (i : ℕ) (t o : Operand) (token : Token),
    PairAt operands i t o → Token.parse t.text = .ok token → o.value = .text s →
    (token.kind.isInteger = true ∨ token.kind.isReal = true) →
      fillArgument site i token o = .error (.malformedNumber i s) ∧
      (∃ error, (marshal site operands).2 = .error error) ∧
      ((∀ o', ¬ BadResult operands o') →
        (∀ j < i, ∀ t' o' e, PairAt operands j t' o' → ¬ Defect j t' o' e) →
        (marshal site operands).2 = .error (.malformedNumber i s))

/-- **A text that is no number is refused as one.** -/
theorem refusedAsNumber (hinteger : integer? s = none) (hreal : real? s = none) :
    RefusedAsNumber s := by
  intro site operands i t o token hpair htoken ho hkind
  have hbad : Inconvertible i o token.kind (.malformedNumber i s) := by
    rcases hkind with hk | hk
    · exact .integer hk ho hinteger
    · exact .real hk ho hreal
  have hdefect : Defect (0 + i) t o (.malformedNumber i s) := by
    rw [Nat.zero_add]
    exact .value htoken hbad
  refine ⟨fillArgument_eq_error_iff.mpr hbad, ?_⟩
  rcases marshal_cases site operands with ⟨o', hresult, hm⟩ |
    ⟨-, ⟨i', error, hfirst, hm, -⟩ | ⟨p, hflawless, -⟩⟩
  · rw [hm]
    exact ⟨⟨_, rfl⟩, fun h => absurd hresult (h o')⟩
  · refine ⟨⟨error, hm⟩, fun _ hbefore => ?_⟩
    have hfirst' : FirstDefect 0 operands i (.malformedNumber i s) :=
      ⟨⟨t, o, hpair, hdefect⟩, by simpa using hbefore⟩
    rw [hm, (hfirst'.unique hfirst).2]
  · exact absurd hdefect (hflawless i t o _ hpair)

/-- **What is a number beyond the grammar.** Take the blanks around a text away. A text outside the
grammar of numbers is read as one exactly if it is a decimal numeral with two signs, or a
hexadecimal numeral with a plus behind its mark, and its digits are in the range of the reader. All
other texts outside the grammar are no numbers, and are refused. -/
theorem reads_beyond_grammar_iff (s : String) : ∃ cs, Blank.Trims cs s ∧
    ((∃ x, real? s = some x) ∧ ¬ Regular cs ↔
      (∃ a b ds, TwoSigns cs a b ds) ∨ ∃ ds, PlusBehindMark cs ds ∧ WithinWord ds) ∧
    ((∃ n, integer? s = some n) ∧ ¬ Regular cs ↔
      (∃ a b ds, TwoSigns cs a b ds ∧ (b = '-' ∨ RoundsBelow ds)) ∨
        ∃ ds, PlusBehindMark cs ds ∧ WithinWord ds) ∧
    (¬ Regular cs → (∀ a b ds, ¬ TwoSigns cs a b ds) → (∀ ds, ¬ PlusBehindMark cs ds) →
      integer? s = none ∧ real? s = none ∧ RefusedAsNumber s) := by
  refine ⟨Blank.trim s.toList, Blank.trims_iff.mpr rfl, real?_beyond_iff rfl,
    integer?_beyond_iff rfl, fun hnot htwo hplus => ?_⟩
  have hinteger : integer? s = none := by
    refine Option.eq_none_iff_forall_ne_some.mpr fun n hn => ?_
    rcases (integer?_beyond_iff rfl).mp ⟨⟨n, hn⟩, hnot⟩ with ⟨a, b, ds, h, -⟩ | ⟨ds, h, -⟩
    · exact htwo a b ds h
    · exact hplus ds h
  have hreal : real? s = none := by
    refine Option.eq_none_iff_forall_ne_some.mpr fun x hx => ?_
    rcases (real?_beyond_iff rfl).mp ⟨⟨x, hx⟩, hnot⟩ with ⟨a, b, ds, h⟩ | ⟨ds, h, -⟩
    · exact htwo a b ds h
    · exact hplus ds h
  exact ⟨hinteger, hreal, refusedAsNumber hinteger hreal⟩

/-- **The reader does not keep to the grammar.** It reads `--5` as `5`. -/
theorem not_forall_regular :
    ¬ ∀ (s : String) (n : ℤ) (cs : List Char), integer? s = some n → Blank.Trims cs s →
      Regular cs := by
  intro h
  have hread : integer? "--5" = some 5 := by decide
  have htrims : Blank.Trims ['-', '-', '5'] "--5" := Blank.trims_iff.mpr rfl
  have htwo : TwoSigns ['-', '-', '5'] '-' '-' ['5'] :=
    ⟨rfl, .inr rfl, .inr rfl, ['5'], [], rfl,
      .whole ⟨by simp, List.forall_mem_singleton.mpr rfl⟩, .absent⟩
  exact htwo.not_regular (h _ _ _ hread htrims)

end ForeignCall.Number.Numeral
