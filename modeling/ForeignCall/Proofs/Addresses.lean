import ForeignCall.CommandLine
import ForeignCall.Loader
import ForeignCall.Proofs.ReferenceGrammar
import ForeignCall.Proofs.Spellings

/-!
# Spellings of an address

A function can be passed by its address: as an integer, or as a text that is read as one. An integer
is taken as its 64 bits directly. A text goes through the grammar of function texts, the reader of
integers, and a reduction modulo `2 ^ 64`. All spellings of the same 64 bits come out at the same
place, which is the address, or a refusal that shows the spelling when the address is null.

On the command line there are texts only, and a word that starts like a number is an operand there
and no option. So an address on the command line is what it is in a program.

## Main definitions

* `Reference.Numeric` — a text without blanks that is read as an integer, and as nothing else
* `Value.addressSpellings` — an address as an integer, in decimal digits and in hexadecimal ones

## Main results

* `Reference.ofValue_of_spells` — all spellings of 64 bits are the same reference
* `CommandLine.parse_cons_of_isNumberWord` — a word that is a number is an operand
* `address_spelling` — both together
-/

namespace ForeignCall

open Number (digits Numeral.integer? Numeral.integer?_decimal Numeral.integer?_negative
  Numeral.integer?_hexadecimal)

theorem uint64_ofInt_eq_iff {i : ℤ} {w : UInt64} :
    UInt64.ofInt i = w ↔ Int64.ofInt i = w.toInt64 := by
  rw [← toInt64_ofInt]
  constructor
  · rintro rfl
    rfl
  · intro h
    rw [← UInt64.toUInt64_toInt64 (UInt64.ofInt i), h, UInt64.toUInt64_toInt64]

/-- The addresses that are null when they are reduced to 64 bits. -/
theorem uint64_ofInt_eq_zero_iff {i : ℤ} : UInt64.ofInt i = 0 ↔ (2 ^ 64 : ℤ) ∣ i := by
  have hlow : 0 ≤ i % 2 ^ 64 := Int.emod_nonneg _ (by decide)
  have hhigh : i % 2 ^ 64 < 2 ^ 64 := Int.emod_lt_of_pos _ (by decide)
  rw [← UInt64.toNat_inj, UInt64.ofInt, UInt64.toNat_ofNat', Int.dvd_iff_emod_eq_zero]
  have hsmall : (i % 2 ^ 64).toNat < 2 ^ 64 := by omega
  rw [Nat.mod_eq_of_lt hsmall, UInt64.toNat_zero]
  omega

/-! ## Texts of numbers -/

/-- The digits of a number start with a digit. -/
theorem exists_cons_digits (n : ℕ) : ∃ c cs, digits n = c :: cs ∧ c.isDigit = true := by
  obtain ⟨c, cs, hcs⟩ := List.exists_cons_of_ne_nil (Number.digits_ne_nil n)
  exact ⟨c, cs, hcs, Number.isDigit_of_mem_digits (hcs ▸ List.mem_cons_self ..)⟩

namespace Reference

/-- A text without blanks that is read as an integer, and in which nothing makes it a symbol. -/
structure Numeric (cs : List Char) (i : ℤ) : Prop where
  visible : ∀ c ∈ cs, c ≠ '\\' ∧ Blank.isBlank c = false
  number : StartsNumber cs
  read : Numeral.integer? (String.ofList cs) = some i

variable {cs ds : List Char} {i : ℤ} {s : String} {n : ℕ}

theorem padded_ofList (cs : List Char) : Blank.Padded cs (String.ofList cs) := by
  simpa using Blank.Padded.self (String.ofList cs)

namespace Numeric

theorem ne_nil (h : Numeric cs i) : cs ≠ [] := by
  rintro rfl
  obtain ⟨c, hc, -⟩ := h.number
  exact absurd hc (by simp)

theorem trims (h : Numeric cs i) (hs : Blank.Padded cs s) : Blank.Trims cs s :=
  Blank.trims_iff.mpr (hs.trim_eq (fun c hc => (h.visible c hc).2) h.ne_nil).symm

/-- **A number is an address**, or refused where it is zero. -/
theorem ofValue_eq (h : Numeric cs i) (hs : Blank.Padded cs s) : ofValue (.text s) =
    if i = 0 then .error ⟨String.ofList cs⟩ else .ok (.address (UInt64.ofInt i)) := by
  have hplain : '\\' ∉ cs := fun hc => (h.visible _ hc).1 rfl
  rw [ofValue_text_eq_iff (h.trims hs)]
  split
  · next hi => exact .nowhere hplain h.number (.inr (hi ▸ h.read))
  · next hi => exact .address hplain h.number h.read hi

/-- Decimal digits are a number. -/
theorem decimal (hn : n < 2 ^ 64) : Numeric (digits n) n where
  visible c hc := by
    refine ⟨?_, Number.isBlank_of_mem_digits hc⟩
    rintro rfl
    exact absurd (Number.isDigit_of_mem_digits hc) (by decide)
  number := by
    obtain ⟨c, cs, hcs, hc⟩ := exists_cons_digits n
    exact ⟨c, by rw [hcs]; rfl, .inl hc⟩
  read := Numeral.integer?_decimal hn (padded_ofList _)

theorem negative (hn : n < 2 ^ 64) : Numeric ('-' :: digits n) (-n) where
  visible := List.forall_mem_cons.mpr ⟨by decide, (decimal hn).visible⟩
  number := ⟨'-', rfl, .inr (.inl rfl)⟩
  read := Numeral.integer?_negative hn (padded_ofList _)

theorem hexadecimal {x : Char} (hn : n < 2 ^ 64) (hx : x = 'x' ∨ x = 'X')
    (hds : ds.map Ascii.lower = Nat.toDigits 16 n) : Numeric ('0' :: x :: ds) n where
  visible := by
    simp only [List.forall_mem_cons]
    refine ⟨by decide, by rcases hx with rfl | rfl <;> decide, fun c hc => ?_⟩
    obtain ⟨d, hd⟩ := Number.Numeral.hexDigit?_of_mem
      (Number.Numeral.ofHexDigits?_of_map_lower hds) hc
    refine ⟨?_, ?_⟩
    · rintro rfl
      have hnone : Number.Numeral.hexDigit? '\\' = none := by decide
      exact absurd (hnone.symm.trans hd) (by simp)
    · have := Number.Numeral.toNat_of_hexDigit? hd
      exact Blank.isBlank_of_visible (by omega) (by omega)
  number := ⟨'0', rfl, .inl rfl⟩
  read := Numeral.integer?_hexadecimal hn hx hds (padded_ofList _)

/-- The text of an integer is a number. -/
theorem intText (hi : i.natAbs < 2 ^ 64) : Numeric (Value.intText i).toList i := by
  rcases toList_intText i with ⟨htext, hneg⟩ | ⟨htext, hpos⟩
  · have hnumeric := negative hi
    rwa [← htext, ← hneg] at hnumeric
  · have hnumeric := decimal hi
    rwa [← htext, ← hpos] at hnumeric

end Numeric

/-! ## Spellings -/

/-- Every spelling of 64 bits as a text is a number, which is null only if the bits are. -/
theorem exists_numeric {w : UInt64} (h : (Value.text s).Spells w) : ∃ cs i,
    Numeric cs i ∧ Blank.Padded cs s ∧ UInt64.ofInt i = w ∧ i.natAbs < 2 ^ 64 := by
  have hword : UInt64.ofInt w.toNat = w := uint64_ofInt_eq_iff.mpr (int64_ofInt_toNat w)
  have hlt := w.toNat_lt
  cases h with
  | signed h =>
    have hlow := w.toInt64.le_toInt
    have hhigh := w.toInt64.toInt_lt
    exact ⟨_, w.toInt64.toInt, .intText (by omega), h,
      uint64_ofInt_eq_iff.mpr (Int64.ofInt_toInt _), by omega⟩
  | unsigned h => exact ⟨_, _, .decimal hlt, h, hword, by omega⟩
  | hexadecimal mark digits h => exact ⟨_, _, .hexadecimal hlt mark digits, h, hword, by omega⟩

/-- **All spellings of 64 bits are the same reference**, unless they are null. -/
theorem ofValue_of_spells {v : Value} {w : UInt64} (h : v.Spells w) :
    ofValue v = if w = 0 then .error ⟨Blank.strip v.toText⟩ else .ok (.address w) := by
  cases v with
  | int i =>
    cases h
    by_cases hw : w = 0
    · subst hw
      rfl
    · have hi : w.toInt64 ≠ 0 := by
        intro hi
        have hnull := UInt64.toUInt64_toInt64 w
        rw [hi] at hnull
        exact hw hnull.symm
      rw [ofValue, if_neg hi, if_neg hw, UInt64.toUInt64_toInt64]
  | real x => cases h
  | text s =>
    obtain ⟨cs, i, hnumeric, hs, rfl, hi⟩ := exists_numeric h
    have hnull : i = 0 ↔ UInt64.ofInt i = 0 := by
      rw [uint64_ofInt_eq_zero_iff]
      omega
    have hstrip : Blank.strip (Value.text s).toText = String.ofList cs := by
      rw [Blank.trims_iff.mp (hnumeric.trims hs)]
      rfl
    rw [hnumeric.ofValue_eq hs, hstrip]
    exact if_congr hnull rfl rfl

end Reference

/-! ## The command line -/

/-- A word that starts with a digit, with a minus in front of it or not. -/
def IsNumberWord (cs : List Char) : Prop :=
  ∃ c rest, (cs = c :: rest ∨ cs = '-' :: c :: rest) ∧ c.isDigit = true

namespace CommandLine

variable {s : String}

/-- A word that is no option ends the options. -/
theorem parseFrom_cons_of_not_isOption (hoption : isOption s = false) (hs : s ≠ "-h")
    (c : CommandLine) (args : List String) : parseFrom c (s :: args) = c.withWords (s :: args) := by
  have hne : ∀ name, isOption name = true → s ≠ name := by
    rintro name hname rfl
    exact absurd (hoption.symm.trans hname) Bool.false_ne_true
  unfold parseFrom
  rw [if_neg (not_or.mpr ⟨hs, hne "--help" (by decide)⟩),
    if_neg (hne "--json" (by decide)), if_neg (hne "--log-json" (by decide)),
    if_neg (hne "--config" (by decide)), if_neg (hne "--log-level" (by decide)),
    if_neg (hne "--" (by decide)), hoption, if_neg Bool.false_ne_true]

/-- A number is no option and no variable. -/
theorem literal_of_isNumberWord (h : IsNumberWord s.toList) :
    isOption s = false ∧ s ≠ "-h" ∧ Word.parse s = .ok (.literal s) := by
  obtain ⟨c, rest, hs, hc⟩ := h
  have hne : ∀ d, d.isDigit = false → c ≠ d := by
    rintro d hd rfl
    exact absurd (hd.symm.trans hc) Bool.false_ne_true
  have hminus := hne '-' (by decide)
  refine ⟨?_, ?_, Word.parse_literal ?_⟩
  · rw [isOption]
    split
    · next rest' htext =>
      rw [htext] at hs
      rcases hs with hs | hs
      · exact absurd (List.cons.inj hs).1.symm hminus
      · exact absurd (List.cons.inj (List.cons.inj hs).2).1.symm hminus
    · rfl
  · rintro rfl
    rcases hs with hs | hs
    · exact absurd (List.cons.inj hs).1.symm hminus
    · exact absurd (List.cons.inj (List.cons.inj hs).2).1.symm (hne 'h' (by decide))
  · rcases hs with hs | hs <;> rw [hs]
    · exact fun hc => hne '$' (by decide) (Option.some.inj hc)
    · simp

/-- **A number in front is an operand**, and all words behind it are operands too. -/
theorem parse_cons_of_isNumberWord (h : IsNumberWord s.toList) (args : List String) :
    parse (s :: args) = (args.mapM Word.parse).map fun words =>
      { words := .literal s :: words } := by
  obtain ⟨hoption, hs, hword⟩ := literal_of_isNumberWord h
  rw [parse, parseFrom_cons_of_not_isOption hoption hs, withWords, List.mapM_cons, hword]
  cases args.mapM Word.parse <;> rfl

end CommandLine

theorem isNumberWord_digits (n : ℕ) : IsNumberWord (digits n) := by
  obtain ⟨c, cs, hcs, hc⟩ := exists_cons_digits n
  exact ⟨c, cs, .inl hcs, hc⟩

theorem isNumberWord_intText (i : ℤ) : IsNumberWord (Value.intText i).toList := by
  obtain ⟨c, cs, hcs, hc⟩ := exists_cons_digits i.natAbs
  rcases toList_intText i with ⟨htext, -⟩ | ⟨htext, -⟩
  · exact ⟨c, cs, .inr (htext.trans (congrArg _ hcs)), hc⟩
  · exact ⟨c, cs, .inl (htext.trans hcs), hc⟩

/-! ## Addresses -/

/-- Hexadecimal digits are written in small letters. -/
theorem map_lower_toDigits (n : ℕ) : (Nat.toDigits 16 n).map Ascii.lower = Nat.toDigits 16 n := by
  have hlower : ∀ d < 16, Ascii.lower d.digitChar = d.digitChar := by decide
  induction n using Nat.strong_induction_on with
  | _ n ih =>
    rw [Nat.toDigits_eq_if (by decide)]
    split
    · next h => rw [List.map_singleton, hlower n h]
    · next h =>
      rw [List.map_append, ih _ (by omega), List.map_singleton, hlower _ (Nat.mod_lt _ (by decide))]

namespace Value

/-- An address as an integer, as the text of the integer, in decimal digits without a sign, and in
hexadecimal digits. -/
def addressSpellings (a : Int64) : List Value :=
  [.int a, .text (intText a.toInt), .text (String.ofList (digits a.toUInt64.toNat)),
    .text (String.ofList ('0' :: 'x' :: Nat.toDigits 16 a.toUInt64.toNat))]

variable {a : Int64} {v : Value}

theorem spells_of_mem (h : v ∈ addressSpellings a) : v.Spells a.toUInt64 := by
  have ha : a.toUInt64.toInt64 = a := Int64.toInt64_toUInt64 a
  simp only [addressSpellings, List.mem_cons, List.not_mem_nil, or_false] at h
  rcases h with rfl | rfl | rfl | rfl
  · have hint := Spells.int (w := a.toUInt64)
    rwa [ha] at hint
  · exact .signed ⟨[], [], by simp [ha, toText], by simp, by simp⟩
  · exact .unsigned (Reference.padded_ofList _)
  · exact .hexadecimal (.inl rfl) (map_lower_toDigits _) (Reference.padded_ofList _)

/-- The text of a spelling is a spelling, without blanks around it. -/
theorem text_mem_of_mem (h : v ∈ addressSpellings a) :
    .text v.toText ∈ addressSpellings a ∧ IsNumberWord v.toText.toList ∧
      Blank.strip v.toText = v.toText := by
  have hstrip : ∀ {cs i}, Reference.Numeric cs i →
      Blank.strip (String.ofList cs) = String.ofList cs := by
    intro cs i hnumeric
    rw [Blank.strip, ← Blank.trims_iff.mp (hnumeric.trims (Reference.padded_ofList cs))]
  have hlt := a.toUInt64.toNat_lt
  have hlow := a.le_toInt
  have hhigh := a.toInt_lt
  have hint := hstrip (.intText (i := a.toInt) (by omega))
  rw [String.ofList_toList] at hint
  simp only [addressSpellings, List.mem_cons, List.not_mem_nil, or_false] at h ⊢
  rcases h with rfl | rfl | rfl | rfl
  · exact ⟨.inr (.inl rfl), isNumberWord_intText _, hint⟩
  · exact ⟨.inr (.inl rfl), isNumberWord_intText _, hint⟩
  · refine ⟨.inr (.inr (.inl rfl)), ?_, hstrip (.decimal hlt)⟩
    rw [toText_text, String.toList_ofList]
    exact isNumberWord_digits _
  · refine ⟨.inr (.inr (.inr rfl)), ⟨'0', 'x' :: Nat.toDigits 16 a.toUInt64.toNat, .inl ?_, rfl⟩,
      hstrip (.hexadecimal hlt (.inl rfl) (map_lower_toDigits _))⟩
    rw [toText_text, String.toList_ofList]

end Value

/-- An address is the same however it is spelled. -/
structure SpelledAlike (a : Int64) : Prop where
  /-- All spellings are the address, or are refused and shown as they are. -/
  plain : ∀ v ∈ Value.addressSpellings a, Reference.ofValue v =
    if a = 0 then .error ⟨v.toText⟩ else .ok (.address a.toUInt64)
  /-- So are those with blanks around them or capital letters in them. -/
  padded : ∀ v, v.Spells a.toUInt64 → Reference.ofValue v =
    if a = 0 then .error ⟨Blank.strip v.toText⟩ else .ok (.address a.toUInt64)
  /-- A loader finds the address, and has nothing to do for it. -/
  resolved : a ≠ 0 → ∀ v, v.Spells a.toUInt64 → ∀ (w : Libraries) (l : Loader),
    l.resolveValue w v = (l, [], .ok a.toUInt64)
  /-- On the command line the text of a spelling is the function operand, and finds the same. -/
  commandLine : ∀ v ∈ Value.addressSpellings a, ∀ args : List String,
    (CommandLine.parse (v.toText :: args)).map CommandLine.operands =
        (args.mapM Word.parse).map (fun words =>
          .literal (.text v.toText) :: words.map Word.operand) ∧
      .text v.toText ∈ Value.addressSpellings a

/-- **An address means the same however it is spelled.** -/
theorem address_spelling (a : Int64) : SpelledAlike a := by
  have hnull : a.toUInt64 = 0 ↔ a = 0 := by
    constructor
    · intro h
      rw [← Int64.toInt64_toUInt64 a, h]
      rfl
    · rintro rfl
      rfl
  have hpadded : ∀ v : Value, v.Spells a.toUInt64 → Reference.ofValue v =
      if a = 0 then .error ⟨Blank.strip v.toText⟩ else .ok (.address a.toUInt64) := by
    intro v hv
    rw [Reference.ofValue_of_spells hv]
    exact if_congr hnull rfl rfl
  refine ⟨fun v hv => ?_, hpadded, fun ha v hv w l => ?_, fun v hv args => ?_⟩
  · rw [hpadded v (Value.spells_of_mem hv), (Value.text_mem_of_mem hv).2.2]
  · rw [Loader.resolveValue, hpadded v hv, if_neg ha]
    simp only [Loader.resolve]
    rw [if_neg (hnull.not.mpr ha)]
  · obtain ⟨hmem, hword, -⟩ := Value.text_mem_of_mem hv
    refine ⟨?_, hmem⟩
    rw [CommandLine.parse_cons_of_isNumberWord hword]
    cases args.mapM Word.parse <;> rfl

/-- The null address in hexadecimal digits is refused as it is spelled, and any other address is
taken where the number of its bits is read in capital digits. -/
theorem address_spelling_minusOne :
    Reference.ofValue (.text "0x0") = .error ⟨"0x0"⟩ ∧
    Reference.ofValue (.text minusOneText) = .ok (.address 0xFFFFFFFFFFFFFFFF) :=
  ⟨(address_spelling 0).plain (.text "0x0") (by decide),
    (address_spelling (-1)).padded _ spells_minusOneText⟩

end ForeignCall
