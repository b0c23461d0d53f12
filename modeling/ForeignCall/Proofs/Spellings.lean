import ForeignCall.Proofs.Defects
import ForeignCall.Proofs.Numerals

/-!
# Spellings of an integer

A script has many ways to write the same 64 bits: as an integer, as the decimal text of the integer,
as the decimal text of the same bits without a sign, or in hexadecimal digits. All of them make the
same argument, for every kind of integer and either signedness: the low bits of the kind's width,
and zeros above them. A plan does not tell which spelling it was made of.

The signedness of a kind is looked at when a slot is read. When a slot is written it matters for
numbers with a fraction alone, because those are clamped to a range that depends on it.

## Main definitions

* `Value.Spells` — the values that stand for 64 given bits
* `Token.carry` — the argument that carries the low ones of 64 bits

## Main results

* `Value.Spells.integerBits?_eq` — every spelling has the same bits, whichever signedness is asked
  for
* `marshal_set_pair` — a pair of a list can be replaced where it makes the same argument
* `marshal_spelling` — one integer marshals to the same bits, however it is spelled
-/

namespace ForeignCall

open Number (digits Numeral.integer? Numeral.integer?_decimal Numeral.integer?_negative
  Numeral.integer?_hexadecimal)

/-! ## Words of 64 bits -/

theorem toInt_toInt64 (w : UInt64) : w.toInt64.toInt = (w.toNat : ℤ).bmod (2 ^ 64) :=
  BitVec.toInt_eq_toNat_bmod _

/-- The integer that the bits stand for without a sign wraps around to the one with a sign. -/
theorem int64_ofInt_toNat (w : UInt64) : Int64.ofInt w.toNat = w.toInt64 := by
  apply Int64.toInt_inj.mp
  rw [Int64.toInt_ofInt, toInt_toInt64]
  rfl

/-- Wrapping around does not depend on the signedness. -/
theorem toInt64_ofInt (i : ℤ) : (UInt64.ofInt i).toInt64 = Int64.ofInt i := by
  apply Int64.toBitVec_inj.mp
  rw [Int64.toBitVec_ofInt]
  apply BitVec.eq_of_toNat_eq
  have hlt : i % 2 ^ 64 < 2 ^ 64 := Int.emod_lt_of_pos _ (by decide)
  simpa [BitVec.toNat_ofInt, UInt64.ofInt] using hlt

/-- With or without a sign, the low bits are the same. -/
theorem toInt64_emod (w : UInt64) {m : ℕ} (h : m ∣ 2 ^ 64) :
    w.toInt64.toInt % m = ((w.toNat % m : ℕ) : ℤ) := by
  have h' : (m : ℤ) ∣ ((2 ^ 64 : ℕ) : ℤ) := Int.natCast_dvd_natCast.mpr h
  calc w.toInt64.toInt % m
      = (w.toNat : ℤ).bmod (2 ^ 64) % ((2 ^ 64 : ℕ) : ℤ) % m := by
        rw [toInt_toInt64, Int.emod_emod_of_dvd _ h']
    _ = ((w.toNat % m : ℕ) : ℤ) := by
        rw [Int.bmod_emod, Int.emod_emod_of_dvd _ h', Int.natCast_mod]

theorem Kind.modulus_dvd (k : Kind) : k.modulus ∣ 2 ^ 64 :=
  pow_dvd_pow 2 k.width_le

/-! ## Spellings -/

/-- The values that stand for 64 bits. The texts may have blanks around them. -/
inductive Value.Spells (w : UInt64) : Value → Prop where
  | int : Spells w (.int w.toInt64)
  | signed {s : String} (h : Blank.Padded (Value.int w.toInt64).toText.toList s) :
      Spells w (.text s)
  | unsigned {s : String} (h : Blank.Padded (digits w.toNat) s) : Spells w (.text s)
  /-- The letters of the digits and of the mark in front of them are small or capital. -/
  | hexadecimal {s : String} {x : Char} {ds : List Char} (mark : x = 'x' ∨ x = 'X')
      (digits : ds.map Ascii.lower = Nat.toDigits 16 w.toNat)
      (h : Blank.Padded ('0' :: x :: ds) s) : Spells w (.text s)

/-- The text of an integer is its digits, with a minus in front of them or not. -/
theorem toList_intText (i : ℤ) :
    (Value.intText i).toList = '-' :: digits i.natAbs ∧ i = -(i.natAbs : ℤ) ∨
      (Value.intText i).toList = digits i.natAbs ∧ i = i.natAbs := by
  by_cases hneg : i < 0
  · exact .inl ⟨by simp [Value.intText, hneg], by omega⟩
  · exact .inr ⟨by simp [Value.intText, hneg], by omega⟩

/-- The text of an integer reads back. -/
theorem integer?_intText {i : ℤ} {s : String} (hi : i.natAbs < 2 ^ 64)
    (h : Blank.Padded (Value.intText i).toList s) : Numeral.integer? s = some i := by
  rcases toList_intText i with ⟨htext, hneg⟩ | ⟨htext, hpos⟩
  · rw [Numeral.integer?_negative hi (htext ▸ h), ← hneg]
  · rw [Numeral.integer?_decimal hi (htext ▸ h), ← hpos]

/-- A text has the same bits for either signedness. -/
theorem integerBits?_text (isUnsigned : Bool) (s : String) :
    integerBits? isUnsigned (.text s) = (Numeral.integer? s).map Int64.ofInt := by
  cases isUnsigned with
  | false => rfl
  | true =>
    simp only [integerBits?, Value.toUInt64?, if_true, Option.map_map]
    exact congrArg (Option.map · _) (funext toInt64_ofInt)

/-- **The signedness does not matter** for integers and texts. -/
theorem integerBits?_of_not_real {v : Value} (hv : ∀ x, v ≠ .real x) (isUnsigned : Bool) :
    integerBits? isUnsigned v = integerBits? false v := by
  cases v with
  | text s => rw [integerBits?_text, integerBits?_text]
  | int i => cases isUnsigned <;> rfl
  | real x => exact absurd rfl (hv x)

/-- **Every spelling has the same bits,** whichever signedness is asked for. -/
theorem Value.Spells.integerBits?_eq {w : UInt64} {v : Value} (h : v.Spells w)
    (isUnsigned : Bool) : integerBits? isUnsigned v = some w.toInt64 := by
  have hbits : ∀ {s : String} {i : ℤ}, Numeral.integer? s = some i → Int64.ofInt i = w.toInt64 →
      integerBits? isUnsigned (.text s) = some w.toInt64 := by
    intro s i hs hi
    rw [integerBits?_text, hs, ← hi]
    rfl
  cases h with
  | int => cases isUnsigned <;> rfl
  | signed h =>
    have hlow := w.toInt64.le_toInt
    have hhigh := w.toInt64.toInt_lt
    exact hbits (integer?_intText (by omega) h) (Int64.ofInt_toInt _)
  | unsigned h => exact hbits (Numeral.integer?_decimal w.toNat_lt h) (int64_ofInt_toNat w)
  | hexadecimal mark digits h =>
    exact hbits (Numeral.integer?_hexadecimal w.toNat_lt mark digits h) (int64_ofInt_toNat w)

/-! ## Arguments -/

/-- The argument that carries the low ones of 64 bits, as many as its kind has. -/
def Token.carry (token : Token) (w : UInt64) : Argument :=
  { token, slot := UInt64.ofNat (w.toNat % 2 ^ token.kind.width) }

theorem toNat_slot_carry (token : Token) (w : UInt64) :
    (token.carry w).slot.toNat = w.toNat % 2 ^ token.kind.width := by
  have hlt : w.toNat % 2 ^ token.kind.width < 2 ^ 64 :=
    lt_of_le_of_lt (Nat.mod_le _ _) w.toNat_lt
  rw [Token.carry, UInt64.toNat_ofNat', Nat.mod_eq_of_lt hlt]

theorem toNat_slot_carry_signed (token : Token) (w : UInt64) :
    ((token.carry w).slot.toNat : ℤ) = w.toInt64.toInt % 2 ^ token.kind.width := by
  rw [toNat_slot_carry]
  exact_mod_cast (toInt64_emod w token.kind.modulus_dvd).symm

/-- A stored integer is the low bits of its word. -/
theorem storeInt_toInt64 (token : Token) (w : UInt64) :
    Argument.storeInt { token } w.toInt64 = token.carry w := by
  have hslot : Slot.ofInt token.kind w.toInt64 = (token.carry w).slot := by
    apply UInt64.toNat_inj.mp
    apply Int.ofNat_inj.mp
    rw [Slot.toNat_ofInt, toNat_slot_carry_signed]
    exact_mod_cast rfl
  rw [Argument.storeInt, hslot]
  rfl

variable {site : Site} {index : ℕ} {operands : List Operand} {t t' o o' : Operand} {token : Token}

/-- An argument of a kind of integers holds the bits of its value. -/
theorem fillArgument_of_isInteger (hk : token.kind.isInteger = true) :
    fillArgument site index token o = match integerBits? token.isUnsigned o.value with
      | some i => .ok (Argument.storeInt { token } i)
      | none => .error (.malformedNumber index o.value.toText) := by
  simp only [fillArgument, Argument.fill]
  split
  · next h => exact absurd hk (by simp [h, Kind.isInteger])
  iterate 2
    · next h => exact absurd hk (by simp [h, Kind.isInteger])
  all_goals rfl

theorem fillArgument_of_spells {w : UInt64} (hk : token.kind.isInteger = true)
    (ho : o.value.Spells w) : fillArgument site index token o = .ok (token.carry w) := by
  rw [fillArgument_of_isInteger hk, ho.integerBits?_eq]
  exact congrArg Except.ok (storeInt_toInt64 token w)

/-- Another signedness makes the same argument, but for the signedness. -/
theorem fillArgument_setSignedness (ho : ∀ x, o.value ≠ .real x) (isUnsigned : Bool) :
    fillArgument site index { token with isUnsigned } o =
      (fillArgument site index token o).map fun a => { a with token.isUnsigned := isUnsigned } := by
  by_cases hk : token.kind.isInteger = true
  · rw [fillArgument_of_isInteger hk, @fillArgument_of_isInteger _ _ _ { token with isUnsigned } hk,
      integerBits?_of_not_real ho isUnsigned, integerBits?_of_not_real ho token.isUnsigned]
    cases integerBits? false o.value <;> rfl
  · obtain ⟨kind, isUnsigned', byAddress⟩ := token
    cases kind with
    | int8 | int16 | int32 | int64 => exact absurd rfl hk
    | text =>
      simp only [fillArgument, Argument.fill]
      cases textBuffer? (site.buffer index) o <;> rfl
    | single | double =>
      simp only [fillArgument, Argument.fill]
      cases o.value.toDouble? <;> rfl

/-! ## Replacing a pair -/

/-- Only the argument of the pair changes. -/
theorem marshalPairs_set_pair {f : Argument → Argument} {i : ℕ} (h : PairAt operands i t o)
    (hpair : pairArgument site (index + i) t' o' = (pairArgument site (index + i) t o).map f) :
    (marshalPairs site index ((operands.set (2 * i) t').set (2 * i + 1) o')).2 =
      (marshalPairs site index operands).2.map (·.modify i f) := by
  induction i generalizing index operands with
  | zero =>
    match operands with
    | [] => exact absurd h.type (by simp)
    | [_] => exact absurd h.value (by simp)
    | t₀ :: o₀ :: rest =>
      obtain ⟨rfl, rfl⟩ := (pairAt_zero t₀ o₀ rest).unique h
      rw [Nat.add_zero] at hpair
      have hset : ((t :: o :: rest).set (2 * 0) t').set (2 * 0 + 1) o' = t' :: o' :: rest := rfl
      rw [hset, marshalPairs_cons, marshalPairs_cons, hpair]
      cases pairArgument site index t o with
      | error e => rfl
      | ok a =>
        simp only [Except.map, Except.bind]
        cases (marshalPairs site (index + 1) rest).2 <;> rfl
  | succ i ih =>
    match operands with
    | [] => exact absurd h.type (by simp)
    | [_] => exact absurd h.value (by simp)
    | t₀ :: o₀ :: rest =>
      have hset : ((t₀ :: o₀ :: rest).set (2 * (i + 1)) t').set (2 * (i + 1) + 1) o' =
          t₀ :: o₀ :: (rest.set (2 * i) t').set (2 * i + 1) o' := rfl
      rw [← Nat.add_assoc, Nat.add_right_comm] at hpair
      have hrest := ih (pairAt_succ_iff.mp h) hpair
      rw [hset, marshalPairs_cons, marshalPairs_cons, hrest]
      cases pairArgument site index t₀ o₀ with
      | error e => rfl
      | ok a =>
        simp only [Except.bind]
        cases (marshalPairs site (index + 1) rest).2 <;> rfl

theorem splitResult_set {j : ℕ} (hj : j < 2 * (operands.length / 2)) (x : Operand) :
    splitResult (operands.set j x) =
      ((splitResult operands).1.set j x, (splitResult operands).2) := by
  refine Prod.ext ?_ ?_
  · simp only [splitResult_fst_eq_take, List.length_set, List.take_set]
  · simp only [splitResult_snd, List.length_set, List.getLast?_eq_getElem?]
    split
    · rw [List.getElem?_set_ne (by omega)]
    · rfl

/-- **A pair of a list can be replaced.** Where the new pair makes another argument, the plan has
that one; errors stay what they are. -/
theorem marshal_set_pair {f : Argument → Argument} {i : ℕ} (h : PairAt operands i t o)
    (hpair : pairArgument site i t' o' = (pairArgument site i t o).map f) :
    (marshal site ((operands.set (2 * i) t').set (2 * i + 1) o')).2 =
      (marshal site operands).2.map fun p => { p with arguments := p.arguments.modify i f } := by
  have hlt := (List.getElem?_eq_some_iff.mp h.value).1
  have hsplit : splitResult ((operands.set (2 * i) t').set (2 * i + 1) o') =
      (((splitResult operands).1.set (2 * i) t').set (2 * i + 1) o', (splitResult operands).2) := by
    rw [splitResult_set (by simp only [List.length_set]; omega), splitResult_set (by omega)]
  rw [← Nat.zero_add i] at hpair
  have hpairs := marshalPairs_set_pair (pairAt_splitResult_iff.mpr h) hpair
  cases hresult : resultToken (splitResult operands).2 with
  | error e =>
    rw [marshal_of_result_error hresult, marshal_of_result_error (by rw [hsplit]; exact hresult)]
    rfl
  | ok r =>
    rw [marshal_of_result_ok hresult, marshal_of_result_ok (by rw [hsplit]; exact hresult), hsplit]
    simp only [hpairs]
    cases (marshalPairs site 0 (splitResult operands).1).2 <;> rfl

theorem set_of_getElem?_eq_some {l : List Operand} {j : ℕ} {x : Operand} (h : l[j]? = some x) :
    l.set j x = l := by
  obtain ⟨hj, rfl⟩ := List.getElem?_eq_some_iff.mp h
  exact List.set_getElem_self hj

/-- Another value that makes the same argument makes the same plan. -/
theorem marshal_set_value {i : ℕ} (h : PairAt operands i t o)
    (hpair : pairArgument site i t o' = pairArgument site i t o) :
    (marshal site (operands.set (2 * i + 1) o')).2 = (marshal site operands).2 := by
  have hid : pairArgument site i t o' = (pairArgument site i t o).map id := by
    rw [hpair]
    cases pairArgument site i t o <;> rfl
  have hset := marshal_set_pair h hid
  rw [set_of_getElem?_eq_some h.type] at hset
  rw [hset]
  cases (marshal site operands).2 <;> simp [Except.map]

/-- Another type in front of a value changes its argument alone. -/
theorem marshal_set_type {f : Argument → Argument} {i : ℕ} (h : PairAt operands i t o)
    (hpair : pairArgument site i t' o = (pairArgument site i t o).map f) :
    (marshal site (operands.set (2 * i) t')).2 =
      (marshal site operands).2.map fun p => { p with arguments := p.arguments.modify i f } := by
  have hvalue : (operands.set (2 * i) t')[2 * i + 1]? = some o := by
    rw [List.getElem?_set_ne (by omega), h.value]
  have hset := marshal_set_pair h hpair
  rwa [set_of_getElem?_eq_some hvalue] at hset

/-- **One integer marshals to the same bits, however it is spelled.** For every word of 64 bits,
every kind of integers and either signedness, each spelling makes the argument that carries the low
bits of the word: in any pair, at any position of a list that marshals. They are the low bits of the
word with a sign as much as of the one without. So one spelling can be replaced by another one
wherever it stands, and a declaration by one of the other signedness in front of an integer or a
text. -/
theorem marshal_spelling (site : Site) {w : UInt64} (ht : Token.parse t.text = .ok token)
    (hk : token.kind.isInteger = true) (ho : o.value.Spells w) :
    ((token.carry w).slot.toNat = w.toNat % 2 ^ token.kind.width ∧
      ((token.carry w).slot.toNat : ℤ) = w.toInt64.toInt % 2 ^ token.kind.width) ∧
    (∀ index, fillArgument site index token o = .ok (token.carry w)) ∧
    (∀ operands i p, PairAt operands i t o → (marshal site operands).2 = .ok p →
      p.arguments[i]? = some (token.carry w)) ∧
    (∀ operands i o', PairAt operands i t o → o'.value.Spells w →
      (marshal site (operands.set (2 * i + 1) o')).2 = (marshal site operands).2) ∧
    ∀ operands i t₁ t₂ x isUnsigned token', PairAt operands i t₁ x → (∀ y, x.value ≠ .real y) →
      Token.parse t₁.text = .ok token' → Token.parse t₂.text = .ok { token' with isUnsigned } →
      (marshal site (operands.set (2 * i) t₂)).2 = (marshal site operands).2.map fun p =>
        { p with arguments := p.arguments.modify i fun a =>
            { a with token.isUnsigned := isUnsigned } } := by
  refine ⟨⟨toNat_slot_carry token w, toNat_slot_carry_signed token w⟩,
    fun index => fillArgument_of_spells hk ho, fun operands i p hpair hp => ?_,
    fun operands i o' hpair ho' => ?_,
    fun operands i t₁ t₂ x isUnsigned token' hpair hx ht₁ ht₂ => ?_⟩
  · have hi : i < p.arguments.length := by
      have := (List.getElem?_eq_some_iff.mp hpair.value).1
      rw [length_arguments_of_marshal hp]
      omega
    have ha := List.getElem?_eq_getElem hi
    obtain ⟨t', o', ht', ho', hparse, hfill⟩ := getElem?_arguments_of_marshal hp ha
    obtain ⟨rfl, rfl⟩ := hpair.unique ⟨ht', ho'⟩
    have htoken := Except.ok.inj (ht.symm.trans hparse)
    rw [← htoken, fillArgument_of_spells hk ho] at hfill
    rw [ha, ← Except.ok.inj hfill]
  · refine marshal_set_value hpair ?_
    rw [pairArgument_of_parse ht, pairArgument_of_parse ht, fillArgument_of_spells hk ho,
      fillArgument_of_spells hk ho']
  · refine marshal_set_type hpair ?_
    rw [pairArgument_of_parse ht₁, pairArgument_of_parse ht₂, fillArgument_setSignedness hx]

/-- The bits of `-1`, in hexadecimal digits of either case between blanks. -/
def minusOneText : String := "\t0XFFffFFffFFffFFff "

theorem spells_minusOneText : Value.Spells (-1) (.text minusOneText) := by
  have hdigits : "FFffFFffFFffFFff".toList.map Ascii.lower =
      Nat.toDigits 16 (-1 : UInt64).toNat := by decide
  refine .hexadecimal (.inr rfl) hdigits ⟨['\t'], [' '], rfl, ?_, ?_⟩
  · exact List.forall_mem_singleton.mpr rfl
  · exact List.forall_mem_singleton.mpr rfl

/-- A list that hands `-1` over as an unsigned `Short`. -/
def shortMinusOne : List Operand := [.literal (.text "UShort"), .literal (.int (-1))]

/-- The lowest 16 bits of `-1` are passed on, also when a variable holds them in hexadecimal
digits. -/
theorem marshal_spelling_minusOne :
    fillArgument {} 0 ⟨.int16, true, false⟩ (.literal (.int (-1))) =
      .ok { token := ⟨.int16, true, false⟩, slot := 0xFFFF } ∧
    (marshal {} (shortMinusOne.set 1 (.variable (.ofValue "bits" (.text minusOneText))))).2 =
      (marshal {} shortMinusOne).2 := by
  have ht : Token.parse (Operand.literal (.text "UShort")).text = .ok ⟨.int16, true, false⟩ := rfl
  have ho : (Operand.literal (.int (-1))).value.Spells (-1) := .int
  obtain ⟨-, hfill, -, hset, -⟩ := marshal_spelling {} ht rfl ho
  exact ⟨hfill 0, hset shortMinusOne 0 _ ⟨rfl, rfl⟩ spells_minusOneText⟩

end ForeignCall
