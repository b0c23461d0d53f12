import ForeignCall.Proofs.Outputs
import ForeignCall.Proofs.Slots

/-!
# Integers that are passed again

An integer that native code left in a slot comes back in a variable, and the script may pass that
variable on. What is sent then is what was left there, as far as the width of the type goes. For
this, writing a slot and reading it have to be inverse to each other in both orders: a stored
integer is read as the one of the type with its low bits, and an integer that was read from a slot
puts the low bits of that slot back, whatever stood above them.

The script holds an integer with its sign. The one type that is too large for this is the unsigned
one of 64 bits, whose integers are held as the signed ones of the same bits. `Token.meaning` undoes
this; with it the statement about reading is the same for all types.

## Main definitions

* `Token.meaning` — the integer of a type that an integer of the script stands for
* `Operand.Passes` — an operand that passes a value on, as it is or as its text

## Main results

* `Slot.meaning_toInt_ofInt` — a stored integer is read as its representative
* `Slot.toNat_ofInt_toInt` — what was read puts the low bits of the slot back
* `fillArgument_of_passes` — what was read is passed on as those low bits
* `Argument.integer_inverse` — all of this for an argument, a call and the calls that follow
-/

namespace ForeignCall

/-! ## Reading and writing -/

/-- The integer of a type that an integer of the script stands for. It is the integer itself, unless
the type has 64 bits and no sign. -/
def Token.meaning (t : Token) (i : Int64) : ℤ :=
  if t.isUnsigned = true ∧ t.kind.width = 64 then i.toUInt64.toNat else i.toInt

/-- The integers of a type are within the range of the script, with the one exception. -/
theorem Token.InRange.bounds {t : Token} {i : ℤ} (h : t.InRange i)
    (ht : ¬ (t.isUnsigned = true ∧ t.kind.width = 64)) : -2 ^ 63 ≤ i ∧ i < 2 ^ 63 := by
  rw [Token.InRange] at h
  split at h
  · next hu =>
    have hwidth : t.kind.width ≤ 63 := by
      have hle := t.kind.width_le
      have hne : t.kind.width ≠ 64 := fun hw => ht ⟨hu, hw⟩
      omega
    have hpow : (2 : ℤ) ^ t.kind.width ≤ 2 ^ 63 := pow_le_pow_right₀ (by norm_num) hwidth
    omega
  · have hwidth : t.kind.width - 1 ≤ 63 := by
      have hle := t.kind.width_le
      omega
    have hpow : (2 : ℤ) ^ (t.kind.width - 1) ≤ 2 ^ 63 := pow_le_pow_right₀ (by norm_num) hwidth
    omega

/-- An integer of a type is what the script's integer of the same bits stands for. -/
theorem Token.meaning_ofInt {t : Token} {i : ℤ} (h : t.InRange i) :
    t.meaning (Int64.ofInt i) = i := by
  rw [meaning]
  split
  · next ht =>
    have hrange := h
    rw [InRange, if_pos ht.1, ht.2] at hrange
    have hword : (Int64.ofInt i).toUInt64 = UInt64.ofInt i := by
      rw [← toInt64_ofInt, UInt64.toUInt64_toInt64]
    rw [hword, UInt64.ofInt, UInt64.toNat_ofNat']
    omega
  · next ht =>
    obtain ⟨hlow, hhigh⟩ := h.bounds ht
    exact Int64.toInt_ofInt_of_le hlow hhigh

/-- The representative of an integer is the only integer of the type with the same low bits. -/
theorem Token.representative_eq_iff {t : Token} {i j : ℤ} (hi : t.InRange i) :
    t.representative j = i ↔ i ≡ j [ZMOD t.kind.modulus] := by
  have hlow := t.representative_modEq j
  exact ⟨fun h => h ▸ hlow,
    fun h => (t.representative_inRange j).eq_of_modEq hi (hlow.trans h.symm)⟩

/-- Integers of the script that agree in all their bits are the same. -/
theorem int64_eq_of_emod {v w : Int64} (h : v.toInt % 2 ^ 64 = w.toInt % 2 ^ 64) : v = w := by
  have hv := v.le_toInt
  have hv' := v.toInt_lt
  have hw := w.le_toInt
  have hw' := w.toInt_lt
  exact Int64.toInt_inj.mp (by omega)

namespace Slot

/-- **A stored integer is read as its representative.** -/
theorem meaning_toInt_ofInt (t : Token) (v : Int64) :
    t.meaning (toInt t.kind t.isUnsigned (ofInt t.kind v)) = t.representative v.toInt := by
  rw [toInt_ofInt, Token.meaning_ofInt (t.representative_inRange _)]

/-- What was read has the low bits of the slot. -/
theorem toInt_emod (k : Kind) (isUnsigned : Bool) (slot : UInt64) :
    (toInt k isUnsigned slot).toInt % k.modulus = ((slot.toNat % k.modulus : ℕ) : ℤ) := by
  have hwiden := widen_toNat_mod k isUnsigned slot
  rw [← hwiden, RegisterFrame.widen, ← toInt64_emod _ k.modulus_dvd]
  rfl

/-- **What was read puts the low bits of the slot back**, and zeros above them. -/
theorem toNat_ofInt_toInt (k : Kind) (isUnsigned : Bool) (slot : UInt64) :
    (ofInt k (toInt k isUnsigned slot)).toNat = slot.toNat % k.modulus := by
  apply Int.ofNat_inj.mp
  rw [toNat_ofInt, toInt_emod]

/-- A full slot holds an integer of the script as it is. -/
theorem toInt_ofInt_int64 (isUnsigned : Bool) (v : Int64) :
    toInt .int64 isUnsigned (ofInt .int64 v) = v := by
  have hread := toInt_emod .int64 isUnsigned (ofInt .int64 v)
  rw [Int.natCast_mod, toNat_ofInt, Int.emod_emod] at hread
  exact int64_eq_of_emod hread

end Slot

/-! ## Passing a value on -/

/-- An operand that passes a value on, as it is or as its text. -/
def Operand.Passes (o : Operand) (v : Value) : Prop :=
  o.value = v ∨ o.value = .text v.toText

variable {t : Token} {slot : UInt64} {o : Operand}

/-- An integer and its decimal text spell the bits of the integer. -/
theorem Operand.Passes.spells {i : Int64} (h : o.Passes (.int i)) : o.value.Spells i.toUInt64 := by
  rcases h with h | h
  · exact h ▸ .int
  · exact h ▸ .signed (.self _)

/-- Words with the same low bits make the same argument. -/
theorem Token.carry_congr {a b : UInt64} (h : a.toNat % t.kind.modulus = b.toNat % t.kind.modulus) :
    t.carry a = t.carry b := by
  have hlow : a.toNat % 2 ^ t.kind.width = b.toNat % 2 ^ t.kind.width := h
  rw [carry, carry, hlow]

/-- **What was read from a slot is passed on as the low bits of that slot.** -/
theorem fillArgument_of_passes (hk : t.kind.isInteger = true)
    (ho : o.Passes (.int (Slot.toInt t.kind t.isUnsigned slot))) (site : Site) (index : ℕ) :
    fillArgument site index t o = .ok (t.carry slot) := by
  have hcarry : t.carry (Slot.toInt t.kind t.isUnsigned slot).toUInt64 = t.carry slot :=
    Token.carry_congr (Slot.widen_toNat_mod t.kind t.isUnsigned slot)
  rw [fillArgument_of_spells hk ho.spells, hcarry]

/-- The argument that a pair makes stands at the position of the pair. -/
theorem getElem?_arguments_of_fillArgument {site : Site} {params : List Operand} {p : Plan} {i : ℕ}
    {type o : Operand} {a : Argument} (hp : (marshal site params).2 = .ok p)
    (hpair : PairAt params i type o) (htype : Token.parse type.text = .ok t)
    (hfill : fillArgument site i t o = .ok a) : p.arguments[i]? = some a := by
  have hi : i < p.arguments.length := by
    have hlength := (List.getElem?_eq_some_iff.mp hpair.value).1
    rw [length_arguments_of_marshal hp]
    omega
  have ha := List.getElem?_eq_getElem hi
  obtain ⟨type', o', htype', ho', hparse, hfill'⟩ := getElem?_arguments_of_marshal hp ha
  obtain ⟨rfl, rfl⟩ := hpair.unique ⟨htype', ho'⟩
  obtain rfl := Except.ok.inj (htype.symm.trans hparse)
  rw [ha, ← Except.ok.inj (hfill.symm.trans hfill')]

/-- The variable of an integer that went by address, after native code came back. -/
theorem getElem?_finish_of_isInteger {m : Memory} {r : Invocation} {p : Plan}
    {params : List Operand} {i : ℕ} {x : Variable} {a : Argument}
    (hk : a.token.kind.isInteger = true) (haddress : a.token.byAddress = true)
    (hr : r.hasFaulted = false) (ha : p.arguments[i]? = some a)
    (hx : params[2 * i + 1]? = some (.variable x)) :
    (finish m r p params).2.2[2 * i + 1]? = some (.variable (x.assign (.int a.readInt))) := by
  have houtput : a.output? (memoryAt m p.arguments params i) x = some (.int a.readInt) := by
    rw [output?_of_ne_text (Kind.ne_text_of_isInteger hk), if_pos haddress,
      scalarOfBits_of_isInteger hk, Argument.readInt]
  rw [getElem?_finish_variable hr ha hx, writeOutput_variable_of_some houtput]

/-- **Writing and reading an integer are inverse to each other, modulo the width.** Let an argument
be of a kind of integers, with or without a sign, and let anything be in its slot.

A stored integer fills the slot with its low bits and zeros above them, and is read as the only
integer of the type that has these low bits. If the type has 64 bits it is read as it was, whatever
the sign. The other way around, storing what is read from the slot puts its low bits back.

So when native code came back from a call with the argument by address, its variable holds the
integer in the slot, and the low bits of the slot are what the variable is passed on as: by itself
or as the decimal text of its contents, under a type of the same width and sign, by value or by
address, at any position of any list of operands. -/
theorem Argument.integer_inverse {a : Argument} (hk : a.token.kind.isInteger = true) :
    (∀ v : Int64,
      ((a.storeInt v).slot.toNat : ℤ) = v.toInt % 2 ^ a.token.kind.width ∧
      a.token.InRange (a.token.meaning (a.storeInt v).readInt) ∧
      (∀ i, a.token.InRange i →
        (a.token.meaning (a.storeInt v).readInt = i ↔ i ≡ v.toInt [ZMOD 2 ^ a.token.kind.width])) ∧
      (a.token.kind = .int64 → (a.storeInt v).readInt = v)) ∧
    (a.storeInt a.readInt).slot.toNat = a.slot.toNat % 2 ^ a.token.kind.width ∧
    ∀ (m : Memory) (r : Invocation) (p : Plan) (params : List Operand) (i : ℕ) (x : Variable),
      r.hasFaulted = false → p.arguments[i]? = some a → a.token.byAddress = true →
      params[2 * i + 1]? = some (.variable x) →
      ∃ x', (finish m r p params).2.2[2 * i + 1]? = some (.variable x') ∧
        x'.value = .int a.readInt ∧
        ∀ (t : Token) (o : Operand), t.kind = a.token.kind → t.isUnsigned = a.token.isUnsigned →
          o.Passes x'.value →
          (∀ site index, ∃ a', fillArgument site index t o = .ok a' ∧
            a'.slot.toNat = a.slot.toNat % 2 ^ a.token.kind.width) ∧
          ∀ (site : Site) (later : List Operand) (p' : Plan) (j : ℕ) (type : Operand),
            (marshal site later).2 = .ok p' → PairAt later j type o →
            Token.parse type.text = .ok t →
            ∃ a', p'.arguments[j]? = some a' ∧
              a'.slot.toNat = a.slot.toNat % 2 ^ a.token.kind.width := by
  have hmodulus : ((a.token.kind.modulus : ℕ) : ℤ) = 2 ^ a.token.kind.width := by
    rw [Kind.modulus]
    norm_cast
  refine ⟨fun v => ?_, Slot.toNat_ofInt_toInt _ _ _, fun m r p params i x hr ha haddress hx => ?_⟩
  · have hmeaning : a.token.meaning (a.storeInt v).readInt = a.token.representative v.toInt :=
      Slot.meaning_toInt_ofInt a.token v
    rw [hmeaning, ← hmodulus]
    refine ⟨Slot.toNat_ofInt _ v, a.token.representative_inRange _,
      fun i hi => Token.representative_eq_iff hi, fun hkind => ?_⟩
    rw [readInt, storeInt, hkind, Slot.toInt_ofInt_int64]
  · refine ⟨_, getElem?_finish_of_isInteger hk haddress hr ha hx, rfl,
      fun t o htkind hsign ho => ?_⟩
    have htk : t.kind.isInteger = true := htkind ▸ hk
    have hpasses : o.Passes (.int (Slot.toInt t.kind t.isUnsigned a.slot)) := by
      rw [htkind, hsign]
      exact ho
    have hfill := fillArgument_of_passes htk hpasses
    have hslot : (t.carry a.slot).slot.toNat = a.slot.toNat % 2 ^ a.token.kind.width := by
      rw [toNat_slot_carry, htkind]
    refine ⟨fun site index => ⟨_, hfill site index, hslot⟩, ?_⟩
    intro site later p' j type hp hpair hparse
    exact ⟨_, getElem?_arguments_of_fillArgument hp hpair hparse (hfill site j), hslot⟩

/-- A byte without a sign that goes by address, in a slot with other bytes above it. -/
def Argument.dirtyByte : Argument := ⟨⟨.int8, true, true⟩, 0xdeadbeefdeadbeff, none⟩

/-- The byte is 255 in the variable, and 255 again when the text of the variable is passed on. -/
theorem Argument.integer_inverse_dirtyByte :
    let params : List Operand := [.literal (.text "UChar*"), .variable ⟨"n", .int 7, 2⟩]
    let later : List Operand := [.literal (.text "UChar"), .literal (.text "255")]
    let p : Plan := { arguments := [dirtyByte] }
    let p' : Plan := { arguments := [⟨⟨.int8, true, false⟩, 255, none⟩] }
    dirtyByte.token.kind.isInteger = true ∧
      ((dirtyByte.storeInt (-300)).slot.toNat : ℤ) = (-300 : Int64).toInt % 2 ^ 8 ∧
      dirtyByte.token.meaning (dirtyByte.storeInt (-300)).readInt = 212 ∧
      (dirtyByte.storeInt dirtyByte.readInt).slot.toNat = 0xff ∧
      (marshal {} later).2 = .ok p' ∧
      ∃ x', (finish [] {} p params).2.2[1]? = some (.variable x') ∧ x'.value = .int 255 ∧
        ∃ a', p'.arguments[0]? = some a' ∧ a'.slot.toNat = 0xff := by
  intro params later p p'
  have hp' : (marshal {} later).2 = .ok p' := by decide +kernel
  obtain ⟨hstore, hback, hcall⟩ :=
    integer_inverse (a := dirtyByte) (show dirtyByte.token.kind.isInteger = true from rfl)
  obtain ⟨hslot, -, hmeaning, -⟩ := hstore (-300)
  obtain ⟨x', hx', hvalue, hagain⟩ := hcall [] {} p params 0 ⟨"n", .int 7, 2⟩ rfl rfl rfl rfl
  have hread : dirtyByte.readInt = 255 := by decide +kernel
  have hpasses : (Operand.literal (.text "255")).Passes x'.value := by
    rw [hvalue, hread]
    exact .inr (by decide +kernel)
  obtain ⟨-, hlater⟩ := hagain ⟨.int8, true, false⟩ (.literal (.text "255")) rfl rfl hpasses
  refine ⟨rfl, hslot, (hmeaning 212 (by decide)).mpr (by decide), hback, hp', x', hx',
    hread ▸ hvalue, ?_⟩
  exact hlater {} later p' 0 (.literal (.text "UChar")) hp' ⟨rfl, rfl⟩ (by decide +kernel)

end ForeignCall
