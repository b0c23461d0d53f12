import ForeignCall.Proofs.Verdict

/-!
# Numbers in registers, in memory and in slots

Native code hands numbers back in three places: in a return register, at an address that it returns,
and in the slot of an argument that went by address. The three are read by different code. A
register and a slot are whole words, and from memory no more bytes are read than the kind of the
number takes. This file says what a number is in terms of its bytes alone, and shows that each of
the three readings comes to that.

## Bytes behind the number

A word has eight bytes, and a number may take fewer. The bytes behind the number are whatever was
there before: native code that returns 16 bits leaves the upper 48 of its register alone. So all
that is asked of a word, and of a stretch of memory, is that it *begins* with the bytes of the
number.

## Main definitions

* `Value.ofBytes` — the number that bytes denote, for a declared type
* `Returned.register` — the register in which a number comes back
* `Token.ReadsAs` — bytes read as a value in all three places

## Main results

* `scalarOfBits_eq_ofBytes` — a word that begins with the bytes of a number reads as that number
* `readsAs_ofBytes` — the three readings agree, and look at the bytes of the number alone
-/

namespace ForeignCall

open Number (Double)

variable {t : Token} {bs : List UInt8} {w : UInt64}

/-! ## Words that begin with given bytes -/

/-- What the first bytes of a word denote is the word modulo their weight. -/
theorem ofLittleEndian_of_isPrefix (h : bs <+: Bytes.ofWord w) :
    Bytes.ofLittleEndian bs = w.toNat % 256 ^ bs.length := by
  have hlength : bs.length ≤ 8 := by simpa using h.length_le
  have hbs : bs = Bytes.littleEndian bs.length w.toNat := by
    conv_lhs => rw [List.prefix_iff_eq_take.mp h]
    exact Bytes.take_littleEndian hlength _
  calc Bytes.ofLittleEndian bs
      = Bytes.ofLittleEndian (Bytes.littleEndian bs.length w.toNat) := by rw [← hbs]
    _ = w.toNat % 256 ^ bs.length := Bytes.ofLittleEndian_littleEndian _ _

/-- A word that is made of bytes begins with them. -/
theorem isPrefix_ofWord_toWord (h : bs.length ≤ 8) : bs <+: Bytes.ofWord (Bytes.toWord bs) := by
  have hlt : Bytes.ofLittleEndian bs < 2 ^ 64 :=
    calc Bytes.ofLittleEndian bs < 256 ^ bs.length := Bytes.ofLittleEndian_lt bs
      _ ≤ 256 ^ 8 := Nat.pow_le_pow_right (by decide) h
      _ = 2 ^ 64 := by norm_num
  have hword : (Bytes.toWord bs).toNat = Bytes.ofLittleEndian bs := by
    rw [Bytes.toWord, UInt64.toNat_ofNat', Nat.mod_eq_of_lt hlt]
  have htake : (Bytes.ofWord (Bytes.toWord bs)).take bs.length = bs := by
    rw [Bytes.ofWord, hword, Bytes.take_littleEndian h, Bytes.littleEndian_ofLittleEndian]
  exact List.prefix_iff_eq_take.mpr htake.symm

/-! ## Numbers as bytes -/

/-- The number that bytes denote, the lowest byte first: an integer without a sign or in two's
complement, or a floating-point number of one of the two precisions. -/
def Value.ofBytes (t : Token) (bs : List UInt8) : Value :=
  let n := Bytes.ofLittleEndian bs
  match t.kind with
  | .single => .real (Double.ofSingle (UInt32.ofNat n))
  | .double => .real ⟨UInt64.ofNat n⟩
  | _ => .int (Int64.ofInt (if t.isUnsigned then n else Int.bmod n (256 ^ bs.length)))

theorem ofBytes_of_isInteger (h : t.kind.isInteger = true) :
    Value.ofBytes t bs = .int (Int64.ofInt (if t.isUnsigned then Bytes.ofLittleEndian bs
      else Int.bmod (Bytes.ofLittleEndian bs) (256 ^ bs.length))) := by
  rw [Value.ofBytes]
  split
  · next hk => exact absurd h (by simp [hk, Kind.isInteger])
  · next hk => exact absurd h (by simp [hk, Kind.isInteger])
  · rfl

theorem Kind.size_le (k : Kind) : k.size ≤ 8 := by
  cases k <;> decide

/-- The integers of a kind are as many as its bytes can tell apart. -/
theorem Kind.modulus_eq_of_isInteger {k : Kind} (h : k.isInteger = true) :
    k.modulus = 256 ^ k.size := by
  cases k <;> first | rfl | exact absurd h (by decide)

theorem Kind.isReal_of_ne_text {k : Kind} (htext : k ≠ .text) (h : ¬ k.isInteger = true) :
    k = .single ∨ k = .double := by
  cases k <;> simp_all [Kind.isInteger]

/-- **A word that begins with the bytes of a number reads as that number.** -/
theorem scalarOfBits_eq_ofBytes (ht : t.kind ≠ .text) (hsize : bs.length = t.kind.size)
    (h : bs <+: Bytes.ofWord w) : scalarOfBits t w = Value.ofBytes t bs := by
  have hn := ofLittleEndian_of_isPrefix h
  rw [hsize] at hn
  by_cases hinteger : t.kind.isInteger = true
  · rw [scalarOfBits_of_isInteger hinteger, ofBytes_of_isInteger hinteger, Slot.toInt,
      Kind.modulus_eq_of_isInteger hinteger, hsize, hn]
  · rcases Kind.isReal_of_ne_text ht hinteger with hk | hk
    · have hword : w.toUInt32 = UInt32.ofNat (Bytes.ofLittleEndian bs) := by
        apply UInt32.toNat_inj.mp
        rw [hn, hk, UInt64.toNat_toUInt32, UInt32.toNat_ofNat']
        norm_num [Kind.size]
      rw [scalarOfBits_of_isReal (by rw [hk]; rfl)]
      simp only [Value.ofBytes, Slot.toReal, hk, hword]
    · have hword : w = UInt64.ofNat (Bytes.ofLittleEndian bs) := by
        apply UInt64.toNat_inj.mp
        rw [hn, hk, UInt64.toNat_ofNat']
        norm_num [Kind.size, Nat.mod_eq_of_lt w.toNat_lt]
      rw [scalarOfBits_of_isReal (by rw [hk]; rfl)]
      simp only [Value.ofBytes, Slot.toReal, hk, ← hword]

/-! ## The three places -/

/-- The register in which a number of a declared type comes back. -/
def Returned.register (t : Token) (r : Returned) : UInt64 :=
  if t.kind.isReal then r.real else r.integer

/-- Bytes read as a value of a declared type, wherever native code leaves them. What lies behind
them does not matter. -/
structure Token.ReadsAs (t : Token) (bs : List UInt8) (v : Value) : Prop where
  /-- In the return register. -/
  register : ∀ (m : Memory) (r : Invocation) (p : Plan) (params : List Operand),
    r.fault = 0 → r.delta = 0 → p.result = { t with byAddress := false } →
    bs <+: Bytes.ofWord (r.returned.register t) →
    (finish m r p params).1 = v ∧ (finish m r p params).2.1 = .success
  /-- At the address in the return register. -/
  pointer : ∀ (m : Memory) (r : Invocation) (p : Plan) (params : List Operand) (n : ℕ)
      (found : List UInt8),
    r.fault = 0 → r.delta = 0 → p.result = { t with byAddress := true } →
    r.returned.integer ≠ 0 → m.load? r.returned.integer n = some found → bs <+: found →
    (finish m r p params).1 = v ∧ (finish m r p params).2.1 = .success
  /-- In the slot of an argument. -/
  slot : ∀ (m : Memory) (r : Invocation) (p : Plan) (params : List Operand) (i : ℕ) (a : Argument)
      (x : Variable),
    r.fault = 0 → p.arguments[i]? = some a → a.token = { t with byAddress := true } →
    params[2 * i + 1]? = some (.variable x) → bs <+: Bytes.ofWord a.slot →
    (finish m r p params).2.2[2 * i + 1]? = some (.variable (x.assign v))

section Places

variable {m : Memory} {r : Invocation} {p : Plan} {params : List Operand} {v : Value}

/-- A result that can be read is the value of a call that nothing speaks against. -/
theorem finish_of_decode (hfault : r.fault = 0) (hdelta : r.delta = 0)
    (h : r.returned.decode m p.result = .ok v) :
    (finish m r p params).1 = v ∧ (finish m r p params).2.1 = .success := by
  have hread : r.returned.reading m p.result = .completed v := reading_eq_completed_iff.mpr h
  have hverdict := verdict_finish m r p params
  have hsuccess : (finish m r p params).2.1 = .success :=
    hverdict.success.mpr ⟨hdelta, hfault, v, hread⟩
  have hdecoded := hverdict.decoded hsuccess
  rw [hread] at hdecoded
  exact ⟨(Guarded.completed.inj hdecoded).symm, hsuccess⟩

/-- Numbers in a return register. -/
theorem decode_register (ht : t.kind ≠ .text) (hvalue : t.byAddress = false) (back : Returned) :
    back.decode m t = .ok (scalarOfBits t (back.register t)) := by
  have hpointer : t.isPointer = false := by simp [Token.isPointer, hvalue, ht]
  rw [decode_of_scalar hpointer, Returned.register]

/-- Numbers at an address. -/
theorem valueAt_of_load? {address : UInt64} {n : ℕ} {found : List UInt8} (ht : t.kind ≠ .text)
    (hsize : bs.length = t.kind.size) (hload : m.load? address n = some found)
    (hfound : bs <+: found) : valueAt m address t = .ok (Value.ofBytes t bs) := by
  have hn : t.kind.size ≤ n := by
    rw [← hsize, ← Memory.length_of_load? hload]
    exact hfound.length_le
  have hbs : m.load? address t.kind.size = some bs := by
    rw [Memory.load?_of_le hn hload, ← hsize, ← List.prefix_iff_eq_take.mp hfound]
  have hword : scalarOfBits t (Bytes.toWord bs) = Value.ofBytes t bs :=
    scalarOfBits_eq_ofBytes ht hsize (isPrefix_ofWord_toWord (hsize ▸ t.kind.size_le))
  rw [valueAt]
  split
  · next hk => exact absurd hk ht
  · rw [Memory.load, Memory.orFault_eq_ok_iff.mpr hbs, Except.map, hword]

end Places

/-- **The three readings agree.** Eight bytes read as the same number in the return register, at the
address that native code returns, and in the slot of an argument by address, for every numeric type.
The number is made of as many of the bytes as its kind takes; the others could be any. -/
theorem readsAs_ofBytes {b : List UInt8} (ht : t.kind ≠ .text) (hb : b.length = 8) :
    t.ReadsAs (b.take t.kind.size) (Value.ofBytes t (b.take t.kind.size)) := by
  have hsize : (b.take t.kind.size).length = t.kind.size := by
    have := t.kind.size_le
    rw [List.length_take]
    omega
  generalize b.take t.kind.size = bs at hsize
  refine ⟨?_, ?_, ?_⟩
  · intro m r p params hfault hdelta hresult hword
    refine finish_of_decode hfault hdelta ?_
    rw [hresult, decode_register (t := { t with byAddress := false }) ht rfl]
    exact congrArg Except.ok (scalarOfBits_eq_ofBytes ht hsize hword)
  · intro m r p params n found hfault hdelta hresult hnull hload hfound
    refine finish_of_decode hfault hdelta ?_
    rw [hresult, decode_of_pointer rfl hnull]
    exact valueAt_of_load? (t := { t with byAddress := true }) ht hsize hload hfound
  · intro m r p params i a x hfault ha htoken hx hword
    have hcame : ¬ r.hasFaulted = true := by simp [Invocation.hasFaulted, hfault]
    have hkind : a.token.kind ≠ .text := by rw [htoken]; exact ht
    have houtput : ∀ m' : Memory, a.output? m' x = some (Value.ofBytes t bs) := by
      intro m'
      rw [output?_of_ne_text hkind, htoken, if_pos rfl]
      exact congrArg some (scalarOfBits_eq_ofBytes ht hsize hword)
    rw [finish_operands, if_neg hcame, getElem?_writeOutputs_value ha hx,
      writeOutput_variable_of_some (houtput _)]

/-- The bytes of a short integer with others behind them. -/
def dirtyBytes : List UInt8 := [0x01, 0x80, 0xff, 0xff, 0xde, 0xad, 0xbe, 0xef]

/-- The type of that integer. -/
def short : Token := { kind := .int16 }

/-- The short integer in a whole register, at an address with no more than its own two bytes, and in
the slot of an argument. -/
theorem readsAs_ofBytes_short :
    (short.kind ≠ .text ∧ dirtyBytes.length = 8) ∧
      finish [] { returned := { integer := 0xefbeaddeffff8001 } } { result := short } [] =
        (.int (-32767), .success, []) ∧
      (finish [⟨4096, [0x01, 0x80], false⟩] { returned := { integer := 4096 } }
        { result := { short with byAddress := true } } []).1 = .int (-32767) ∧
      (finish [] {} { arguments := [⟨{ short with byAddress := true }, 0xefbeaddeffff8001, none⟩] }
        [.literal (.text "Short*"), .variable ⟨"n", .int 5, 2⟩]).2.2[1]? =
          some (.variable ⟨"n", .int (-32767), 7⟩) := by
  have hreads : short.ReadsAs [0x01, 0x80] (.int (-32767)) :=
    readsAs_ofBytes (t := short) (b := dirtyBytes) (by decide) rfl
  refine ⟨⟨by decide, rfl⟩, ?_, ?_, ?_⟩
  · obtain ⟨hvalue, hstatus⟩ := hreads.register [] { returned := { integer := 0xefbeaddeffff8001 } }
      { result := short } [] rfl rfl rfl ⟨[0xff, 0xff, 0xde, 0xad, 0xbe, 0xef], by decide⟩
    exact Prod.ext hvalue (Prod.ext hstatus rfl)
  · exact (hreads.pointer _ _ _ _ 2 [0x01, 0x80] rfl rfl rfl (by decide) (by decide)
      (List.prefix_refl _)).1
  · exact hreads.slot [] {} _ _ 0 _ ⟨"n", .int 5, 2⟩ rfl rfl rfl rfl
      ⟨[0xff, 0xff, 0xde, 0xad, 0xbe, 0xef], by decide⟩

end ForeignCall
