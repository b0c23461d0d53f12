import ForeignCall.Proofs.DeclaredOrder
import ForeignCall.Proofs.Decoding
import ForeignCall.Proofs.Encoding
import ForeignCall.Proofs.Isolation
import ForeignCall.Proofs.ReturnTokens
import ForeignCall.Proofs.Slots
import ForeignCall.Proofs.Stages

/-!
# Values that come back

What does a script get back from a native function that does nothing but return its parameter? The
value goes a long way: it is narrowed into a slot, widened into a register, copied by native code
from one register to another, with no more care than its type asks for, and read again. A text is
copied into a buffer, and what travels is its address. This file follows a whole call and finds the
value that went in, with an integer brought into the range of its type.

## The native function

All that is asked of native code is that it comes back, that it leaves memory as it was, and that
the return register has the parameter in its low bytes. The bytes above can be anything. So can the
whole register if the parameter is a floating-point word that is no number, since moving one may
change its bits.

## Main definitions

* `World.ReturnsParameter` — native code that returns its only parameter
* `World.Yields` — a call that succeeds with a value and leaves its operands as they were
* `World.RoundTrips` — the values that come back

## Main results

* `Token.parseReturn_cDecl` — a type is declared as a result by the word in front of it
* `World.decode_of_isInteger`, `World.decode_of_double`, `World.decode_of_text` — what the return
  register reads as
* `World.yields_of_decode` — what a call yields, from the argument and the return register
* `World.callWith_roundTrips` — integers, floating-point numbers and texts come back
-/

namespace ForeignCall

open Number (Double)

/-! ## Return types -/

/-- **A type is declared as a result** of a function of the C convention by the word in front. -/
theorem Token.parseReturn_cDecl {s : String} {t : Token} (h : Token.parse s = .ok t) :
    Token.parseReturn ("CDecl " ++ s) = .ok (t, .c) := by
  have hword : StartsWithWord ("CDecl " ++ s) ([' '] ++ s.toList) := by
    refine ⟨[], conventionWord, ?_, by simp, Ascii.equal_refl _⟩
    rw [String.toList_append]
    rfl
  exact (readsReturn _).follows [' '] s t hword (List.forall_mem_singleton.mpr rfl) h

theorem resultToken_of_parseReturn {ret : Operand} {r : Token × Convention}
    (h : Token.parseReturn ret.text = .ok r) : resultToken (some ret) = .ok r := by
  rcases ret with v | x
  · have hv : Token.parseReturn v.toText = .ok r := h
    rw [resultToken, hv]
    rfl
  · have hx : Token.parseReturn x.value.toText = .ok r := h
    rw [resultToken, Token.parseReturnNamed, hx]
    rfl

/-! ## The native function -/

/-- The registers in which parameters of a type are passed. -/
def Registers.bank (t : Token) (r : Registers) : List UInt64 :=
  if t.kind.isReal then r.reals else r.integers

/-- A word has the same low bytes as another one, as many as a kind takes. -/
def Kind.Agree (k : Kind) (a b : UInt64) : Prop :=
  a.toNat % 256 ^ k.size = b.toNat % 256 ^ k.size

/-- The return registers carry the first parameter of a type. Nothing is said about a floating-point
word that is no number. -/
def Returned.Carries (t : Token) (r : Registers) (back : Returned) : Prop :=
  ∀ x ∈ (r.bank t).head?, (t.kind.isReal = true → (Slot.toReal t.kind x).isNaN = false) →
    t.kind.Agree (back.register t) x

theorem Kind.Agree.eq {k : Kind} {a b : UInt64} (h : k.Agree a b) (hk : k.size = 8) : a = b := by
  rw [Agree, hk] at h
  have ha := a.toNat_lt
  have hb := b.toNat_lt
  exact UInt64.toNat_inj.mp (by omega)

namespace World

/-- Native code at an address returns its only parameter. It can look around, and call others, but
it leaves memory as it was. -/
def ReturnsParameter (w : World) (target : UInt64) (t : Token) : Prop :=
  ∀ (r : Registers) (thread : Thread Machine), ∃ back thread',
    w.enter (w.nestedCall w.nesting) target r thread = (.returned back, thread') ∧
      thread'.state.memory = thread.state.memory ∧ back.Carries t r

/-- A call succeeds with a value, and its operands are what they were. -/
def Yields (w : World) (loader : Loader) (engine : Engine) (operands : List Operand) (v : Value) :
    Prop :=
  (w.callWith loader operands engine).ending = .returned ⟨⟨v, .success⟩, operands⟩

/-- The plan of a call with one parameter and a result of its type. -/
def identityPlan (t : Token) (a : Argument) : Plan :=
  { site := ⟨0⟩, arguments := [a], convention := .c, result := t }

/-! ## The return register -/

section Carries

variable {t : Token} {a : Argument} {back : Returned}

/-- The only parameter in its register. -/
theorem bank_identityPlan (ht : t.byAddress = false) (ha : a.token = t) :
    (identityPlan t a).registers.bank t =
      [if t.kind.isReal then a.slot
        else RegisterFrame.widen (.scalar t.kind t.isUnsigned) a.slot] := by
  have hpushes : (identityPlan t a).pushes = [.value a] := by
    rw [Plan.pushes, identityPlan, List.mapIdx_cons, List.mapIdx_nil, Push.ofArgument, ha,
      if_neg (by simp [ht])]
  rw [Registers.bank, Plan.registers, registers_drive, hpushes]
  cases hreal : t.kind.isReal with
  | true => simp [Push.real?, ha, hreal]
  | false => simp [Push.integer?, ha, hreal]

/-- The return register agrees with the slot of a floating-point number. -/
theorem agree_of_isReal (ht : t.byAddress = false) (ha : a.token = t) (hk : t.kind.isReal = true)
    (hnumber : (Slot.toReal t.kind a.slot).isNaN = false)
    (hback : back.Carries t (identityPlan t a).registers) :
    t.kind.Agree (back.register t) a.slot := by
  rw [Returned.Carries, bank_identityPlan ht ha, if_pos hk] at hback
  refine hback a.slot rfl ?_
  intro _
  exact hnumber

/-- The return register agrees with the slot, widened, of anything else. -/
theorem agree_of_not_isReal (ht : t.byAddress = false) (ha : a.token = t)
    (hk : ¬ t.kind.isReal = true) (hback : back.Carries t (identityPlan t a).registers) :
    t.kind.Agree (back.register t)
      (RegisterFrame.widen (.scalar t.kind t.isUnsigned) a.slot) := by
  rw [Returned.Carries, bank_identityPlan ht ha, if_neg hk] at hback
  refine hback _ rfl ?_
  intro hreal
  exact absurd hreal hk

/-- An integer register reads as the integer that was stored, brought into range. -/
theorem decode_of_isInteger (ht : t.byAddress = false) (hk : t.kind.isInteger = true) {i : Int64}
    {m : Memory}
    (hback : back.Carries t (identityPlan t (Argument.storeInt { token := t } i)).registers) :
    back.decode m t = .ok (.int (Int64.ofInt (t.representative i.toInt))) := by
  have hagree := agree_of_not_isReal ht rfl (Kind.not_isReal_of_isInteger hk) hback
  rw [Kind.Agree, ← Kind.modulus_eq_of_isInteger hk, Slot.widen_toNat_mod] at hagree
  have hread : Slot.toInt t.kind t.isUnsigned (back.register t) =
      Int64.ofInt (t.representative i.toInt) :=
    (Slot.toInt_congr hagree t.isUnsigned).trans (Slot.toInt_ofInt t i)
  rw [decode_register (Kind.ne_text_of_isInteger hk) ht, scalarOfBits_of_isInteger hk, hread]

/-- A floating-point register reads as the number of double precision that was stored. -/
theorem decode_of_double (ht : t.byAddress = false) (hk : t.kind = .double) {x : Double}
    (hx : x.isNaN = false) {m : Memory}
    (hback : back.Carries t (identityPlan t { token := t, slot := x.bits }).registers) :
    back.decode m t = .ok (.real x) := by
  have hreal : t.kind.isReal = true := by
    rw [hk]
    rfl
  have htext : t.kind ≠ .text := by
    rw [hk]
    decide
  have hnumber : (Slot.toReal t.kind x.bits).isNaN = false := by
    rw [hk]
    exact hx
  have hagree : t.kind.Agree (back.register t) x.bits :=
    agree_of_isReal (a := { token := t, slot := x.bits }) ht rfl hreal hnumber hback
  have hsame : back.register t = x.bits := hagree.eq (by rw [hk]; rfl)
  have hread : Slot.toReal .double x.bits = x := rfl
  rw [decode_register htext ht, scalarOfBits_of_isReal hreal, hsame, hk, hread]

/-- A pointer is returned as it was passed. -/
theorem integer_of_carries {b : Buffer} (ht : t.byAddress = false) (hk : t.kind = .text)
    (hback : back.Carries t (identityPlan t (.ofBuffer t b)).registers) :
    back.integer = b.start := by
  have hreal : ¬ t.kind.isReal = true := by
    rw [hk]
    decide
  have hsize : 256 ^ t.kind.size = t.kind.modulus := by
    rw [hk]
    rfl
  have hagree := agree_of_not_isReal ht rfl hreal hback
  rw [Kind.Agree, Returned.register, if_neg hreal, hsize] at hagree
  refine Kind.Agree.eq (k := t.kind) ?_ (by rw [hk]; rfl)
  rw [Kind.Agree, hsize, hagree]
  exact Slot.widen_toNat_mod t.kind t.isUnsigned b.start

/-- The buffer of a text lies behind the slot that points to it. -/
theorem text?_identityPlan {b : Buffer} (hstart : b.start = Site.buffer ⟨0⟩ 0) (hzero : 0 ∈ b.bytes)
    (data : Memory) :
    Memory.text? ((identityPlan t (.ofBuffer t b)).place ++ data) b.start =
      some (Bytes.textBefore b.bytes) := by
  have hpos : 0 < b.bytes.length := List.length_pos_of_mem hzero
  have hslot : Block.offset? ⟨Site.slot ⟨0⟩ 0, Bytes.ofWord b.start, true⟩ b.start = none := by
    refine if_neg fun h => absurd h.2 ?_
    rw [Block.Covers, Bytes.length_ofWord, hstart]
    decide
  have hbuffer : Block.offset? ⟨b.start, b.bytes, true⟩ b.start = some 0 := by
    have hbacking : Backing.ofFlag true ≠ .lost := by decide
    rw [Block.offset?, if_pos ⟨hbacking, le_rfl, by simpa using hpos⟩, Nat.sub_self]
  have hplace : (identityPlan t (.ofBuffer t b)).place ++ data =
      ⟨Site.slot ⟨0⟩ 0, Bytes.ofWord b.start, true⟩ :: ⟨b.start, b.bytes, true⟩ :: data := rfl
  have htail : Memory.tail? ((identityPlan t (.ofBuffer t b)).place ++ data) b.start =
      some b.bytes := by
    rw [hplace, Memory.tail?, List.findSome?_cons, hslot, Option.map_none, List.findSome?_cons,
      hbuffer, Option.map_some, List.drop_zero]
  exact Memory.text?_of_mem htail hzero

/-- The pointer leads to the text that the buffer was made of. -/
theorem decode_of_text (ht : t.byAddress = false) (hk : t.kind = .text) {s : String}
    (hs : '\x00' ∉ s.toList) {capacity : ℕ} {b : Buffer}
    (hb : b = .ofText (Site.buffer ⟨0⟩ 0) s capacity) {data : Memory}
    (hback : back.Carries t (identityPlan t (.ofBuffer t b)).registers) :
    back.decode ((identityPlan t (.ofBuffer t b)).place ++ data) t = .ok (.text s) := by
  have hstart : b.start = Site.buffer ⟨0⟩ 0 := by rw [hb, Buffer.ofText]
  have hzero : 0 ∈ b.bytes := by
    obtain ⟨n, hn⟩ := Buffer.exists_bytes_ofText (Site.buffer ⟨0⟩ 0) s capacity
    rw [hb, hn]
    exact List.mem_append_right _ List.mem_cons_self
  have haddress := integer_of_carries ht hk hback
  have hnull : back.integer ≠ 0 := by
    rw [haddress, hstart]
    exact Site.buffer_ne_zero ⟨0⟩ 0
  have hpointer : t.isPointer = true := by simp [Token.isPointer, hk]
  have htext : Memory.text ((identityPlan t (.ofBuffer t b)).place ++ data) b.start =
      .ok (Bytes.textBefore b.bytes) :=
    Memory.orFault_eq_ok_iff.mpr (text?_identityPlan hstart hzero data)
  rw [decode_of_pointer hpointer hnull, pointee, if_neg (by simp [ht]), haddress, htext,
    Except.map, hb, Buffer.textBefore_ofText_of_notMem hs, Utf8.toText_ofString]

end Carries

/-! ## The operand -/

section Operands

variable {t : Token} {a : Argument} {o : Operand} {s : String}

/-- An argument by value that is no text has no output. -/
theorem writeOutput_of_value (ht : a.token.byAddress = false) (hk : a.token.kind ≠ .text)
    (m : Memory) (o : Operand) : writeOutput m a o = o := by
  rcases o with v | x
  · rfl
  · refine writeOutput_variable_of_none ?_
    rw [output?_of_ne_text hk, if_neg (by simp [ht])]

/-- The text in a new buffer is the one that the variable has. -/
theorem writeOutput_ofText (hk : t.kind = .text) (hs : '\x00' ∉ s.toList) {start : UInt64}
    {capacity : ℕ} (ho : o.value = .text s) (m : Memory) :
    writeOutput m (.ofBuffer t (.ofText start s capacity)) o = o := by
  rcases o with v | x
  · rfl
  · have hx : x.value.toText = s := congrArg Value.toText ho
    have htext : (Argument.ofBuffer t (.ofText start s capacity)).textOutput? m = some s := by
      rw [textOutput?_eq rfl, Argument.ofBuffer, if_pos rfl, Buffer.readText_ofText_of_notMem hs]
    refine writeOutput_variable_of_none ?_
    rw [output?_of_text hk, htext, Option.bind_some, if_pos hx]

/-- A text is passed in a new buffer, whether it is written out or stands in a variable. -/
theorem exists_textBuffer?_eq (start : UInt64) (ho : o.value = .text s) :
    ∃ capacity, textBuffer? start o = some (.ofText start s capacity) := by
  rcases o with v | x
  · obtain rfl : v = .text s := ho
    exact ⟨0, rfl⟩
  · have hx : x.value.toText = s := congrArg Value.toText ho
    exact ⟨x.capacity, by rw [textBuffer?, hx]⟩

end Operands

/-! ## The call -/

section Calls

variable {w : World} {loader : Loader} {engine : Engine} {function ty o ret : Operand}
  {target : UInt64} {t : Token} {a : Argument}
  (htarget : (loader.resolveValue w.libraries function.value).2.2 = .ok target)
  (hty : Token.parse ty.text = .ok t) (hret : ret.text = "CDecl " ++ ty.text)
  (hcallee : w.ReturnsParameter target t)

include htarget hty hret hcallee

/-- The call lands with the parameter in its return register, and memory as it was placed. -/
theorem exists_landing (engine : Engine) (ha : fillArgument ⟨0⟩ 0 t o = .ok a) :
    ∃ back scratch, back.Carries t (identityPlan t a).registers ∧
      w.landing? loader [function, ty, o, ret] engine =
        some ⟨⟨function.text, target, identityPlan t a, [ty, o, ret]⟩,
          { returned := back, scratch }, identityPlan t a, (identityPlan t a).place ++ w.data⟩ := by
  have hsplit : splitResult [ty, o, ret] = ([ty, o], some ret) := by simp [splitResult]
  have hresult : resultToken (splitResult [ty, o, ret]).2 = .ok (t, .c) := by
    rw [hsplit]
    exact resultToken_of_parseReturn (hret ▸ Token.parseReturn_cDecl hty)
  have hpairs : (marshalPairs ⟨0⟩ 0 (splitResult [ty, o, ret]).1).2 = .ok [a] := by
    have hpair : pairArgument ⟨0⟩ 0 ty o = .ok a := (pairArgument_of_parse hty).trans ha
    rw [hsplit, marshalPairs_cons, hpair]
    rfl
  have hmarshal : (marshal ⟨0⟩ [ty, o, ret]).2 = .ok (identityPlan t a) := by
    rw [marshal_of_result_ok hresult, hpairs]
    rfl
  have hready : (prepare w.libraries ⟨0⟩ loader [function, ty, o, ret]).2.2 =
      .ok ⟨function.text, target, identityPlan t a, [ty, o, ret]⟩ := by
    rw [prepare_of_resolved htarget, hmarshal]
  obtain ⟨loader', events, hprepare⟩ := exists_prepare_eq hready
  obtain ⟨back, thread, henter, hmemory, hback⟩ := hcallee (identityPlan t a).registers
    (((w.prepared [function, ty, o, ret] events engine).modify
      (·.beginCall ⟨function.text, target, identityPlan t a, [ty, o, ret]⟩)).entering
      (identityPlan t a))
  have hplaced : thread.state.memory = (identityPlan t a).place ++ w.data := hmemory
  have hinvoke := invoke_of_returned henter
  -- the C convention leaves the stack to the caller, so nothing is measured
  have hlevel : w.stackDelta (identityPlan t a).convention back = 0 := by
    rw [stackDelta, show (identityPlan t a).convention.measuresStack = false from rfl,
      Bool.and_false]
    rfl
  rw [hplaced, Plan.reload_place, invocation, hlevel] at hinvoke
  refine ⟨back, (identityPlan t a).scratch, hback, landing?_eq_some_iff.mpr ?_⟩
  exact ⟨loader', events, _, hprepare, hinvoke, hplaced⟩

/-- **What the call yields** is what the return register reads as, if the argument has no output of
its own. -/
theorem yields_of_decode {v : Value} (ha : fillArgument ⟨0⟩ 0 t o = .ok a)
    (hv : ∀ back : Returned, back.Carries t (identityPlan t a).registers →
      back.decode ((identityPlan t a).place ++ w.data) t = .ok v)
    (ho : ∀ m, writeOutput m a o = o) : w.Yields loader engine [function, ty, o, ret] v := by
  obtain ⟨back, scratch, hback, hlanding⟩ :=
    exists_landing htarget hty hret hcallee engine ha
  obtain ⟨hvalue, hstatus⟩ := @finish_of_decode ((identityPlan t a).place ++ w.data)
    { returned := back, scratch } (identityPlan t a) [ty, o, ret] v rfl rfl (hv back hback)
  have hoperands : (finish ((identityPlan t a).place ++ w.data) { returned := back, scratch }
      (identityPlan t a) [ty, o, ret]).2.2 = [ty, o, ret] := by
    have hwritten : ∀ m, writeOutputs m [a] [ty, o, ret] = [ty, writeOutput m a o, ret] :=
      fun _ => rfl
    rw [finish_operands, if_neg (by simp [Invocation.hasFaulted]), identityPlan, hwritten, ho]
  rw [Yields, ending_callWith_of_landing hlanding, Landing.results, hvalue, hstatus, hoperands]
  rfl

variable (ht : t.byAddress = false)

include ht

theorem yields_int (hk : t.kind.isInteger = true) {v : Int64} (ho : o.value = .int v) :
    w.Yields loader engine [function, ty, o, ret]
      (.int (Int64.ofInt (t.representative v.toInt))) := by
  have hbits : integerBits? t.isUnsigned (.int v) = some v := by
    cases t.isUnsigned <;> rfl
  have hfill : fillArgument ⟨0⟩ 0 t o = .ok (Argument.storeInt { token := t } v) := by
    rw [fillArgument_of_isInteger hk, ho, hbits]
  refine yields_of_decode htarget hty hret hcallee hfill ?_ ?_
  · intro back hback
    exact decode_of_isInteger ht hk hback
  · intro m
    exact writeOutput_of_value ht (Kind.ne_text_of_isInteger hk) m o

theorem yields_double (hk : t.kind = .double) {x : Double} (ho : o.value = .real x)
    (hx : x.isNaN = false) : w.Yields loader engine [function, ty, o, ret] (.real x) := by
  have htext : t.kind ≠ .text := by
    rw [hk]
    decide
  have hfill : fillArgument ⟨0⟩ 0 t o = .ok { token := t, slot := x.bits } := by
    simp only [fillArgument, Argument.fill, hk, ho, Value.toDouble?, Argument.storeReal,
      Slot.ofReal]
  refine yields_of_decode htarget hty hret hcallee hfill ?_ ?_
  · intro back hback
    exact decode_of_double ht hk hx hback
  · intro m
    exact writeOutput_of_value ht htext m o

theorem yields_text (hk : t.kind = .text) {s : String} (ho : o.value = .text s)
    (hs : '\x00' ∉ s.toList) : w.Yields loader engine [function, ty, o, ret] (.text s) := by
  obtain ⟨capacity, hbuffer⟩ := exists_textBuffer?_eq (Site.buffer ⟨0⟩ 0) ho
  have hfill : fillArgument ⟨0⟩ 0 t o =
      .ok (.ofBuffer t (.ofText (Site.buffer ⟨0⟩ 0) s capacity)) := by
    simp only [fillArgument, Argument.fill, hk, hbuffer]
  refine yields_of_decode htarget hty hret hcallee hfill ?_ ?_
  · intro back hback
    exact decode_of_text ht hk hs rfl hback
  · intro m
    exact writeOutput_ofText hk hs ho m

end Calls

/-! ## Round trips -/

/-- The values that come back from a function of one parameter, when the result has its type. -/
structure RoundTrips (w : World) (loader : Loader) (engine : Engine) (function ty ret : Operand)
    (t : Token) : Prop where
  /-- An integer comes back as the one in the range of the type that has the same low bits. -/
  integer : t.kind.isInteger = true → ∀ (o : Operand) (v : Int64), o.value = .int v →
    ∃ i : ℤ, t.InRange i ∧ i ≡ v.toInt [ZMOD 2 ^ t.kind.width] ∧
      w.Yields loader engine [function, ty, o, ret] (.int (Int64.ofInt i))
  /-- One in the range of the type comes back as it was. -/
  inRange : t.kind.isInteger = true → ∀ (o : Operand) (v : Int64), o.value = .int v →
    t.InRange v.toInt → w.Yields loader engine [function, ty, o, ret] (.int v)
  /-- A number of double precision comes back as it was. -/
  double : t.kind = .double → ∀ (o : Operand) (x : Double), o.value = .real x →
    x.isNaN = false → w.Yields loader engine [function, ty, o, ret] (.real x)
  /-- A text comes back as it was, from a literal or from a variable of any capacity. -/
  text : t.kind = .text → ∀ (o : Operand) (s : String), o.value = .text s →
    '\x00' ∉ s.toList → w.Yields loader engine [function, ty, o, ret] (.text s)

/-- **What goes in comes back.** A function that returns its only parameter is called with a type, a
value, and the type again as the result. The call succeeds. An integer comes back brought into the
range of the type, one within it as it was; a number of double precision comes back with all its
bits, and a text comes back character by character. No variable has changed. -/
theorem callWith_roundTrips {w : World} {loader : Loader} {engine : Engine}
    {function ty ret : Operand} {target : UInt64} {t : Token}
    (htarget : (loader.resolveValue w.libraries function.value).2.2 = .ok target)
    (hty : Token.parse ty.text = .ok t) (ht : t.byAddress = false)
    (hret : ret.text = "CDecl " ++ ty.text) (hcallee : w.ReturnsParameter target t) :
    w.RoundTrips loader engine function ty ret t := by
  refine ⟨?_, ?_, ?_, ?_⟩
  · intro hk o v ho
    have hmod := t.representative_modEq v.toInt
    rw [Kind.modulus] at hmod
    refine ⟨t.representative v.toInt, t.representative_inRange v.toInt, ?_, ?_⟩
    · exact_mod_cast hmod
    · exact yields_int htarget hty hret hcallee ht hk ho
  · intro hk o v ho hrange
    have hyields : w.Yields loader engine [function, ty, o, ret] _ :=
      yields_int htarget hty hret hcallee ht hk ho
    rwa [Token.representative_eq_of_inRange hrange, Int64.ofInt_toInt] at hyields
  · intro hk o x ho hx
    exact yields_double htarget hty hret hcallee ht hk ho hx
  · intro hk o s ho hs
    exact yields_text htarget hty hret hcallee ht hk ho hs

/-- Native code that returns its only parameter, at one address a short integer with other bits
above it, and at another one a pointer. -/
def echoing : World where
  libraries := ⟨fun _ => none, fun _ => .error "no such file"⟩
  code := fun target =>
    if target = 4096 then
      some fun r => .ret { integer := r.integers.headD 0 + 0xfedcba9876540000 }
    else if target = 8192 then some fun r => .ret { integer := r.integers.headD 0 }
    else none

theorem headD_of_mem_head? {l : List UInt64} {x : UInt64} (h : x ∈ l.head?) : l.headD 0 = x := by
  rw [List.headD_eq_head?_getD, Option.mem_def.mp h, Option.getD_some]

theorem returnsParameter_echoing_short : echoing.ReturnsParameter 4096 short := by
  intro r thread
  refine ⟨{ integer := r.integers.headD 0 + 0xfedcba9876540000 }, thread, rfl, rfl,
    fun x hx _ => ?_⟩
  have hfirst := headD_of_mem_head? (l := r.integers) hx
  show (r.integers.headD 0 + 0xfedcba9876540000).toNat % 256 ^ 2 = x.toNat % 256 ^ 2
  rw [hfirst, UInt64.toNat_add]
  have hconstant : (0xfedcba9876540000 : UInt64).toNat = 0xfedcba9876540000 := rfl
  omega

theorem returnsParameter_echoing_text : echoing.ReturnsParameter 8192 { kind := .text } := by
  intro r thread
  refine ⟨{ integer := r.integers.headD 0 }, thread, rfl, rfl, fun x hx _ => ?_⟩
  have hfirst := headD_of_mem_head? (l := r.integers) hx
  exact congrArg (fun w : UInt64 => w.toNat % 256 ^ 8) hfirst

/-- An integer that is too large for its type, and a text out of a variable without capacity. -/
theorem callWith_roundTrips_echoing :
    echoing.Yields {} {} [.literal (.int 4096), .literal (.text "Short"), .literal (.int 70000),
        .literal (.text "CDecl Short")] (.int 4464) ∧
      echoing.Yields {} {} [.literal (.int 8192), .literal (.text "Str"),
        .variable ⟨"s", .text "grün", 0⟩, .literal (.text "CDecl Str")] (.text "grün") := by
  constructor
  · have hcall : echoing.RoundTrips {} {} (.literal (.int 4096)) (.literal (.text "Short"))
        (.literal (.text "CDecl Short")) short :=
      callWith_roundTrips rfl rfl rfl rfl returnsParameter_echoing_short
    obtain ⟨i, hrange, hmod, hyields⟩ := hcall.integer rfl (.literal (.int 70000)) 70000 rfl
    have hi : i = 4464 := hrange.eq_of_modEq (by decide) (hmod.trans (by decide))
    rwa [hi] at hyields
  · have hcall : echoing.RoundTrips {} {} (.literal (.int 8192)) (.literal (.text "Str"))
        (.literal (.text "CDecl Str")) { kind := .text } :=
      callWith_roundTrips rfl rfl rfl rfl returnsParameter_echoing_text
    exact hcall.text rfl (.variable ⟨"s", .text "grün", 0⟩) "grün" rfl (by decide)

end World

end ForeignCall
