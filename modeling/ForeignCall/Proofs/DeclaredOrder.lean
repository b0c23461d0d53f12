import ForeignCall.Frame.Registers
import ForeignCall.Frame.Stack
import Mathlib.Data.List.Basic
import Mathlib.Data.Nat.Notation

/-!
# Arguments in declared order

A plan is pushed onto a frame from its last argument to its first, and the frames turn this around
again: on the stack the word pushed last lies lowest, and of a value of two words the high one is
pushed first. This file says what the callee is left with. It finds the arguments in the order in
which they were declared, on the stack as well as in registers.

## Any frame

What the driver does with a frame is the same for all frames. It is given here as a list of pushes,
one for each argument, which is played back onto the frame; a statement about a frame is then an
induction over pushes, with one step for what a single push does.

## Main definitions

* `Push`, `Plan.pushes` — one argument on its way to a frame, and all of them in declared order
* `Push.words` — the words of an argument on a 32-bit stack
* `Push.integer?`, `Push.real?` — what an argument puts into a register
* `Plan.PresentedInOrder` — what the callee finds of a plan

## Main results

* `drive_eq_foldr` — driving a frame plays the pushes back
* `layout_foldr`, `passed_foldr` — what pushes leave on a stack and in a register frame
* `registers_drive` — what native code finds in its registers
* `presentedInOrder` — both frames present the arguments in declared order
-/

namespace ForeignCall

/-! ## Pushes -/

/-- One argument on its way to a frame. -/
inductive Push where
  /-- The slot itself is passed. -/
  | value (a : Argument)
  /-- The place of the slot is passed. -/
  | address (place : UInt64) (a : Argument)

namespace Push

/-- The push of an argument at a position, by address exactly if its token says so. -/
def ofArgument (site : Site) (index : ℕ) (a : Argument) : Push :=
  if a.token.byAddress then .address (site.slot index) a else .value a

/-- Performs a push. -/
def onto {φ : Type} [CallFrame φ] (frame : φ) : Push → φ
  | .value a => CallFrame.pushValue frame a
  | .address place a => CallFrame.pushAddress frame place a

end Push

/-- The pushes of a plan, in declared order. -/
def Plan.pushes (p : Plan) : List Push :=
  p.arguments.mapIdx (Push.ofArgument p.site)

theorem onto_ofArgument {φ : Type} [CallFrame φ] (site : Site) (frame : φ) (a : Argument × ℕ) :
    (Push.ofArgument site a.2 a.1).onto frame = pushArgument site frame a := by
  rw [Push.ofArgument, pushArgument]
  split <;> rfl

/-- **Driving a frame plays the pushes back**, the last one first. -/
theorem drive_eq_foldr {φ : Type} [CallFrame φ] (frame : φ) (p : Plan) :
    drive frame p = p.pushes.foldr (fun q f => q.onto f) frame := by
  rw [drive, List.foldl_reverse, Plan.pushes, List.mapIdx_eq_zipIdx_map, List.foldr_map]
  simp only [onto_ofArgument]

/-! ## On the stack -/

/-- The low word of 64 bits. -/
def lowWord (w : UInt64) : UInt32 := UInt32.ofNat (w.toNat % 0x100000000)

/-- The high word of 64 bits. -/
def highWord (w : UInt64) : UInt32 := UInt32.ofNat (w.toNat / 0x100000000)

theorem toUInt32_eq_lowWord (w : UInt64) : w.toUInt32 = lowWord w := by
  apply UInt32.toNat_inj.mp
  rw [lowWord, UInt64.toNat_toUInt32, UInt32.toNat_ofNat']
  exact (Nat.mod_mod w.toNat 0x100000000).symm

theorem shiftRight_toUInt32_eq_highWord (w : UInt64) : (w >>> 32).toUInt32 = highWord w := by
  have hshift : (w >>> 32).toNat = w.toNat / 0x100000000 := by
    rw [UInt64.toNat_shiftRight]
    exact Nat.shiftRight_eq_div_pow _ _
  apply UInt32.toNat_inj.mp
  rw [highWord, UInt64.toNat_toUInt32, hshift, UInt32.toNat_ofNat']

/-- The words of an argument in memory order: an address is cut down to one word, and so is a value
of all kinds but two. -/
def Push.words : Push → List UInt32
  | .address place _ => [lowWord place]
  | .value a =>
    match a.token.kind with
    | .int64 | .double => [lowWord a.slot, highWord a.slot]
    | .text | .int32 | .int16 | .int8 | .single => [lowWord a.slot]

theorem slotWords_eq_words (a : Argument) :
    StackFrame.slotWords a.token.kind a.slot = (Push.value a).words := by
  rw [StackFrame.slotWords, Push.words, toUInt32_eq_lowWord, shiftRight_toUInt32_eq_highWord]
  cases a.token.kind <;> rfl

/-- A push puts its words in front of the earlier ones. -/
theorem layout_onto (q : Push) (f : StackFrame) : (q.onto f).layout = q.words ++ f.layout := by
  cases q with
  | value a => rw [← slotWords_eq_words]; exact StackFrame.layout_pushSlot f a
  | address place a => rw [Push.words, ← toUInt32_eq_lowWord]; rfl

/-- Pushes leave their words in declared order. -/
theorem layout_foldr (qs : List Push) (f : StackFrame) :
    (qs.foldr (fun q f => q.onto f) f).layout = qs.flatMap Push.words ++ f.layout := by
  induction qs with
  | nil => rfl
  | cons q qs ih => rw [List.foldr_cons, layout_onto, ih, List.flatMap_cons, List.append_assoc]

/-! ## In registers -/

/-- The type and the value under which an argument is passed. -/
def Push.passed : Push → PassedType × UInt64
  | .address place _ => (.pointer, place)
  | .value a => (.scalar a.token.kind a.token.isUnsigned, a.slot)

theorem passed_onto (q : Push) (f : RegisterFrame) :
    (q.onto f).types = q.passed.1 :: f.types ∧ (q.onto f).values = q.passed.2 :: f.values := by
  cases q <;> exact ⟨rfl, rfl⟩

/-- Pushes leave their types and values in declared order. -/
theorem passed_foldr (qs : List Push) (f : RegisterFrame) :
    (qs.foldr (fun q f => q.onto f) f).types = (qs.map Push.passed).map Prod.fst ++ f.types ∧
      (qs.foldr (fun q f => q.onto f) f).values =
        (qs.map Push.passed).map Prod.snd ++ f.values := by
  induction qs with
  | nil => exact ⟨rfl, rfl⟩
  | cons q qs ih =>
    obtain ⟨htypes, hvalues⟩ := passed_onto q (qs.foldr (fun q f => q.onto f) f)
    refine ⟨?_, ?_⟩
    · rw [List.foldr_cons, htypes, ih.1]
      rfl
    · rw [List.foldr_cons, hvalues, ih.2]
      rfl

theorem types_drive (p : Plan) (n : ℕ) :
    (drive (RegisterFrame.withCapacity n) p).types = (p.pushes.map Push.passed).map Prod.fst := by
  rw [drive_eq_foldr, (passed_foldr _ _).1]
  exact List.append_nil _

theorem values_drive (p : Plan) (n : ℕ) :
    (drive (RegisterFrame.withCapacity n) p).values = (p.pushes.map Push.passed).map Prod.snd := by
  rw [drive_eq_foldr, (passed_foldr _ _).2]
  exact List.append_nil _

/-- What an argument puts into an integer register: an address, or a value that is no floating-point
number, widened by its declared width and signedness. -/
def Push.integer? : Push → Option UInt64
  | .address place _ => some place
  | .value a =>
    if a.token.kind.isReal then none
    else some (RegisterFrame.widen (.scalar a.token.kind a.token.isUnsigned) a.slot)

/-- What an argument puts into a floating-point register. -/
def Push.real? : Push → Option UInt64
  | .address _ _ => none
  | .value a => if a.token.kind.isReal then some a.slot else none

theorem filter_passed_integer (qs : List Push) :
    (((qs.map Push.passed).filter fun x => !RegisterFrame.PassedType.isReal x.1).map
      fun x => RegisterFrame.widen x.1 x.2) = qs.filterMap Push.integer? := by
  induction qs with
  | nil => rfl
  | cons q qs ih =>
    rw [List.map_cons, List.filter_cons, List.filterMap_cons, ← ih]
    cases q with
    | address place a => rfl
    | value a =>
      cases h : a.token.kind.isReal with
      | true => simp [Push.passed, Push.integer?, RegisterFrame.PassedType.isReal, h]
      | false => simp [Push.passed, Push.integer?, RegisterFrame.PassedType.isReal, h]

theorem filter_passed_real (qs : List Push) :
    (((qs.map Push.passed).filter fun x => RegisterFrame.PassedType.isReal x.1).map Prod.snd) =
      qs.filterMap Push.real? := by
  induction qs with
  | nil => rfl
  | cons q qs ih =>
    rw [List.map_cons, List.filter_cons, List.filterMap_cons, ← ih]
    cases q with
    | address place a => rfl
    | value a =>
      cases h : a.token.kind.isReal with
      | true => simp [Push.passed, Push.real?, RegisterFrame.PassedType.isReal, h]
      | false => simp [Push.passed, Push.real?, RegisterFrame.PassedType.isReal, h]

/-- **The registers that native code finds**, each bank in declared order. -/
theorem registers_drive (p : Plan) (n : ℕ) :
    (drive (RegisterFrame.withCapacity n) p).registers =
      ⟨p.pushes.filterMap Push.integer?, p.pushes.filterMap Push.real?⟩ := by
  have hzip : (drive (RegisterFrame.withCapacity n) p).types.zip
      (drive (RegisterFrame.withCapacity n) p).values = p.pushes.map Push.passed := by
    rw [types_drive, values_drive, List.zip_map']
    exact List.map_id _
  rw [RegisterFrame.registers, hzip, filter_passed_integer, filter_passed_real]

/-! ## Both frames -/

/-- What a plan presents to the callee. -/
structure Plan.PresentedInOrder (p : Plan) : Prop where
  /-- Whatever the frame, each argument is pushed once, the last one first. -/
  driven : ∀ {φ : Type} [CallFrame φ] (frame : φ),
    drive frame p = p.pushes.reverse.foldl (fun f q => q.onto f) frame
  pushed : p.pushes.length = p.arguments.length
  /-- It goes by address exactly if its token says so. -/
  push : ∀ (i : ℕ) (a : Argument), p.arguments[i]? = some a →
    p.pushes[i]? = some (if a.token.byAddress then .address (p.site.slot i) a else .value a)
  /-- On the stack the words of the arguments follow one another. -/
  layout : ∀ n, (drive (StackFrame.withCapacity n) p).layout = p.pushes.flatMap Push.words
  argumentBytes : ∀ n, (drive (StackFrame.withCapacity n) p).argumentBytes =
    4 * (p.pushes.flatMap Push.words).length
  /-- A register frame has a type and a value for each argument. -/
  aligned : ∀ n, (drive (RegisterFrame.withCapacity n) p).types.length = p.arguments.length ∧
    (drive (RegisterFrame.withCapacity n) p).values.length = p.arguments.length
  /-- They are the declared type and the slot, or a pointer and the place of the slot. -/
  passed : ∀ (n i : ℕ) (a : Argument), p.arguments[i]? = some a →
    (drive (RegisterFrame.withCapacity n) p).types[i]? =
        some (if a.token.byAddress then .pointer else .scalar a.token.kind a.token.isUnsigned) ∧
      (drive (RegisterFrame.withCapacity n) p).values[i]? =
        some (if a.token.byAddress then p.site.slot i else a.slot)
  /-- The registers of either bank are filled in this order. -/
  registers : ∀ n, (drive (RegisterFrame.withCapacity n) p).registers =
    ⟨p.pushes.filterMap Push.integer?, p.pushes.filterMap Push.real?⟩

@[simp] theorem length_pushes (p : Plan) : p.pushes.length = p.arguments.length :=
  List.length_mapIdx

theorem getElem?_pushes {p : Plan} {i : ℕ} {a : Argument} (h : p.arguments[i]? = some a) :
    p.pushes[i]? = some (.ofArgument p.site i a) := by
  rw [Plan.pushes, List.getElem?_mapIdx, h, Option.map_some]

/-- **Both frames present the arguments in declared order.** The driver pushes each argument of a
plan once, from the last to the first, by address or by value as declared. What the callee finds is
turned around: on a stack of 32-bit words the words of the first argument, then those of the second
one and so on, two for a value of eight bytes and otherwise one; in a register frame one type and
one value for each argument at its own position. -/
theorem presentedInOrder (p : Plan) : p.PresentedInOrder := by
  have hlayout : ∀ n,
      (drive (StackFrame.withCapacity n) p).layout = p.pushes.flatMap Push.words := by
    intro n
    rw [drive_eq_foldr, layout_foldr]
    exact List.append_nil _
  refine
    { driven := ?_
      pushed := length_pushes p
      push := ?_
      layout := hlayout
      argumentBytes := ?_
      aligned := ?_
      passed := ?_
      registers := registers_drive p }
  · intro φ _ frame
    rw [drive_eq_foldr, List.foldl_reverse]
  · intro i a ha
    rw [getElem?_pushes ha, Push.ofArgument]
  · intro n
    rw [StackFrame.argumentBytes, hlayout]
  · intro n
    rw [types_drive, values_drive]
    simp
  · intro n i a ha
    have hpush := getElem?_pushes ha
    rw [types_drive, values_drive, List.map_map, List.map_map, List.getElem?_map,
      List.getElem?_map, hpush, Push.ofArgument]
    split <;> exact ⟨rfl, rfl⟩

/-- A short integer, a double by address and a long integer: the stack has four words, the registers
two integers and an address. -/
example :
    let p : Plan := { arguments := [⟨⟨.int16, false, false⟩, 0xfffe, none⟩,
      ⟨⟨.double, false, true⟩, 0, none⟩, ⟨⟨.int64, true, false⟩, 0x1122334455667788, none⟩] }
    (drive (StackFrame.withCapacity 3) p).layout = [0xfffe, 0x1010, 0x55667788, 0x11223344] ∧
      (drive (RegisterFrame.withCapacity 3) p).registers =
        ⟨[0xfffffffffffffffe, 0x100000001010, 0x1122334455667788], []⟩ := by
  decide +kernel

end ForeignCall
