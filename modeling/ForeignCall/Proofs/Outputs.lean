import ForeignCall.Proofs.Pairs
import ForeignCall.Writeback
import Mathlib.Data.List.Forall2

/-!
# What write-back changes

After a call the outputs go back into the variables of the script, one argument after the other.
This file says position by position what the operand list is afterwards: which positions no output
can reach, and what stands at the others.

## The memory an output is read from

Looking at a text may change memory. A buffer without a NUL is given one, and a pointer of a *later*
argument that leads into that buffer finds it there. So the outputs are not read from one memory but
from a row of them, and `memoryAt` names the one that belongs to a position.

## Main definitions

* `memoryAt` — the memory that the output of an argument is read from
* `Plan.Touched` — a plan as native code may leave it
* `WrittenBack` — what a variable is after write-back, by the declaration of its argument

## Main results

* `getElem?_writeOutputs_token`, `getElem?_writeOutputs_value` — write-back, position by position
* `writeOutputs_eq_self_iff` — when write-back changes nothing at all
* `finish_writes_declared_outputs` — a call that did not fault updates exactly its declared outputs
-/

namespace ForeignCall

variable {m : Memory} {as : List Argument} {operands : List Operand}

/-! ## Position by position -/

/-- The memory that the output of the argument at a position is read from. -/
def memoryAt : Memory → List Argument → List Operand → ℕ → Memory
  | m, a :: as, _ :: o :: rest, i + 1 => memoryAt (a.settle m o) as rest i
  | m, _, _, _ => m

@[simp] theorem memoryAt_zero (m : Memory) (as : List Argument) (operands : List Operand) :
    memoryAt m as operands 0 = m := by
  unfold memoryAt
  split
  · next h => exact absurd h (by simp)
  · rfl

@[simp] theorem length_writeOutputs (m : Memory) (as : List Argument) (operands : List Operand) :
    (writeOutputs m as operands).length = operands.length := by
  fun_induction writeOutputs m as operands with
  | case1 m a as t o rest ih => simp [ih]
  | case2 => rfl

/-- Positions of type tokens are out of reach, and so is a return token. -/
theorem getElem?_writeOutputs_token (m : Memory) (as : List Argument) (operands : List Operand)
    (i : ℕ) : (writeOutputs m as operands)[2 * i]? = operands[2 * i]? := by
  fun_induction writeOutputs m as operands generalizing i with
  | case1 m a as t o rest ih =>
    cases i with
    | zero => rfl
    | succ i =>
      rw [show 2 * (i + 1) = 2 * i + 1 + 1 by ring]
      simpa using ih i
  | case2 => rfl

/-- The value of an argument becomes the output of that argument and of no other. -/
theorem getElem?_writeOutputs_value {i : ℕ} {a : Argument} {o : Operand} (ha : as[i]? = some a)
    (ho : operands[2 * i + 1]? = some o) :
    (writeOutputs m as operands)[2 * i + 1]? =
      some (writeOutput (memoryAt m as operands i) a o) := by
  induction as generalizing m operands i with
  | nil => exact absurd ha (by simp)
  | cons b as ih =>
    match operands with
    | [] => exact absurd ho (by simp)
    | [_] => exact absurd ho (by simp)
    | t :: o' :: rest =>
      cases i with
      | zero =>
        obtain rfl : b = a := by simpa using ha
        obtain rfl : o' = o := by simpa using ho
        rfl
      | succ i =>
        rw [show 2 * (i + 1) + 1 = 2 * i + 1 + 1 + 1 by ring] at ho ⊢
        exact ih (by simpa using ha) (by simpa using ho)

/-- Behind the last argument nothing is written. -/
theorem getElem?_writeOutputs_of_le {j : ℕ} (h : 2 * as.length ≤ j) :
    (writeOutputs m as operands)[j]? = operands[j]? := by
  fun_induction writeOutputs m as operands generalizing j with
  | case1 m a as t o rest ih =>
    obtain ⟨j, rfl⟩ : ∃ k, j = k + 1 + 1 :=
      ⟨j - 2, by simp only [List.length_cons] at h; omega⟩
    simpa using ih (j := j) (by simp only [List.length_cons] at h; omega)
  | case2 => rfl

/-! ## One output -/

@[simp] theorem writeOutput_literal (m : Memory) (a : Argument) (v : Value) :
    writeOutput m a (.literal v) = .literal v := rfl

theorem writeOutput_variable_of_none {a : Argument} {x : Variable} (h : a.output? m x = none) :
    writeOutput m a (.variable x) = .variable x := by
  rw [writeOutput, h]

theorem writeOutput_variable_of_some {a : Argument} {x : Variable} {v : Value}
    (h : a.output? m x = some v) : writeOutput m a (.variable x) = .variable (x.assign v) := by
  rw [writeOutput, h]

/-- Arguments that are no texts have an output exactly if they go by address. -/
theorem output?_of_ne_text {a : Argument} (h : a.token.kind ≠ .text) (m : Memory) (x : Variable) :
    a.output? m x = if a.token.byAddress then some (scalarOfBits a.token a.slot) else none := by
  rw [Argument.output?]
  split
  · next hk => exact absurd hk h
  · rfl

theorem output?_of_text {a : Argument} (h : a.token.kind = .text) (m : Memory) (x : Variable) :
    a.output? m x =
      (a.textOutput? m).bind fun s => if x.value.toText = s then none else some (.text s) := by
  rw [Argument.output?, h]

theorem scalarOfBits_of_isInteger {t : Token} (h : t.kind.isInteger = true) (bits : UInt64) :
    scalarOfBits t bits = .int (Slot.toInt t.kind t.isUnsigned bits) := by
  rw [scalarOfBits, if_neg]
  cases hk : t.kind <;> simp_all [Kind.isInteger, Kind.isReal]

theorem scalarOfBits_of_isReal {t : Token} (h : t.kind.isReal = true) (bits : UInt64) :
    scalarOfBits t bits = .real (Slot.toReal t.kind bits) := by
  rw [scalarOfBits, if_pos h]

/-- Write-back changes nothing at all exactly if each output is what its variable holds already,
with room for it. -/
theorem writeOutputs_eq_self_iff :
    writeOutputs m as operands = operands ↔
      ∀ i a x v, as[i]? = some a → operands[2 * i + 1]? = some (.variable x) →
        a.output? (memoryAt m as operands i) x = some v → x.assign v = x := by
  constructor
  · intro h i a x v ha hx hv
    have hi := getElem?_writeOutputs_value (m := m) ha hx
    rw [h, hx, writeOutput_variable_of_some hv] at hi
    simpa using hi.symm
  · intro h
    refine List.ext_getElem? fun j => ?_
    rcases Nat.even_or_odd' j with ⟨i, rfl | rfl⟩
    · exact getElem?_writeOutputs_token m as operands i
    · cases ha : as[i]? with
      | none =>
        have hi : as.length ≤ i := List.getElem?_eq_none_iff.mp ha
        exact getElem?_writeOutputs_of_le (by omega)
      | some a =>
        cases ho : operands[2 * i + 1]? with
        | none =>
          rw [List.getElem?_eq_none_iff, length_writeOutputs, ← List.getElem?_eq_none_iff]
          exact ho
        | some o =>
          rw [getElem?_writeOutputs_value ha ho]
          match o, ho with
          | .literal v, _ => rfl
          | .variable x, ho =>
            cases hv : a.output? (memoryAt m as operands i) x with
            | none => rw [writeOutput_variable_of_none hv]
            | some v => rw [writeOutput_variable_of_some hv, h i a x v ha ho hv]

/-! ## Declared outputs -/

/-- An argument as native code may leave it: any slot, and any bytes in the buffer. -/
structure Argument.Touched (a a' : Argument) : Prop where
  /-- The declaration is not in memory. -/
  token : a'.token = a.token
  /-- Neither is the place of the buffer. -/
  start : a'.buffer.map Buffer.start = a.buffer.map Buffer.start

/-- A plan as native code may leave it. -/
structure Plan.Touched (p p' : Plan) : Prop where
  arguments : List.Forall₂ Argument.Touched p.arguments p'.arguments
  result : p'.result = p.result

/-- A variable that is given a text, unless that is its text already. -/
def Variable.hold (x : Variable) (s : String) : Variable :=
  if x.value.toText = s then x else x.assign (.text s)

/-- What stands in place of a variable after write-back, by the declaration of its argument `a` and
by what native code left in its slot. -/
structure WrittenBack (m : Memory) (a : Argument) (x : Variable) (o : Operand) : Prop where
  /-- A number that went by value is no output. -/
  byValue : a.token.kind ≠ .text → a.token.byAddress = false → o = .variable x
  /-- An integer is the one in the slot, read with the declared width and signedness. -/
  integer : a.token.kind.isInteger = true → a.token.byAddress = true →
    o = .variable (x.assign (.int (Slot.toInt a.token.kind a.token.isUnsigned a.slot)))
  /-- A floating-point number is the one in the slot. -/
  real : a.token.kind.isReal = true → a.token.byAddress = true →
    o = .variable (x.assign (.real (Slot.toReal a.token.kind a.slot)))
  /-- A text has a buffer, and is read from there while the slot points to its start. -/
  buffer : a.token.kind = .text → ∃ b, a.buffer = some b ∧
    (a.slot = b.start → o = .variable (x.hold b.readText)) ∧
    (a.slot ≠ b.start → a.slot ≠ 0 →
      o = .variable (((m.text? a.slot).map fun bs => x.hold (Utf8.toText bs)).getD x))
  /-- A text behind a null pointer is empty. -/
  null : a.token.kind = .text → a.slot = 0 → o = .variable (x.hold "")

/-- The text that a pointer leads to. A null pointer leads to the empty text. -/
theorem toOption_textAt (m : Memory) (address : UInt64) :
    (textAt m address).toOption =
      if address = 0 then some "" else (m.text? address).map Utf8.toText := by
  rw [textAt]
  split
  · rfl
  · rw [Memory.text]
    cases m.text? address <;> rfl

/-- The text that an output has is the one that its slot leads to. -/
theorem textOutput?_eq {a : Argument} {b : Buffer} (hb : a.buffer = some b) (m : Memory) :
    a.textOutput? m =
      if a.slot = b.start then some b.readText
      else if a.slot = 0 then some "" else (m.text? a.slot).map Utf8.toText := by
  rw [Argument.textOutput?, hb, Option.bind_some, Buffer.isStart, value?_guardedRead,
    toOption_textAt]
  by_cases h : a.slot = b.start
  · rw [if_pos h, h, beq_self_eq_true, if_pos rfl]
  · rw [if_neg h, if_neg (by simpa using fun he => h he.symm)]

/-- A variable that gets the text that an output has, if it has one. -/
theorem writeOutput_of_text {a : Argument} (h : a.token.kind = .text) (m : Memory) (x : Variable) :
    writeOutput m a (.variable x) =
      .variable (((a.textOutput? m).map x.hold).getD x) := by
  rw [writeOutput, output?_of_text h]
  cases a.textOutput? m with
  | none => rfl
  | some s =>
    rw [Option.bind_some, Option.map_some, Option.getD_some, Variable.hold]
    by_cases hs : x.value.toText = s
    · rw [if_pos hs, if_pos hs]
    · rw [if_neg hs, if_neg hs]

/-- **One output follows its declaration.** All that is asked of the argument is that a text has a
buffer, and that no buffer lies at the null address. -/
theorem writtenBack_writeOutput {a : Argument}
    (h : a.token.kind = .text → ∃ b, a.buffer = some b ∧ b.start ≠ 0) (m : Memory) (x : Variable) :
    WrittenBack m a x (writeOutput m a (.variable x)) := by
  refine ⟨fun hk hv => ?_, fun hk hv => ?_, fun hk hv => ?_, fun hk => ?_, fun hk h0 => ?_⟩
  · refine writeOutput_variable_of_none ?_
    rw [output?_of_ne_text hk, hv]
    rfl
  · have hne : a.token.kind ≠ .text := fun ht => absurd (ht ▸ hk) (by decide)
    refine writeOutput_variable_of_some ?_
    rw [output?_of_ne_text hne, hv, scalarOfBits_of_isInteger hk]
    rfl
  · have hne : a.token.kind ≠ .text := fun ht => absurd (ht ▸ hk) (by decide)
    refine writeOutput_variable_of_some ?_
    rw [output?_of_ne_text hne, hv, scalarOfBits_of_isReal hk]
    rfl
  · obtain ⟨b, hb, -⟩ := h hk
    refine ⟨b, hb, fun hstart => ?_, fun hstart h0 => ?_⟩
    · rw [writeOutput_of_text hk, textOutput?_eq hb, if_pos hstart]
      rfl
    · rw [writeOutput_of_text hk, textOutput?_eq hb, if_neg hstart, if_neg h0, Option.map_map]
      rfl
  · obtain ⟨b, hb, hne⟩ := h hk
    have hstart : a.slot ≠ b.start := fun he => hne (he.symm.trans h0)
    rw [writeOutput_of_text hk, textOutput?_eq hb, if_neg hstart, if_pos h0]
    rfl

/-- The pair behind an argument that native code may have touched. -/
theorem Plan.Touched.pair {site : Site} {params : List Operand} {p p' : Plan} (ht : p.Touched p')
    (hp : (marshal site params).2 = .ok p) {i : ℕ} {a : Argument}
    (ha : p'.arguments[i]? = some a) :
    ∃ t, params[2 * i]? = some t ∧ Token.parse t.text = .ok a.token ∧
      (a.token.kind = .text → ∃ b, a.buffer = some b ∧ b.start ≠ 0) := by
  obtain ⟨hi, rfl⟩ := List.getElem?_eq_some_iff.mp ha
  have hi' : i < p.arguments.length := ht.arguments.length_eq ▸ hi
  have htouch : Argument.Touched p.arguments[i] p'.arguments[i] := ht.arguments.get hi' hi
  obtain ⟨t, o, h₁, -, h₂, h₃⟩ :=
    getElem?_arguments_of_marshal hp (List.getElem?_eq_getElem hi')
  refine ⟨t, h₁, by rw [htouch.token]; exact h₂, fun hk => ?_⟩
  obtain ⟨-, htext, -⟩ := fillArgument_eq_ok h₃
  obtain ⟨b, hb, hmade⟩ := htext (htouch.token ▸ hk)
  have hstart := htouch.start
  rw [hmade, Argument.ofBuffer, Option.map_some, Option.map_eq_some_iff] at hstart
  obtain ⟨b', hb', hsame⟩ := hstart
  refine ⟨b', hb', ?_⟩
  rw [hsame, textBuffer?_start hb]
  exact site.buffer_ne_zero i

/-- Write-back happens exactly if native code came back without a fault. -/
theorem finish_operands (m : Memory) (r : Invocation) (p : Plan) (operands : List Operand) :
    (finish m r p operands).2.2 =
      if r.hasFaulted then operands else writeOutputs m p.arguments operands := by
  rw [finish]
  split
  · rfl
  · split <;> rfl

/-- What stands in place of a variable after native code came back. -/
theorem getElem?_finish_variable {p' : Plan} {r : Invocation} {i : ℕ} {a : Argument} {x : Variable}
    (hr : r.hasFaulted = false) (ha : p'.arguments[i]? = some a)
    (hx : operands[2 * i + 1]? = some (.variable x)) :
    (finish m r p' operands).2.2[2 * i + 1]? =
      some (writeOutput (memoryAt m p'.arguments operands i) a (.variable x)) := by
  rw [finish_operands, if_neg (by simp [hr]), getElem?_writeOutputs_value ha hx]

/-- **Write-back updates exactly the declared outputs.** Native code may have left anything in the
slots and buffers of a marshaled plan. When the call is not reported as a fault, then either native
code did not come back and nothing changes, or every position of the operand list is settled:
literals, type tokens and the return token stay, and each variable that stands as a value is what
the declaration of its own argument and its own slot make of it. -/
theorem finish_writes_declared_outputs {site : Site} {params : List Operand} {p p' : Plan}
    {m : Memory} {r : Invocation} {v : Value} {status : Status} {after : List Operand}
    (hp : (marshal site params).2 = .ok p) (ht : p.Touched p')
    (hfinish : finish m r p' params = (v, status, after))
    (hstatus : ∀ code, status ≠ .calleeFault code) :
    (r.hasFaulted = true → status = .stackImbalance r.delta ∧ after = params) ∧
      (r.hasFaulted = false →
        after.length = params.length ∧
        (∀ (j : ℕ) (w : Value), params[j]? = some (.literal w) → after[j]? = some (.literal w)) ∧
        (∀ i, after[2 * i]? = params[2 * i]?) ∧
        ∀ i x, params[2 * i + 1]? = some (.variable x) →
          ∃ t a o, params[2 * i]? = some t ∧ p'.arguments[i]? = some a ∧
            Token.parse t.text = .ok a.token ∧ after[2 * i + 1]? = some o ∧
            WrittenBack (memoryAt m p'.arguments params i) a x o) := by
  have hafter : after = if r.hasFaulted then params else writeOutputs m p'.arguments params := by
    rw [← finish_operands, hfinish]
  refine ⟨fun hf => ⟨?_, by rw [hafter, if_pos hf]⟩, fun hf => ?_⟩
  · have hcall : status = .afterCall r.delta r.fault := by
      rw [← show (finish m r p' params).2.1 = status by rw [hfinish], finish_status, if_pos hf]
    have hne : r.fault ≠ 0 := bne_iff_ne.mp hf
    rcases Status.afterCall_of_fault_ne_zero hne with h | h
    · exact absurd (hcall.trans h) (hstatus _)
    · exact hcall.trans h
  rw [if_neg (by simp [hf])] at hafter
  subst hafter
  have hvalue : ∀ i o, params[2 * i + 1]? = some o → ∃ a, p'.arguments[i]? = some a := by
    intro i o ho
    have hlength := length_arguments_of_marshal hp
    have hi := (List.getElem?_eq_some_iff.mp ho).1
    refine ⟨_, List.getElem?_eq_getElem (i := i) ?_⟩
    rw [← ht.arguments.length_eq, hlength]
    omega
  refine ⟨length_writeOutputs m _ params, fun j w hj => ?_,
    getElem?_writeOutputs_token m p'.arguments params, fun i x hx => ?_⟩
  · rcases Nat.even_or_odd' j with ⟨i, rfl | rfl⟩
    · rw [getElem?_writeOutputs_token, hj]
    · obtain ⟨a, ha⟩ := hvalue i _ hj
      rw [getElem?_writeOutputs_value ha hj, writeOutput_literal]
  · obtain ⟨a, ha⟩ := hvalue i _ hx
    obtain ⟨t, htoken, hparse, hbuffer⟩ := ht.pair hp ha
    exact ⟨t, a, _, htoken, ha, hparse, getElem?_writeOutputs_value ha hx,
      writtenBack_writeOutput hbuffer _ x⟩

/-- A call with an integer by address, whose slot native code wrote, and a stack that moved. -/
theorem finish_writes_declared_outputs_int32 :
    let params : List Operand := [.literal (.text "Int*"), .variable ⟨"n", .int 5, 2⟩]
    let p : Plan := { arguments := [⟨⟨.int32, false, true⟩, 5, none⟩] }
    let p' : Plan := { arguments := [⟨⟨.int32, false, true⟩, 10, none⟩] }
    (marshal {} params).2 = .ok p ∧ p.Touched p' ∧
      finish [] { delta := 4 } p' params = (.int 0, .stackImbalance 4,
        [.literal (.text "Int*"), .variable ⟨"n", .int 10, 3⟩]) ∧
      ∃ o, [Operand.literal (.text "Int*"), .variable ⟨"n", .int 10, 3⟩][1]? = some o ∧
        WrittenBack [] ⟨⟨.int32, false, true⟩, 10, none⟩ ⟨"n", .int 5, 2⟩ o := by
  intro params p p'
  have hp : (marshal {} params).2 = .ok p := by decide
  have ht : p.Touched p' := ⟨.cons ⟨rfl, rfl⟩ .nil, rfl⟩
  have hfinish : finish [] { delta := 4 } p' params = (.int 0, .stackImbalance 4,
      [.literal (.text "Int*"), .variable ⟨"n", .int 10, 3⟩]) := by decide +kernel
  refine ⟨hp, ht, hfinish, ?_⟩
  obtain ⟨-, -, -, hvalue⟩ :=
    (finish_writes_declared_outputs hp ht hfinish (by simp)).2 rfl
  obtain ⟨t, a, o, -, ha, -, ho, hwritten⟩ := hvalue 0 ⟨"n", .int 5, 2⟩ rfl
  obtain rfl : ⟨⟨.int32, false, true⟩, 10, none⟩ = a := by simpa [p'] using ha
  exact ⟨o, ho, by simpa using hwritten⟩

/-- The status alone does not tell whether outputs were written: native code that faults *and*
leaves the stack moved is reported as an imbalance, and its outputs are not written. -/
theorem not_written_back_of_status_ne_calleeFault :
    ¬ ∀ (site : Site) (params : List Operand) (p p' : Plan) (m : Memory) (r : Invocation)
        (v : Value) (status : Status) (after : List Operand),
      (marshal site params).2 = .ok p → p.Touched p' →
      finish m r p' params = (v, status, after) → (∀ code, status ≠ .calleeFault code) →
      ∀ i x a, params[2 * i + 1]? = some (.variable x) → p'.arguments[i]? = some a →
        ∃ o, after[2 * i + 1]? = some o ∧
          WrittenBack (memoryAt m p'.arguments params i) a x o := by
  intro h
  let params : List Operand := [.literal (.text "Int*"), .variable ⟨"n", .int 5, 2⟩]
  let p : Plan := { arguments := [⟨⟨.int32, false, true⟩, 5, none⟩] }
  let p' : Plan := { arguments := [⟨⟨.int32, false, true⟩, 10, none⟩] }
  have hp : (marshal {} params).2 = .ok p := by decide
  have ht : p.Touched p' := ⟨.cons ⟨rfl, rfl⟩ .nil, rfl⟩
  have hfinish : finish [] { fault := 11, delta := 4 } p' params =
      (.int 0, .stackImbalance 4, params) := by decide +kernel
  obtain ⟨o, ho, hwritten⟩ := h {} params p p' [] _ _ _ _ hp ht hfinish (by simp) 0
    ⟨"n", .int 5, 2⟩ ⟨⟨.int32, false, true⟩, 10, none⟩ rfl rfl
  obtain rfl : Operand.variable ⟨"n", .int 5, 2⟩ = o := by simpa [params] using ho
  exact absurd (hwritten.integer rfl rfl) (by decide)

end ForeignCall
