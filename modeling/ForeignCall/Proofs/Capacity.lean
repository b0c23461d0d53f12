import ForeignCall.Proofs.Landing
import ForeignCall.Proofs.OwnBuffers

/-!
# The capacity of a variable

Native code that is given a variable as a text trusts the variable's capacity: it may write that
many bytes. Nothing is checked when the buffer is built. What makes the promise good is that
whatever gives a variable a value, an assignment of the script or the write-back of a call, leaves
the capacity above the text, and that the capacity only grows.

A *run* is what happens to one variable while a script goes on. The script requests capacities and
assigns values, and the variable is an operand of calls, each in some system, that write into it or
leave it alone. Native code may have left anything in its slot and its buffer. Decoding can make the
text that comes back longer than the buffer was, and then the capacity grows with it.

## Main definitions

* `Variable.Step`, `Variable.Run` — what happens to a variable, with the capacities requested
* `Variable.Keeps` — the capacity stays, requests are met, and there is room for the text
* `Variable.buffer` — the buffer for a variable

## Main results

* `World.operands_of_callWith` — what a call leaves of its operands
* `World.variable_of_callWith`, `World.variable_of_callShared` — a call leaves a variable as it was,
  or assigns a value to it
* `Variable.Step.keeps`, `Variable.Run.keeps` — what a step keeps, and what a run keeps
* `Variable.argument_of_marshal` — the buffer of a variable that is passed as a text
* `Variable.Run.capacity_spec` — capacities and buffers after any run
-/

namespace ForeignCall

variable {x x' y : Variable} {j : ℕ}

/-! ## One call -/

/-- What stands in place of a variable among the parameters when results were written back. -/
theorem variable_of_finish {m : Memory} {i : Invocation} {p : Plan} {params : List Operand}
    (hx : params[j]? = some (.variable x)) :
    ∃ x', (finish m i p params).2.2[j]? = some (.variable x') ∧
      (x' = x ∨ ∃ v, x' = x.assign v) := by
  rw [finish_operands]
  split
  · exact ⟨x, hx, .inl rfl⟩
  · rcases Nat.even_or_odd' j with ⟨k, rfl | rfl⟩
    · exact ⟨x, by rw [getElem?_writeOutputs_token, hx], .inl rfl⟩
    · cases ha : p.arguments[k]? with
      | none =>
        have hk : p.arguments.length ≤ k := List.getElem?_eq_none_iff.mp ha
        exact ⟨x, by rw [getElem?_writeOutputs_of_le (by omega), hx], .inl rfl⟩
      | some a =>
        rw [getElem?_writeOutputs_value ha hx, writeOutput]
        split
        · next v _ => exact ⟨x.assign v, rfl, .inr ⟨v, rfl⟩⟩
        · exact ⟨x, rfl, .inl rfl⟩

namespace World

variable {w : World} {loader : Loader} {operands : List Operand} {engine : Engine} {r : Report}

/-- **What a call leaves of its operands**: all of them as they were, or the parameters with the
results written back. -/
theorem operands_of_callWith (h : (w.callWith loader operands engine).ending = .returned r) :
    r.operands = operands ∨ ∃ function params m i p, operands = function :: params ∧
      r.operands = function :: (finish m i p params).2.2 := by
  rcases refused_or_landed h with ⟨loader', events, e, he⟩ | ⟨l, hl⟩
  · rw [callWith_of_refused he] at h
    obtain rfl := Ending.returned.inj h
    exact .inl rfl
  · obtain ⟨loader', events, t, hp, -, -⟩ := landing?_eq_some_iff.mp hl
    obtain ⟨function, hlist, -, -, -⟩ := prepare_eq_ok_iff.mp (congrArg (·.2.2) hp)
    rw [ending_callWith_of_landing hl, hlist] at h
    obtain rfl := Ending.returned.inj h
    exact .inr ⟨function, _, _, _, _, hlist, rfl⟩

/-- **A call leaves a variable as it was, or assigns a value to it**, wherever the variable stands
among the operands. -/
theorem variable_of_callWith (h : (w.callWith loader operands engine).ending = .returned r)
    (hx : operands[j]? = some (.variable x)) :
    ∃ x', r.operands[j]? = some (.variable x') ∧ (x' = x ∨ ∃ v, x' = x.assign v) := by
  rcases operands_of_callWith h with hsame | ⟨function, params, m, i, p, rfl, hwritten⟩
  · exact ⟨x, hsame ▸ hx, .inl rfl⟩
  · rw [hwritten]
    cases j with
    | zero => exact ⟨x, hx, .inl rfl⟩
    | succ j => exact variable_of_finish hx

/-- A call through the process-wide loader is a call through the one that it finds, on an engine
that has the loader already. -/
theorem ending_callShared (w : World) (operands : List Operand) (engine : Engine) :
    (w.callShared operands engine).ending =
      (w.callWith (engine.loader.getD {}) operands { engine with
        loader := some (prepare w.libraries ⟨0⟩ (engine.loader.getD {}) operands).1 }).ending :=
  rfl

theorem variable_of_callShared (h : (w.callShared operands engine).ending = .returned r)
    (hx : operands[j]? = some (.variable x)) :
    ∃ x', r.operands[j]? = some (.variable x') ∧ (x' = x ∨ ∃ v, x' = x.assign v) :=
  variable_of_callWith ((ending_callShared w operands engine).symm.trans h) hx

end World

/-! ## Runs -/

namespace Variable

/-- One thing that may happen to a variable, with the capacities that are requested in it. -/
inductive Step : Variable → List ℕ → Variable → Prop where
  | reserve (x : Variable) (bytes : ℕ) : Step x [bytes] (x.reserve bytes)
  | assign (x : Variable) (v : Value) : Step x [] (x.assign v)
  /-- The variable is an operand of a call that comes back. -/
  | callWith {w : World} {loader : Loader} {operands : List Operand} {engine : Engine} {r : Report}
      {j : ℕ} {x x' : Variable} (h : (w.callWith loader operands engine).ending = .returned r)
      (hx : operands[j]? = some (.variable x)) (hx' : r.operands[j]? = some (.variable x')) :
      Step x [] x'
  /-- The same, through the process-wide loader. -/
  | callShared {w : World} {operands : List Operand} {engine : Engine} {r : Report} {j : ℕ}
      {x x' : Variable} (h : (w.callShared operands engine).ending = .returned r)
      (hx : operands[j]? = some (.variable x)) (hx' : r.operands[j]? = some (.variable x')) :
      Step x [] x'

/-- What happens to a variable, one thing after the other, with all the capacities requested. -/
inductive Run : Variable → List ℕ → Variable → Prop where
  | refl (x : Variable) : Run x [] x
  | step {x y z : Variable} {requested now : List ℕ} (run : Run x requested y)
      (step : Step y now z) : Run x (requested ++ now) z

variable {requested later : List ℕ}

/-- A step keeps the capacity, requests and all, and leaves room for the text. -/
structure Keeps (x : Variable) (requested : List ℕ) (x' : Variable) : Prop where
  capacity : x.capacity ≤ x'.capacity
  requested : ∀ n ∈ requested, n ≤ x'.capacity
  room : x.value.textSize < x.capacity → x'.value.textSize < x'.capacity

theorem Keeps.refl (x : Variable) : x.Keeps [] x := ⟨le_rfl, by simp, id⟩

/-- What is kept twice in a row is kept. -/
theorem Keeps.trans (h : x.Keeps requested y) (h' : y.Keeps later x') :
    x.Keeps (requested ++ later) x' := by
  refine ⟨h.capacity.trans h'.capacity, fun n hn => ?_, fun hroom => h'.room (h.room hroom)⟩
  rcases List.mem_append.mp hn with hn | hn
  · exact (h.requested n hn).trans h'.capacity
  · exact h'.requested n hn

theorem keeps_assign (x : Variable) (v : Value) : x.Keeps [] (x.assign v) :=
  ⟨x.capacity_le_assign v, by simp, fun _ => x.textSize_lt_assign v⟩

/-- A call keeps what an assignment keeps. -/
theorem keeps_of_call {after : List Operand}
    (h : ∃ y, after[j]? = some (.variable y) ∧ (y = x ∨ ∃ v, y = x.assign v))
    (hx' : after[j]? = some (.variable x')) : x.Keeps [] x' := by
  obtain ⟨y, hy, hcases⟩ := h
  obtain rfl : y = x' := Operand.variable.inj (Option.some.inj (hy.symm.trans hx'))
  rcases hcases with rfl | ⟨v, rfl⟩
  · exact .refl y
  · exact x.keeps_assign v

theorem Step.keeps (h : Step x requested x') : x.Keeps requested x' := by
  cases h with
  | reserve _ bytes =>
    obtain ⟨hcapacity, hbytes⟩ := x.capacity_le_reserve bytes
    exact ⟨hcapacity, by simpa using hbytes, fun h => lt_of_lt_of_le h hcapacity⟩
  | assign _ v => exact x.keeps_assign v
  | callWith h hx hx' => exact keeps_of_call (World.variable_of_callWith h hx) hx'
  | callShared h hx hx' => exact keeps_of_call (World.variable_of_callShared h hx) hx'

/-- **What a run keeps**, by induction on its steps. -/
theorem Run.keeps (h : Run x requested x') : x.Keeps requested x' := by
  induction h with
  | refl => exact .refl _
  | step run step ih => exact ih.trans step.keeps

/-- A new variable has room for its text. -/
theorem textSize_lt_ofValue (name : String) (v : Value) :
    (ofValue name v).value.textSize < (ofValue name v).capacity :=
  Nat.lt_succ_self _

/-! ## Buffers -/

/-- The buffer for a variable: its text, and zeros up to its capacity. -/
def buffer (x : Variable) (start : UInt64) : Buffer :=
  ⟨start, Utf8.ofString x.value.toText ++ List.replicate (x.capacity - x.value.textSize) 0⟩

/-- A variable with room for its text is given a buffer of just its capacity. -/
theorem ofText_eq_buffer (h : x.value.textSize < x.capacity) (start : UInt64) :
    Buffer.ofText start x.value.toText x.capacity = x.buffer start := by
  have hsize : (Utf8.ofString x.value.toText).length = x.value.textSize := rfl
  rw [Buffer.ofText, buffer, hsize, Nat.max_eq_left h]

theorem length_buffer (h : x.value.textSize < x.capacity) (start : UInt64) :
    (x.buffer start).bytes.length = x.capacity := by
  rw [← ofText_eq_buffer h, Buffer.length_ofText]
  exact Nat.max_eq_left h

/-- A variable that is declared a text is never refused. -/
theorem fillArgument_variable (h : x.value.textSize < x.capacity) {token : Token}
    (hk : token.kind = .text) (site : Site) (index : ℕ) :
    fillArgument site index token (.variable x) =
      .ok (.ofBuffer token (x.buffer (site.buffer index))) := by
  simp only [fillArgument, Argument.fill, hk, textBuffer?, ofText_eq_buffer h]

/-- The argument of a variable that was declared a text, in a marshaled plan. -/
theorem argument_of_marshal {site : Site} {params : List Operand} {p : Plan} {i : ℕ} {a : Argument}
    (h : x.value.textSize < x.capacity) (hp : (marshal site params).2 = .ok p)
    (ha : p.arguments[i]? = some a) (hk : a.token.kind = .text)
    (hx : params[2 * i + 1]? = some (.variable x)) :
    a = .ofBuffer a.token (x.buffer (site.buffer i)) := by
  obtain ⟨t, o, -, ho, -, hfill⟩ := getElem?_arguments_of_marshal hp ha
  obtain rfl : Operand.variable x = o := Option.some.inj (hx.symm.trans ho)
  exact Except.ok.inj (hfill.symm.trans (fillArgument_variable h hk site i))

/-- The buffer of a variable is found in the memory that native code is entered with. -/
theorem tail?_place {p : Plan} {i : ℕ} {token : Token} {start : UInt64}
    (h : x.value.textSize < x.capacity)
    (ha : p.arguments[i]? = some (.ofBuffer token (x.buffer start)))
    (hapart : Memory.Apart p.place) (rest : Memory) :
    (p.place ++ rest).tail? start = some (x.buffer start).bytes := by
  have hmem : (x.buffer start).block ∈ p.place := block_mem_placeFrom ha rfl
  have hpos : 0 < (x.buffer start).bytes.length := by
    rw [length_buffer h]
    omega
  exact Memory.tail?_of_mem (k := 0) hapart hmem (by simp) rfl hpos rest

/-- **Capacities and buffers after any run.** Take a variable at its creation, at some later time
and at one later still. Its capacity has not shrunk in between, is at least each capacity that was
ever requested, and exceeds its text. So when it is now passed as a text, native code is entered
with a buffer of just that capacity, which holds the text and zeros. The slot of the argument leads
to it, and its bytes are those in memory there, as long as the storage of the call does not
overlap. -/
theorem Run.capacity_spec {name : String} {v : Value} (hx : Run (ofValue name v) requested x)
    (hy : Run x later y) :
    x.capacity ≤ y.capacity ∧ (∀ n ∈ requested ++ later, n ≤ y.capacity) ∧
      y.value.textSize < y.capacity ∧
      ∀ (site : Site) (params : List Operand) (p : Plan) (i : ℕ) (a : Argument),
        (marshal site params).2 = .ok p → p.arguments[i]? = some a → a.token.kind = .text →
        params[2 * i + 1]? = some (.variable y) →
          let b := y.buffer (site.buffer i)
          a = .ofBuffer a.token b ∧ b.bytes.length = y.capacity ∧
            (Memory.Apart p.place → ∀ rest, (p.place ++ rest).tail? a.slot = some b.bytes) := by
  have hall := hx.keeps.trans hy.keeps
  have hroom : y.value.textSize < y.capacity := hall.room (textSize_lt_ofValue name v)
  refine ⟨hy.keeps.capacity, hall.requested, hroom, fun site params p i a hp ha hk hparam => ?_⟩
  have hargument := argument_of_marshal hroom hp ha hk hparam
  refine ⟨hargument, length_buffer hroom _, fun hapart rest => ?_⟩
  rw [hargument] at ha ⊢
  exact tail?_place hroom ha hapart rest

end Variable

/-- Native code that stores three bytes, which are no text, where its first argument points. -/
def World.garbling : World where
  libraries := ⟨fun _ => none, fun _ => .error ""⟩
  code a :=
    if a = 4096 then
      some fun r => .store (r.integers.headD 0) [0xFF, 0xFF, 0xFF] (.ret {})
    else none

namespace Variable

/-- A variable of three bytes, for which four are requested. -/
def reserved : Variable := ⟨"s", .text "ab", 4⟩

/-- Three bytes that are no text came back in it. -/
def garbled : Variable := ⟨"s", .text "\uFFFD\uFFFD\uFFFD", 10⟩

/-- The text that came back takes nine bytes, and the next buffer has ten. -/
theorem capacity_spec_garbled :
    let params : List Operand := [.literal (.text "Str"), .variable garbled]
    let b : Buffer := garbled.buffer 0x100100001000
    let p : Plan := { arguments := [.ofBuffer ⟨.text, false, false⟩ b] }
    Run (ofValue "s" (.text "ab")) [4] reserved ∧ Run reserved [] garbled ∧
      (marshal {} params).2 = .ok p ∧ reserved.capacity ≤ garbled.capacity ∧
      (∀ n ∈ [4] ++ [], n ≤ garbled.capacity) ∧ garbled.value.textSize < garbled.capacity ∧
      b.bytes.length = 10 ∧
      p.place.tail? b.start = some [239, 191, 189, 239, 191, 189, 239, 191, 189, 0] := by
  intro params b p
  have hreserved : Run (ofValue "s" (.text "ab")) [4] reserved := .step (.refl _) (.reserve _ 4)
  have hcall : (World.garbling.callWith {}
      [.literal (.int 4096), .literal (.text "Str"), .variable reserved] {}).ending =
        .returned ⟨⟨.int 0, .success⟩,
          [.literal (.int 4096), .literal (.text "Str"), .variable garbled]⟩ := rfl
  have hgarbled : Run reserved [] garbled := .step (.refl _) (.callWith (j := 2) hcall rfl rfl)
  have hp : (marshal {} params).2 = .ok p := by decide +kernel
  have hshort : ∀ a ∈ p.arguments, ∀ c, a.buffer = some c → c.bytes.length ≤ 2 ^ 32 := by
    refine List.forall_mem_singleton.mpr fun c hc => ?_
    obtain rfl := Option.some.inj hc
    decide +kernel
  have hapart : Memory.Apart p.place := Plan.apart_place hp (by decide) (by decide) hshort
  obtain ⟨hcapacity, hrequested, hroom, hbuffer⟩ := hreserved.capacity_spec hgarbled
  obtain ⟨-, hlength, hmemory⟩ := hbuffer {} params p 0 _ hp rfl rfl rfl
  refine ⟨hreserved, hgarbled, hp, hcapacity, hrequested, hroom, hlength, ?_⟩
  rw [← List.append_nil p.place]
  exact (hmemory hapart []).trans (by decide +kernel)

end Variable

end ForeignCall
