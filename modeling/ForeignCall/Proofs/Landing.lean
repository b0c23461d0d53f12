import ForeignCall.Proofs.Outputs
import ForeignCall.Proofs.Preparation

/-!
# Where a call lands

A call either is refused, or it enters native code. What native code leaves behind when it comes
back, by returning or by a trapped signal, is the *landing* of the call: its return registers or
its fault, the plan with the contents that slots and buffers have then, and the memory that results
are read from. Everything that the script gets to see is computed from the landing by `finish`.

A call whose signal nothing traps has no landing, and no outcome either: the process is gone.

## Main definitions

* `Landing`, `World.landing?` — what native code leaves behind in a call
* `World.entered` — what a ready call comes to
* `World.Rejects`, `World.Enters` — the two ways a call goes

## Main results

* `World.callWith_of_refused`, `World.callWith_of_ready` — all that a refused and a ready call do
* `World.rejects_of_refused`, `World.enters_of_ready` — the same, as a script sees it
* `World.ending_callWith_of_landing` — the outcome of a call from its landing
* `World.refused_or_landed` — a call with an outcome was refused or has landed
* `World.operands_eq_iff_of_calleeFault` — after a fault the operands are what they were, *unless*
  native code came back and only the reading of its result faulted
-/

namespace ForeignCall

/-- What native code leaves behind in a call. -/
structure Landing where
  call : Prepared
  invocation : Invocation
  plan : Plan
  memory : Memory

/-- Value, status and parameters after a call, from its landing. -/
def Landing.results (l : Landing) : Value × Status × List Operand :=
  finish l.memory l.invocation l.plan l.call.params

/-- What native code comes back with is not reported as a rejection. -/
theorem isRejection_finish {m : Memory} {i : Invocation} {p : Plan} {params : List Operand} :
    (finish m i p params).2.1.isRejection = false := by
  rw [finish_status]
  exact Status.isRejection_afterCall _ _

namespace World

variable {w : World} {loader : Loader} {operands : List Operand} {engine : Engine}

/-- The thread of a call when its preparation is over. -/
def prepared (w : World) (operands : List Operand) (events : List Event) (engine : Engine) :
    Thread Machine :=
  ⟨({ memory := w.data, engine } : Machine).log (spanStart operands ++ .ofEvents events), []⟩

/-- The landing of a call through a loader of its own. -/
def landing? (w : World) (loader : Loader) (operands : List Operand) (engine : Engine) :
    Option Landing :=
  match prepare w.libraries ⟨0⟩ loader operands with
  | (_, _, .error _) => none
  | (_, events, .ok c) =>
    match w.invoke (w.nestedCall w.nesting) c.target c.plan
        ((w.prepared operands events engine).modify (·.beginCall c)) with
    | (.returned (invocation, plan), t) => some ⟨c, invocation, plan, t.state.memory⟩
    | _ => none

/-! ## Refused calls -/

/-- All that a refused call does: it leaves the loader as the preparation did, reports the events
of the preparation and the refusal, and counts the refusal. -/
theorem callWith_of_refused {loader' : Loader} {events : List Event} {e : Refusal}
    (h : prepare w.libraries ⟨0⟩ loader operands = (loader', events, .error e)) :
    w.callWith loader operands engine =
      { ending := .returned ⟨.rejected e.reason e.result, operands⟩
        loader := loader'
        engine := { engine with tally := engine.tally.afterRejection e.reason }
        trace := spanStart operands ++ .ofEvents events ++ [.event (e.reason.event e.function)] ++
          spanEnd operands } := by
  rw [callWith, h]
  rfl

/-- The events of a refused call. -/
theorem events_of_refused {loader' : Loader} {events : List Event} {e : Refusal}
    (h : prepare w.libraries ⟨0⟩ loader operands = (loader', events, .error e)) :
    (w.callWith loader operands engine).trace.events =
      events ++ [e.reason.event (callName operands)] := by
  rw [callWith_of_refused h, function_of_prepare (congrArg (·.2.2) h)]
  simp only [Trace.events_append, events_spanStart, events_spanEnd, Trace.events_ofEvents,
    List.nil_append, List.append_nil]
  rfl

/-- A refused call reports one rejection. -/
theorem rejections_of_refused {loader' : Loader} {events : List Event} {e : Refusal}
    (h : prepare w.libraries ⟨0⟩ loader operands = (loader', events, .error e)) :
    (w.callWith loader operands engine).trace.events.filter Event.isRejection =
      [e.reason.event (callName operands)] := by
  have hsilent : events.filter Event.isRejection = [] := by
    refine List.filter_eq_nil_iff.mpr fun a ha => ?_
    rw [Event.isRejection_of_isPreparation (isPreparation_of_mem_prepare h ha)]
    exact Bool.false_ne_true
  rw [events_of_refused h, List.filter_append, hsilent, List.nil_append]
  exact List.filter_cons_of_pos (e.reason.isRejection_event _)

/-- A call is rejected for a reason: it comes back with the status of the reason, the empty value
of its declared result and its operands as they were, and reports this rejection and no other. -/
structure Rejects (w : World) (loader : Loader) (operands : List Operand) (engine : Engine)
    (reason : Rejection) : Prop where
  ending : (w.callWith loader operands engine).ending =
    .returned ⟨⟨.emptyOf (declaredKind operands), reason.status⟩, operands⟩
  events : (w.callWith loader operands engine).trace.events.filter Event.isRejection =
    [reason.event (callName operands)]

/-- A refused call is rejected. -/
theorem rejects_of_refused {e : Refusal}
    (h : (prepare w.libraries ⟨0⟩ loader operands).2.2 = .error e) :
    w.Rejects loader operands engine e.reason := by
  obtain ⟨loader', events, hp⟩ := exists_prepare_eq h
  refine ⟨?_, rejections_of_refused hp⟩
  rw [callWith_of_refused hp, ← result_of_prepare (congrArg (·.2.2) hp)]
  rfl

/-! ## Calls that enter native code -/

/-- What a ready call comes to. Native code is entered with the plan of the call; if it comes back,
its landing is reported and written back. -/
def entered (w : World) (loader' : Loader) (operands : List Operand) (events : List Event)
    (c : Prepared) (engine : Engine) : CallResult :=
  match w.invoke (w.nestedCall w.nesting) c.target c.plan
      ((w.prepared operands events engine).modify (·.beginCall c)) with
  | (.returned (invocation, plan), t) =>
    let (value, status, params) := Landing.results ⟨c, invocation, plan, t.state.memory⟩
    let m := t.state.endCall c status
    ⟨.returned ⟨⟨value, status⟩, operands.take 1 ++ params⟩, loader', m.engine,
      m.trace ++ spanEnd operands⟩
  | (.unwinding point signal, t) =>
    ⟨.unwinding point signal, loader', t.state.engine, t.state.trace⟩
  | (.died signal, t) => ⟨.died signal, loader', t.state.engine, t.state.trace⟩

/-- All that a ready call does. -/
theorem callWith_of_ready {loader' : Loader} {events : List Event} {c : Prepared}
    (h : prepare w.libraries ⟨0⟩ loader operands = (loader', events, .ok c)) :
    w.callWith loader operands engine = w.entered loader' operands events c engine := by
  rw [callWith, h, entered]
  simp only [complete]
  rw [show ({ state := { memory := w.data, engine }, points := [] } : Thread Machine).modify
      (·.log (spanStart operands ++ .ofEvents events)) = w.prepared operands events engine from rfl,
    perform]
  rcases w.invoke (w.nestedCall w.nesting) c.target c.plan
    ((w.prepared operands events engine).modify (·.beginCall c)) with ⟨i | _ | _, t⟩
  all_goals rfl

/-- A call that entered native code is not reported as a rejection. -/
theorem isRejection_of_entered {loader' : Loader} {events : List Event} {c : Prepared} {r : Report}
    (h : (w.entered loader' operands events c engine).ending = .returned r) :
    r.outcome.status.isRejection = false := by
  rw [entered] at h
  split at h
  · obtain rfl := Ending.returned.inj h
    exact isRejection_finish
  · exact absurd h (by simp)
  · exact absurd h (by simp)

/-- A call enters native code with the given target and plan, and is not reported as rejected. -/
structure Enters (w : World) (loader : Loader) (operands : List Operand) (engine : Engine)
    (c : Prepared) : Prop where
  entered : ∃ loader' events,
    w.callWith loader operands engine = w.entered loader' operands events c engine
  accepted : ∀ r, (w.callWith loader operands engine).ending = .returned r →
    r.outcome.status.isRejection = false

/-- A ready call enters native code with its target and its plan. -/
theorem enters_of_ready {c : Prepared}
    (h : (prepare w.libraries ⟨0⟩ loader operands).2.2 = .ok c) :
    w.Enters loader operands engine c := by
  obtain ⟨loader', events, hp⟩ := exists_prepare_eq h
  have hentered : w.callWith loader operands engine = w.entered loader' operands events c engine :=
    callWith_of_ready hp
  refine ⟨⟨loader', events, hentered⟩, fun r hr => ?_⟩
  rw [hentered] at hr
  exact isRejection_of_entered hr

/-! ## Landed calls -/

/-- What `landing?` says about the preparation and the invocation. -/
theorem landing?_eq_some_iff {l : Landing} :
    w.landing? loader operands engine = some l ↔
      ∃ loader' events t, prepare w.libraries ⟨0⟩ loader operands = (loader', events, .ok l.call) ∧
        w.invoke (w.nestedCall w.nesting) l.call.target l.call.plan
            ((w.prepared operands events engine).modify (·.beginCall l.call)) =
          (.returned (l.invocation, l.plan), t) ∧
        t.state.memory = l.memory := by
  obtain ⟨c, invocation, plan, memory⟩ := l
  rw [landing?]
  constructor
  · intro h
    split at h
    · exact absurd h (by simp)
    · next loader' events c' hp =>
      split at h
      · next i p t hi =>
        simp only [Option.some.injEq, Landing.mk.injEq] at h
        obtain ⟨rfl, rfl, rfl, hm⟩ := h
        exact ⟨loader', events, t, hp, hi, hm⟩
      · exact absurd h (by simp)
  · rintro ⟨loader', events, t, hp, hi, hm⟩
    simp only at hp hi hm
    rw [hp]
    simp only [hi, hm]

/-- **The outcome of a call from its landing.** -/
theorem ending_callWith_of_landing {l : Landing}
    (h : w.landing? loader operands engine = some l) :
    (w.callWith loader operands engine).ending =
      .returned ⟨⟨l.results.1, l.results.2.1⟩, operands.take 1 ++ l.results.2.2⟩ := by
  obtain ⟨loader', events, t, hp, hi, hm⟩ := landing?_eq_some_iff.mp h
  rw [callWith_of_ready hp, entered, hi]
  simp only [hm]

/-- A call with an outcome was refused, or it has landed. -/
theorem refused_or_landed {r : Report}
    (h : (w.callWith loader operands engine).ending = .returned r) :
    (∃ loader' events e, prepare w.libraries ⟨0⟩ loader operands = (loader', events, .error e)) ∨
      ∃ l, w.landing? loader operands engine = some l := by
  rcases hp : prepare w.libraries ⟨0⟩ loader operands with ⟨loader', events, e | c⟩
  · exact .inl ⟨loader', events, e, rfl⟩
  · refine .inr ?_
    rw [callWith_of_ready hp, entered] at h
    rw [landing?, hp]
    simp only
    split at h
    · next hi =>
      rw [hi]
      exact ⟨_, rfl⟩
    · exact absurd h (by simp)
    · exact absurd h (by simp)

/-! ## After a fault -/

/-- A call is reported as a fault if native code faulted, or if it came back and its result could
not be read. -/
theorem of_finish_eq_calleeFault {m : Memory} {i : Invocation} {p : Plan} {params : List Operand}
    {code : UInt32} (h : (finish m i p params).2.1 = .calleeFault code) :
    if i.hasFaulted then i.fault = code else readResult m p.result i.returned = .faulted code := by
  rw [finish_status] at h
  have hfault : (if i.hasFaulted then i.fault else (readResult m p.result i.returned).fault) =
      code ∧ code ≠ 0 := Status.of_afterCall_eq_calleeFault h
  split at hfault
  · next hf =>
    rw [if_pos hf]
    exact hfault.1
  · next hf =>
    rw [if_neg hf]
    cases hread : readResult m p.result i.returned with
    | completed v =>
      rw [hread] at hfault
      exact absurd hfault.1.symm hfault.2
    | faulted signal =>
      rw [hread] at hfault
      rw [← hfault.1]
      rfl

/-- **A fault leaves the operands alone, unless it came with the result.** When native code itself
faulted nothing is written back. When it came back and only the reading of its result faulted,
outputs are written all the same, so that the operands are what they were exactly if no output
differs from what its variable holds. -/
theorem operands_eq_iff_of_calleeFault {r : Report} {code : UInt32}
    (h : (w.callWith loader operands engine).ending = .returned r)
    (hcode : r.outcome.status = .calleeFault code) :
    ∃ l, w.landing? loader operands engine = some l ∧
      (if l.invocation.hasFaulted then l.invocation.fault = code
        else readResult l.memory l.plan.result l.invocation.returned = .faulted code) ∧
      (r.operands = operands ↔ l.invocation.hasFaulted = true ∨
        ∀ i a x v, l.plan.arguments[i]? = some a →
          l.call.params[2 * i + 1]? = some (.variable x) →
          a.output? (memoryAt l.memory l.plan.arguments l.call.params i) x = some v →
          x.assign v = x) := by
  rcases refused_or_landed h with ⟨loader', events, e, he⟩ | ⟨l, hl⟩
  · rw [callWith_of_refused he] at h
    obtain rfl := Ending.returned.inj h
    exact absurd hcode (e.reason.status_ne_calleeFault code)
  · refine ⟨l, hl, ?_, ?_⟩
    · rw [ending_callWith_of_landing hl] at h
      obtain rfl := Ending.returned.inj h
      exact of_finish_eq_calleeFault hcode
    · obtain ⟨loader', events, t, hp, -, -⟩ := landing?_eq_some_iff.mp hl
      obtain ⟨function, hlist, -, -, -⟩ := prepare_eq_ok_iff.mp (congrArg (·.2.2) hp)
      rw [ending_callWith_of_landing hl, hlist] at h
      obtain rfl := Ending.returned.inj h
      rw [hlist, List.take_succ_cons, List.take_zero, List.singleton_append, List.cons.injEq,
        Landing.results, finish_operands]
      cases hf : l.invocation.hasFaulted with
      | true => simp
      | false => simpa using writeOutputs_eq_self_iff

/-- Native code that stores the byte 7 where its first argument points, and returns the address 16,
at which nothing can be read. -/
def storing : World where
  libraries := ⟨fun _ => none, fun _ => .error ""⟩
  code a :=
    if a = 4096 then
      some fun r => .store (r.integers.headD 0) [7] (.ret { integer := 16 })
    else none

/-- A call to it by address, with an integer passed by address and a result returned by address. -/
def storingOperands (n : Int64) : List Operand :=
  [.literal (.int 4096), .literal (.text "Int64*"), .variable ⟨"n", .int n, 3⟩,
    .literal (.text "CDecl Int64*")]

/-- The argument was written, and the result could not be read. -/
theorem operands_eq_iff_of_calleeFault_storing :
    (storing.callWith {} (storingOperands 16) {}).ending =
        .returned ⟨⟨.int 0, .calleeFault 11⟩, storingOperands 7⟩ ∧
      ∃ l, storing.landing? {} (storingOperands 16) {} = some l ∧
        (if l.invocation.hasFaulted then l.invocation.fault = 11
          else readResult l.memory l.plan.result l.invocation.returned = .faulted 11) ∧
        (storingOperands 7 = storingOperands 16 ↔ l.invocation.hasFaulted = true ∨
          ∀ i a x v, l.plan.arguments[i]? = some a →
            l.call.params[2 * i + 1]? = some (.variable x) →
            a.output? (memoryAt l.memory l.plan.arguments l.call.params i) x = some v →
            x.assign v = x) :=
  have h : (storing.callWith {} (storingOperands 16) {}).ending =
      .returned ⟨⟨.int 0, .calleeFault 11⟩, storingOperands 7⟩ := rfl
  ⟨h, operands_eq_iff_of_calleeFault h rfl⟩

/-- A reported fault does not mean that no output was written. -/
theorem not_operands_eq_of_calleeFault :
    ¬ ∀ (w : World) (loader : Loader) (operands : List Operand) (engine : Engine) (r : Report)
        (code : UInt32), (w.callWith loader operands engine).ending = .returned r →
      r.outcome.status = .calleeFault code → r.operands = operands := by
  intro h
  have hstoring : (storing.callWith {} (storingOperands 16) {}).ending =
      .returned ⟨⟨.int 0, .calleeFault 11⟩, storingOperands 7⟩ := rfl
  exact absurd (h _ _ _ _ _ _ hstoring rfl) (by decide)

end World

end ForeignCall
