import ForeignCall.Proofs.CallLog

/-!
# Rejected calls

The status of a call says on which side of native code it ended. Four statuses are rejections: such
a call has no effect but its loads, its log lines and one counter. Every other status says that
native code was entered for this call, once.

The statement about rejections comes from the preparation: a refusal is all that can lead to one of
the four statuses. The statement about the other calls comes from their log, in which the calls made
by native code are set apart from the call itself.

## Main definitions

* `World.RejectedAtomically` — what a rejected call leaves as it was
* `World.EnteredOnce` — what every other call logs and counts

## Main results

* `World.callWith_rejected_or_entered` — which of the two holds can be read off the status
-/

namespace ForeignCall

namespace World

variable {w : World} {loader : Loader} {operands : List Operand} {engine : Engine} {r : Report}

/-- The rejection of a call is atomic. -/
structure RejectedAtomically (w : World) (loader : Loader) (operands : List Operand)
    (engine : Engine) (r : Report) : Prop where
  /-- There is no native code that could change anything about the call. -/
  independent : ∀ code data nesting,
    ({ w with code, data, nesting } : World).callWith loader operands engine =
      w.callWith loader operands engine
  /-- Native code is not announced. -/
  not_entered : (w.callWith loader operands engine).trace.events.countP Event.isNativeCall = 0
  /-- Of the engine nothing changes but the counter of marshaling errors. -/
  engine_eq : (w.callWith loader operands engine).engine =
    { engine with tally :=
        { engine.tally with marshalingErrors := engine.tally.marshalingErrors +
            if r.outcome.status = .invalidDescriptor then 1 else 0 } }
  /-- All variables are what they were. -/
  operands_eq : r.operands = operands
  /-- The value is the empty one of the declared result. -/
  value_eq : r.outcome.value = .emptyOf (declaredKind operands)
  /-- One rejection is reported. -/
  reported : ∃ error, (w.callWith loader operands engine).trace.events.filter Event.isRejection =
    [if r.outcome.status = .invalidDescriptor then .marshalFailed (callName operands) error
      else .callRejected (callName operands) error]

/-- A call enters native code once: it is announced once, between its preparation and the calls that
native code makes, and counted once, not counting those. -/
def EnteredOnce (w : World) (loader : Loader) (operands : List Operand) (engine : Engine)
    (r : Report) : Prop :=
  ∃ events arguments isTrapReady inner, (∀ e ∈ events, e.isPreparation = true) ∧ CallLogs inner ∧
    (w.callWith loader operands engine).trace =
      enteredLog operands events arguments isTrapReady inner r.outcome.status ∧
    (w.callWith loader operands engine).engine.tally.calls =
      engine.tally.calls + 1 + inner.events.countP Event.isNativeCall

/-- A refused call is rejected atomically. -/
theorem rejectedAtomically_of_refused {e : Refusal}
    (he : (prepare w.libraries ⟨0⟩ loader operands).2.2 = .error e)
    (h : (w.callWith loader operands engine).ending = .returned r) :
    r.outcome.status.isRejection = true ∧ w.RejectedAtomically loader operands engine r := by
  obtain ⟨loader', events, hp⟩ := exists_prepare_eq he
  obtain ⟨hending, hreported⟩ : w.Rejects loader operands engine e.reason := rejects_of_refused he
  rw [hending] at h
  obtain rfl := Ending.returned.inj h
  refine ⟨e.reason.isRejection_status, ?_, ?_, ?_, rfl, rfl, ?_⟩
  · intro code data nesting
    rw [callWith_of_refused hp]
    exact callWith_of_refused hp
  · rw [events_of_refused hp, List.countP_append,
      Event.countP_isNativeCall_of_isPreparation fun a ha => isPreparation_of_mem_prepare hp ha]
    cases e.reason <;> rfl
  · rw [callWith_of_refused hp]
    cases e.reason <;> simp [Tally.afterRejection, Rejection.status]
  · rw [hreported]
    cases e.reason <;> simp [Rejection.event, Rejection.status]

/-- A call that enters native code does so once. -/
theorem enteredOnce_of_ready {c : Prepared}
    (hc : (prepare w.libraries ⟨0⟩ loader operands).2.2 = .ok c)
    (h : (w.callWith loader operands engine).ending = .returned r) :
    r.outcome.status.isRejection = false ∧ w.EnteredOnce loader operands engine r := by
  have haccepted : r.outcome.status.isRejection = false := (enters_of_ready hc).accepted r h
  refine ⟨haccepted, ?_⟩
  obtain ⟨hlog, htally⟩ := callWith_log h
  have hcalls : (w.callWith loader operands engine).engine.tally.calls = engine.tally.calls +
      (w.callWith loader operands engine).trace.events.countP Event.isNativeCall := by
    rw [htally, Tally.calls_afterEvents]
  rw [EnteredOnce]
  generalize (w.callWith loader operands engine).trace = log at hlog hcalls ⊢
  generalize r.outcome.status = status at hlog haccepted ⊢
  cases hlog with
  | @refused _ _ reason _ =>
    rw [reason.isRejection_status] at haccepted
    exact absurd haccepted.symm Bool.false_ne_true
  | @entered _ events arguments isTrapReady inner _ hprepared _ hinner =>
    refine ⟨events, arguments, isTrapReady, inner, hprepared, hinner, rfl, ?_⟩
    rw [hcalls, countP_isNativeCall_enteredLog hprepared]
    omega

/-- **Rejected calls are atomic, and all others enter native code once.** Which of the two happened
can be read off the status. -/
theorem callWith_rejected_or_entered
    (h : (w.callWith loader operands engine).ending = .returned r) :
    if r.outcome.status.isRejection then w.RejectedAtomically loader operands engine r
    else w.EnteredOnce loader operands engine r := by
  rcases hc : (prepare w.libraries ⟨0⟩ loader operands).2.2 with e | c
  · obtain ⟨hstatus, hrejected⟩ := rejectedAtomically_of_refused hc h
    rw [if_pos hstatus]
    exact hrejected
  · obtain ⟨hstatus, hentered⟩ := enteredOnce_of_ready hc h
    rw [if_neg (by rw [hstatus]; exact Bool.false_ne_true)]
    exact hentered

/-- A call whose first argument is a text, and whose second one should be a number and is not. -/
def malformedOperands : List Operand :=
  [.literal (.int 4096), .literal (.text "Str"), .variable ⟨"s", .text "abc", 16⟩,
    .literal (.text "Int*"), .variable ⟨"n", .text "x", 4⟩, .literal (.text "Float")]

/-- The bad call is rejected, and the good one enters native code although it ends in a fault. -/
theorem callWith_rejected_or_entered_storing :
    storing.RejectedAtomically {} malformedOperands {}
        ⟨⟨.real .zero, .invalidDescriptor⟩, malformedOperands⟩ ∧
      storing.EnteredOnce {} (storingOperands 16) {}
        ⟨⟨.int 0, .calleeFault 11⟩, storingOperands 7⟩ := by
  have hmalformed : (storing.callWith {} malformedOperands {}).ending =
      .returned ⟨⟨.real .zero, .invalidDescriptor⟩, malformedOperands⟩ := rfl
  have hfault : (storing.callWith {} (storingOperands 16) {}).ending =
      .returned ⟨⟨.int 0, .calleeFault 11⟩, storingOperands 7⟩ := rfl
  exact ⟨callWith_rejected_or_entered hmalformed, callWith_rejected_or_entered hfault⟩

end World

end ForeignCall
