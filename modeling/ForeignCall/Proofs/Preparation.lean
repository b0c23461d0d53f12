import ForeignCall.Call
import ForeignCall.Proofs.Pairs

/-!
# Preparing a call

What a call does before native code runs. It has an outcome of its own, a call that is ready or a
refusal, and it leaves events behind. Both are described here without the order of the checks: a
ready call is a resolved function together with the plan of its parameters, and a refusal carries
the name of the function and the kind of the declared result, whichever check it failed.

## Main definitions

* `declaredKind` — the kind of the declared result, `Int` as long as none is known
* `Event.isPreparation`, `Event.isNativeCall`, `Event.isRejection` — classes of events
* `Status.isRejection` — the statuses of calls that did not enter native code

## Main results

* `prepare_eq_ok_iff` — when a call is ready
* `refusal_of_prepare` — what a refusal carries
* `isPreparation_of_mem_prepare` — preparing loads libraries and converts values, and does nothing
  else that is worth a log line
-/

namespace ForeignCall

variable {w : Libraries} {site : Site} {loader : Loader} {operands : List Operand}

/-- The kind of the declared result of a call. It is `Int` when the return token is bad, and for a
list without a function operand. -/
def declaredKind : List Operand → Kind
  | [] => .int32
  | _ :: params =>
    match resultToken (splitResult params).2 with
    | .ok (token, _) => token.kind
    | .error _ => .int32

/-! ## Classes of events and statuses -/

namespace Event

/-- Whether an event belongs to the preparation of a call. -/
def isPreparation : Event → Bool
  | .typeConversion .. | .libraryLoad .. => true
  | _ => false

/-- Whether an event announces that native code is entered. -/
def isNativeCall : Event → Bool
  | .nativeCall .. => true
  | _ => false

/-- Whether an event reports that a call was rejected. -/
def isRejection : Event → Bool
  | .callRejected .. | .marshalFailed .. => true
  | _ => false

theorem isNativeCall_of_isPreparation {e : Event} (h : e.isPreparation = true) :
    e.isNativeCall = false := by
  cases e <;> simp_all [isPreparation, isNativeCall]

theorem isRejection_of_isPreparation {e : Event} (h : e.isPreparation = true) :
    e.isRejection = false := by
  cases e <;> simp_all [isPreparation, isRejection]

/-- Preparations announce no entry into native code. -/
theorem countP_isNativeCall_of_isPreparation {events : List Event}
    (h : ∀ e ∈ events, e.isPreparation = true) : events.countP isNativeCall = 0 := by
  refine List.countP_eq_zero.mpr fun e he => ?_
  rw [isNativeCall_of_isPreparation (h e he)]
  exact Bool.false_ne_true

end Event

/-- Whether a status says that native code was not entered. -/
def Status.isRejection : Status → Bool
  | .invalidInvocation | .invalidDescriptor | .libraryLoadFailure | .symbolResolutionFailure => true
  | .success | .stackImbalance _ | .calleeFault _ => false

theorem Status.isRejection_afterCall (delta : Int32) (fault : UInt32) :
    (Status.afterCall delta fault).isRejection = false := by
  rw [Status.afterCall]
  split
  · rfl
  · split <;> rfl

theorem Rejection.isRejection_status (r : Rejection) : r.status.isRejection = true := by
  cases r <;> rfl

theorem Rejection.isRejection_event (r : Rejection) (name : String) :
    (r.event name).isRejection = true := by
  cases r <;> rfl

/-! ## Calls that are ready -/

/-- What a preparation comes to, with its loader and its events. -/
theorem exists_prepare_eq {c : Except Refusal Prepared}
    (h : (prepare w site loader operands).2.2 = c) :
    ∃ loader' events, prepare w site loader operands = (loader', events, c) := by
  subst h
  exact ⟨_, _, rfl⟩

/-- A call is ready exactly if its function resolves and its parameters marshal. -/
theorem prepare_eq_ok_iff {c : Prepared} :
    (prepare w site loader operands).2.2 = .ok c ↔
      ∃ function, operands = function :: c.params ∧ c.function = function.text ∧
        (loader.resolveValue w function.value).2.2 = .ok c.target ∧
        (marshal site c.params).2 = .ok c.plan := by
  cases operands with
  | nil => simp [prepare]
  | cons function params =>
    obtain ⟨name, target, plan, params'⟩ := c
    simp only [prepare, prepareFunction, marshal]
    constructor
    · intro h
      split at h
      · exact absurd h (by simp)
      · next result convention hresult =>
        split at h
        · exact absurd h (by simp)
        · next target' htarget =>
          split at h
          · exact absurd h (by simp)
          · next as has =>
            simp only [Except.ok.injEq, Prepared.mk.injEq] at h
            obtain ⟨rfl, rfl, rfl, rfl⟩ := h
            exact ⟨function, rfl, rfl, htarget, by simp [hresult, has, Except.map]⟩
    · rintro ⟨f, hlist, hname, htarget, hplan⟩
      obtain ⟨rfl, rfl⟩ := List.cons.inj hlist
      cases hresult : resultToken (splitResult params).2 with
      | error e => simp [hresult] at hplan
      | ok r =>
        cases has : (marshalPairs site 0 (splitResult params).1).2 with
        | error e => simp [hresult, has, Except.map] at hplan
        | ok as =>
          simp only [hresult, has, Except.map, Except.ok.injEq] at hplan
          simp [htarget, hname, hplan]

/-! ## Refusals -/

/-- **A refusal carries the name of the function and the kind of the declared result**, whichever
check failed. -/
theorem refusal_of_prepare {e : Refusal} (h : (prepare w site loader operands).2.2 = .error e) :
    e = ⟨callName operands, e.reason, declaredKind operands⟩ := by
  cases operands with
  | nil =>
    obtain rfl := Except.error.inj h
    rfl
  | cons function params =>
    simp only [prepare, prepareFunction] at h
    rw [declaredKind]
    split at h
    · next hresult =>
      obtain rfl := Except.error.inj h
      rw [hresult]
      rfl
    · next result convention hresult =>
      rw [hresult]
      split at h
      · obtain rfl := Except.error.inj h
        rfl
      · split at h
        · obtain rfl := Except.error.inj h
          rfl
        · exact absurd h (by simp)

theorem function_of_prepare {e : Refusal} (h : (prepare w site loader operands).2.2 = .error e) :
    e.function = callName operands :=
  congrArg Refusal.function (refusal_of_prepare h)

theorem result_of_prepare {e : Refusal} (h : (prepare w site loader operands).2.2 = .error e) :
    e.result = declaredKind operands :=
  congrArg Refusal.result (refusal_of_prepare h)

/-! ## Events -/

theorem isPreparation_of_mem_load {name : String} {e : Event}
    (h : e ∈ (loader.load w name).2.1) : e.isPreparation = true := by
  rw [Loader.load] at h
  split at h
  · exact absurd h (by simp)
  · split at h
    all_goals
      obtain rfl := List.mem_singleton.mp h
      rfl

theorem isPreparation_of_mem_loadAll {names : List String} {e : Event}
    (h : e ∈ (loader.loadAll w names).2.1) : e.isPreparation = true := by
  induction names generalizing loader with
  | nil => exact absurd h (by simp [Loader.loadAll])
  | cons name names ih =>
    rw [Loader.loadAll] at h
    rcases List.mem_append.mp h with h | h
    · exact isPreparation_of_mem_load h
    · exact ih h

theorem isPreparation_of_mem_resolveValue {v : Value} {e : Event}
    (h : e ∈ (loader.resolveValue w v).2.1) : e.isPreparation = true := by
  rw [Loader.resolveValue] at h
  split at h
  · exact absurd h (by simp)
  · next r _ =>
    unfold Loader.resolve at h
    split at h
    · exact absurd h (by simp)
    · simp only at h
      split at h
      all_goals exact isPreparation_of_mem_load h
    · simp only [Loader.searchScopes] at h
      split at h
      · exact absurd h (by simp)
      · exact isPreparation_of_mem_loadAll h

theorem isPreparation_of_mem_marshalPairs {index : ℕ} {e : Event}
    (h : e ∈ (marshalPairs site index operands).1) : e.isPreparation = true := by
  fun_induction marshalPairs site index operands with
  | case1 | case2 | case3 => exact absurd h (by simp)
  | case4 =>
    obtain rfl := List.mem_singleton.mp h
    rfl
  | case5 index t o rest token _ converted a _ events r hr ih =>
    rcases List.mem_cons.mp h with rfl | h
    · rfl
    · rw [hr] at ih
      exact ih h

/-- **Preparing is silent but for loading and converting.** -/
theorem isPreparation_of_mem_prepare {loader' : Loader} {events : List Event}
    {c : Except Refusal Prepared} (hp : prepare w site loader operands = (loader', events, c))
    {e : Event} (he : e ∈ events) : e.isPreparation = true := by
  have h : e ∈ (prepare w site loader operands).2.1 := by rw [hp]; exact he
  cases operands with
  | nil => exact absurd h (by simp [prepare])
  | cons function params =>
    simp only [prepare, prepareFunction] at h
    split at h
    · exact absurd h (by simp)
    · split at h
      · exact isPreparation_of_mem_resolveValue h
      · rcases List.mem_append.mp h with h | h
        · exact isPreparation_of_mem_resolveValue h
        · exact isPreparation_of_mem_marshalPairs h

end ForeignCall
