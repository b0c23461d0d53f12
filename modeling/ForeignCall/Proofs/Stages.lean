import ForeignCall.Proofs.Landing

/-!
# The order of the checks

Six things can be wrong with a call before native code runs, and several of them at once. Here each
check is stated on its own, as a function of the operands and of the loader as it was at the start:
`Stage.failure?` says what is wrong at a stage whatever the other stages say. The call itself
interleaves the checks with loading and converting; the main statement is that what it reports is
the first failure in the order of `Stage.all`, and nothing else.

The second statement is about the two ways to a plan. A call does not go through `marshal`; it
takes the same steps one by one, with the resolution of the function in between. When the function
resolves the two ways agree, in their errors as well as in their plans.

## Main definitions

* `Stage`, `Stage.all`, `Stage.status` — the checks, their order, and the statuses they lead to
* `Stage.failure?` — what is wrong at a stage, seen on its own

## Main results

* `Stage.status_of_failure?` — a stage fails with its own status only
* `rejectionOf_prepare` — preparing a call fails with the first failure
* `prepare_of_resolved` — preparing a call whose function resolves is marshaling its parameters
* `World.callWith_eq_first_failure` — both, for whole calls
-/

namespace ForeignCall

/-- The checks of a call before native code runs. -/
inductive Stage where
  /-- There is a function operand. -/
  | function
  /-- The return token is one. -/
  | result
  /-- The function operand is a reference. -/
  | reference
  /-- The library of the reference loads. -/
  | library
  /-- The symbol of the reference is exported. -/
  | symbol
  /-- The parameters are pairs of a type token and a value of that type. -/
  | arguments
  deriving DecidableEq, Repr

/-- The rejection that a failed check comes to. -/
def rejectionOf {ε α : Type} (f : ε → Rejection) : Except ε α → Option Rejection
  | .ok _ => none
  | .error e => some (f e)

@[simp] theorem rejectionOf_ok {ε α : Type} (f : ε → Rejection) (a : α) :
    rejectionOf f (.ok a) = none := rfl

@[simp] theorem rejectionOf_error {ε α : Type} (f : ε → Rejection) (e : ε) :
    rejectionOf f (.error e : Except ε α) = some (f e) := rfl

theorem rejectionOf_eq_some_iff {ε α : Type} {f : ε → Rejection} {x : Except ε α}
    {reason : Rejection} : rejectionOf f x = some reason ↔ ∃ e, x = .error e ∧ f e = reason := by
  cases x <;> simp

theorem rejectionOf_eq_none_iff {ε α : Type} {f : ε → Rejection} {x : Except ε α} :
    rejectionOf f x = none ↔ ∃ a, x = .ok a := by
  cases x <;> simp

/-- A reference that names nothing, and the null address, are malformed. -/
def referenceFailure? (v : Value) : Option Rejection :=
  match Reference.ofValue v with
  | .error e => some (.invalidFunction e.text)
  | .ok (.address a) => if a = 0 then some (.invalidFunction "0") else none
  | .ok (.symbol ..) => none

/-- A library that is named has to be loaded already, or to load. -/
def libraryFailure? (w : Libraries) (loader : Loader) (v : Value) : Option Rejection :=
  match Reference.ofValue v with
  | .ok (.symbol (some library) _) =>
    if library ∈ loader.loaded then none
    else rejectionOf (fun reason => .load ⟨library, reason⟩) (w.load library)
  | _ => none

/-- A symbol has to be exported by its library, or by one of the scopes when none is named. -/
def symbolFailure? (w : Libraries) (loader : Loader) (v : Value) : Option Rejection :=
  match Reference.ofValue v with
  | .ok (.symbol (some library) name) =>
    if (w.exports ⟨library⟩).lookup? name = none then some (.symbol ⟨name, some library⟩) else none
  | .ok (.symbol none name) =>
    if ∀ s ∈ (loader.searchScopes w).2.2, (s.exports w).lookup? name = none then
      some (.symbol ⟨name, none⟩)
    else none
  | _ => none

namespace Stage

/-- The checks in their order. -/
def all : List Stage := [.function, .result, .reference, .library, .symbol, .arguments]

/-- The status of a call that fails at a stage. -/
def status : Stage → Status
  | .function | .reference => .invalidInvocation
  | .result | .arguments => .invalidDescriptor
  | .library => .libraryLoadFailure
  | .symbol => .symbolResolutionFailure

/-- What is wrong at a stage, seen on its own. Without a function operand there is nothing to look
at behind the first stage. -/
def failure? (w : Libraries) (site : Site) (loader : Loader) :
    Stage → List Operand → Option Rejection
  | .function, [] => some .missingFunction
  | _, [] => none
  | .function, _ :: _ => none
  | .result, _ :: params => rejectionOf .marshal (resultToken (splitResult params).2)
  | .reference, f :: _ => referenceFailure? f.value
  | .library, f :: _ => libraryFailure? w loader f.value
  | .symbol, f :: _ => symbolFailure? w loader f.value
  | .arguments, _ :: params =>
    rejectionOf .marshal (marshalPairs site 0 (splitResult params).1).2

/-- The rejection of the first stage that fails. -/
def firstFailure? (w : Libraries) (site : Site) (loader : Loader) (operands : List Operand) :
    Option Rejection :=
  all.findSome? fun s => s.failure? w site loader operands

theorem mem_all (s : Stage) : s ∈ all := by
  cases s <;> decide

end Stage

variable {w : Libraries} {site : Site} {loader : Loader} {operands : List Operand}

/-! ## Resolving in stages -/

/-- What loading a library yields. -/
theorem load_result (w : Libraries) (loader : Loader) (name : String) :
    (loader.load w name).2.2 =
      if name ∈ loader.loaded then .ok ⟨name⟩
      else (w.load name).mapError (⟨name, ·⟩) |>.map fun _ => ⟨name⟩ := by
  rw [Loader.load]
  split
  · rfl
  · cases w.load name <;> rfl

/-- Resolving a function operand fails at the first of its three stages that fails. -/
theorem rejectionOf_resolveValue (w : Libraries) (loader : Loader) (v : Value) :
    rejectionOf .ofResolve (loader.resolveValue w v).2.2 =
      (referenceFailure? v).or ((libraryFailure? w loader v).or (symbolFailure? w loader v)) := by
  rw [referenceFailure?, libraryFailure?, symbolFailure?, Loader.resolveValue]
  cases Reference.ofValue v with
  | error i => rfl
  | ok r =>
    rcases r with a | ⟨_ | library, name⟩
    · by_cases ha : a = 0
      · simp [Loader.resolve, ha, Rejection.ofResolve]
      · simp [Loader.resolve, ha]
    · simp only [Loader.resolve]
      by_cases hs : ∀ s ∈ (loader.searchScopes w).2.2, (s.exports w).lookup? name = none
      · rw [if_pos hs, List.findSome?_eq_none_iff.mpr hs]
        rfl
      · rw [if_neg hs]
        generalize hf :
          (loader.searchScopes w).2.2.findSome? (fun s => (s.exports w).lookup? name) = found
        cases found with
        | none => exact absurd (List.findSome?_eq_none_iff.mp hf) hs
        | some a => rfl
    · simp only [Loader.resolve, load_result]
      by_cases hl : library ∈ loader.loaded
      · simp only [if_pos hl]
        cases (w.exports ⟨library⟩).lookup? name <;> rfl
      · simp only [if_neg hl]
        cases w.load library with
        | error reason => rfl
        | ok l =>
          simp only [Except.mapError, Except.map, rejectionOf_ok]
          cases (w.exports ⟨library⟩).lookup? name <;> rfl

/-- The first failure of a call with a function operand. -/
theorem Stage.firstFailure?_cons (w : Libraries) (site : Site) (loader : Loader)
    (function : Operand) (params : List Operand) :
    firstFailure? w site loader (function :: params) =
      (rejectionOf .marshal (resultToken (splitResult params).2)).or
        (((referenceFailure? function.value).or ((libraryFailure? w loader function.value).or
          (symbolFailure? w loader function.value))).or
        (rejectionOf .marshal (marshalPairs site 0 (splitResult params).1).2)) := by
  have hcons : ∀ (f : Stage → Option Rejection) (s : Stage) (rest : List Stage),
      (s :: rest).findSome? f = (f s).or (rest.findSome? f) := by
    intro f s rest
    rw [List.findSome?_cons]
    cases f s <;> rfl
  rw [firstFailure?, all]
  simp only [hcons, failure?, List.findSome?_nil, Option.none_or, Option.or_none, Option.or_assoc]

/-- The rejection of a stage with nothing wrong in front of it is the first one. -/
theorem Stage.firstFailure?_eq_some {before after : List Stage} {s : Stage} {reason : Rejection}
    (hall : all = before ++ s :: after)
    (hbefore : ∀ t ∈ before, t.failure? w site loader operands = none)
    (hs : s.failure? w site loader operands = some reason) :
    firstFailure? w site loader operands = some reason := by
  rw [firstFailure?, hall, List.findSome?_append, List.findSome?_eq_none_iff.mpr hbefore,
    Option.none_or, List.findSome?_cons, hs]

theorem Stage.firstFailure?_eq_none_iff :
    firstFailure? w site loader operands = none ↔
      ∀ s : Stage, s.failure? w site loader operands = none := by
  rw [firstFailure?, List.findSome?_eq_none_iff]
  exact ⟨fun h s => h s s.mem_all, fun h s _ => h s⟩

/-! ## The status of a stage -/

theorem status_of_referenceFailure? {v : Value} {reason : Rejection}
    (h : referenceFailure? v = some reason) : reason.status = .invalidInvocation := by
  rw [referenceFailure?] at h
  split at h
  · obtain rfl := Option.some.inj h
    rfl
  · split at h
    · obtain rfl := Option.some.inj h
      rfl
    · exact absurd h (by simp)
  · exact absurd h (by simp)

theorem status_of_libraryFailure? {v : Value} {reason : Rejection}
    (h : libraryFailure? w loader v = some reason) : reason.status = .libraryLoadFailure := by
  rw [libraryFailure?] at h
  split at h
  · split at h
    · exact absurd h (by simp)
    · obtain ⟨e, -, rfl⟩ := rejectionOf_eq_some_iff.mp h
      rfl
  · exact absurd h (by simp)

theorem status_of_symbolFailure? {v : Value} {reason : Rejection}
    (h : symbolFailure? w loader v = some reason) : reason.status = .symbolResolutionFailure := by
  rw [symbolFailure?] at h
  split at h
  · split at h
    · obtain rfl := Option.some.inj h
      rfl
    · exact absurd h (by simp)
  · split at h
    · obtain rfl := Option.some.inj h
      rfl
    · exact absurd h (by simp)
  · exact absurd h (by simp)

/-- **A stage fails with its own status only.** -/
theorem Stage.status_of_failure? {s : Stage} {reason : Rejection}
    (h : s.failure? w site loader operands = some reason) : reason.status = s.status := by
  cases operands with
  | nil =>
    cases s with
    | function =>
      obtain rfl := Option.some.inj h
      rfl
    | result | reference | library | symbol | arguments => exact absurd h (by simp [failure?])
  | cons f params =>
    cases s with
    | function => exact absurd h (by simp [failure?])
    | result | arguments =>
      obtain ⟨e, -, rfl⟩ := rejectionOf_eq_some_iff.mp h
      rfl
    | reference => exact status_of_referenceFailure? h
    | library => exact status_of_libraryFailure? h
    | symbol => exact status_of_symbolFailure? h

/-! ## Preparing in stages -/

/-- **Preparing a call fails with the first failure.** -/
theorem rejectionOf_prepare (w : Libraries) (site : Site) (loader : Loader)
    (operands : List Operand) :
    rejectionOf Refusal.reason (prepare w site loader operands).2.2 =
      Stage.firstFailure? w site loader operands := by
  cases operands with
  | nil => rfl
  | cons function params =>
    rw [Stage.firstFailure?_cons, ← rejectionOf_resolveValue]
    simp only [prepare, prepareFunction]
    cases resultToken (splitResult params).2 with
    | error e => rfl
    | ok r =>
      cases hr : (loader.resolveValue w function.value).2.2 with
      | error e => rfl
      | ok target =>
        simp only [rejectionOf_ok, Option.none_or]
        cases (marshalPairs site 0 (splitResult params).1).2 <;> rfl

/-- **Preparing a call whose function resolves is marshaling its parameters.** -/
theorem prepare_of_resolved {function : Operand} {params : List Operand} {target : UInt64}
    (h : (loader.resolveValue w function.value).2.2 = .ok target) :
    (prepare w site loader (function :: params)).2.2 =
      match (marshal site params).2 with
      | .error e => .error ⟨function.text, .marshal e, declaredKind (function :: params)⟩
      | .ok plan => .ok ⟨function.text, target, plan, params⟩ := by
  simp only [prepare, prepareFunction, marshal, declaredKind, h]
  cases resultToken (splitResult params).2 with
  | error e => rfl
  | ok r => cases (marshalPairs site 0 (splitResult params).1).2 <;> rfl

namespace World

variable {w : World} {engine : Engine}

/-- **A call comes to its first failure, and to nothing else.** The first stage that fails decides
what the call is rejected for, whatever is wrong at the stages behind it; a call with no failing
stage enters native code. If the function operand resolves, a call is rejected exactly if its
parameters do not marshal, with the same error, and enters native code with the plan that they
marshal to otherwise. -/
theorem callWith_eq_first_failure (w : World) (loader : Loader) (operands : List Operand)
    (engine : Engine) :
    (∀ before s after reason, Stage.all = before ++ s :: after →
      (∀ t ∈ before, t.failure? w.libraries ⟨0⟩ loader operands = none) →
      s.failure? w.libraries ⟨0⟩ loader operands = some reason →
      reason.status = s.status ∧ w.Rejects loader operands engine reason) ∧
    ((∀ s : Stage, s.failure? w.libraries ⟨0⟩ loader operands = none) →
      ∃ c, w.Enters loader operands engine c) ∧
    (∀ function params target, operands = function :: params →
      (loader.resolveValue w.libraries function.value).2.2 = .ok target →
      match (marshal ⟨0⟩ params).2 with
      | .error e => w.Rejects loader operands engine (.marshal e)
      | .ok plan => w.Enters loader operands engine ⟨function.text, target, plan, params⟩) := by
  refine ⟨?_, ?_, ?_⟩
  · intro before s after reason hall hbefore hs
    refine ⟨Stage.status_of_failure? hs, ?_⟩
    have hfirst := Stage.firstFailure?_eq_some hall hbefore hs
    rw [← rejectionOf_prepare] at hfirst
    obtain ⟨e, he, rfl⟩ := rejectionOf_eq_some_iff.mp hfirst
    exact rejects_of_refused he
  · intro hnone
    have hfirst := Stage.firstFailure?_eq_none_iff.mpr hnone
    rw [← rejectionOf_prepare] at hfirst
    obtain ⟨c, hc⟩ := rejectionOf_eq_none_iff.mp hfirst
    exact ⟨c, enters_of_ready hc⟩
  · rintro function params target rfl htarget
    cases hm : (marshal ⟨0⟩ params).2 with
    | error e =>
      have hrefused : (prepare w.libraries ⟨0⟩ loader (function :: params)).2.2 =
          .error ⟨function.text, .marshal e, declaredKind (function :: params)⟩ := by
        rw [prepare_of_resolved htarget, hm]
      exact rejects_of_refused hrefused
    | ok plan =>
      have hready : (prepare w.libraries ⟨0⟩ loader (function :: params)).2.2 =
          .ok ⟨function.text, target, plan, params⟩ := by
        rw [prepare_of_resolved htarget, hm]
      exact enters_of_ready hready

/-- The null address is found before the unknown type, and a good call enters native code. -/
theorem callWith_eq_first_failure_storing :
    storing.Rejects {} [.literal (.int 0), .literal (.text "Blah"), .literal (.int 1)] {}
        (.invalidFunction "0") ∧
      ∃ plan, storing.Enters {} (storingOperands 16) {}
        ⟨"4096", 4096, plan, (storingOperands 16).tail⟩ := by
  refine ⟨?_, ?_⟩
  · exact ((callWith_eq_first_failure storing {} _ {}).1 [.function, .result] .reference
      [.library, .symbol, .arguments] _ rfl (by decide) rfl).2
  · exact ⟨_, (callWith_eq_first_failure storing {} (storingOperands 16) {}).2.2 _ _ 4096 rfl rfl⟩

end World

end ForeignCall
