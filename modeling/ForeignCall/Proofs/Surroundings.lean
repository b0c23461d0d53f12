import ForeignCall.Proofs.Defects
import ForeignCall.Proofs.LoaderCache
import ForeignCall.Proofs.Stages

/-!
# Calls in other surroundings

A call made by native code finds other surroundings than a call made by a script: its storage lies
at other addresses, and the process-wide loader has been used before. Its preparation does not
notice. It is refused for the same reason or enters the same function, with the same declared
result; only addresses differ.

For that the loader has to remember nothing wrong, and native code cannot spoil it: it gets at the
loader through calls alone, and every call keeps it coherent, however it ends.

## Main definitions

* `Engine.Coherent` — the process-wide loader remembers nothing wrong
* `CoherentNested` — nested calls keep it so

## Main results

* `prepare_refused_elsewhere`, `prepare_ready_elsewhere` — preparing the same call elsewhere
* `Routine.run_coherent`, `World.sharedCall_coherent`, `World.nestedCall_coherent` — whatever native
  code does, the loader stays coherent
-/

namespace ForeignCall

variable {config : LoaderConfig}

/-! ## Preparing the same call elsewhere -/

section Prepare

variable {w : Libraries} {site site' : Site} {loader loader' : Loader} {operands : List Operand}

/-- The error of pairs does not depend on where their storage lies. -/
theorem rejectionOf_marshalPairs (site site' : Site) (operands : List Operand) :
    rejectionOf .marshal (marshalPairs site 0 (splitResult operands).1).2 =
      rejectionOf .marshal (marshalPairs site' 0 (splitResult operands).1).2 := by
  have heven : (splitResult operands).1.length % 2 = 0 := by
    rw [length_splitResult_fst]
    omega
  rcases marshalPairs_stops site 0 (splitResult operands).1 heven with
    ⟨as, h, hflawless, -⟩ | ⟨i, e, h, hfirst, -⟩
  · rcases marshalPairs_stops site' 0 (splitResult operands).1 heven with
      ⟨as', h', -, -⟩ | ⟨i', e', h', hfirst', -⟩
    · rw [h, h']
      rfl
    · exact absurd hfirst' hflawless.not_firstDefect
  · rcases marshalPairs_stops site' 0 (splitResult operands).1 heven with
      ⟨as', h', hflawless', -⟩ | ⟨i', e', h', hfirst', -⟩
    · exact absurd hfirst hflawless'.not_firstDefect
    · rw [h, h', (hfirst.unique hfirst').2]

/-- The reason of a refusal depends on the operands and the configuration alone. -/
theorem rejectionOf_prepare_elsewhere (h : loader.Coherent w config)
    (h' : loader'.Coherent w config) (site site' : Site) (operands : List Operand) :
    rejectionOf Refusal.reason (prepare w site loader operands).2.2 =
      rejectionOf Refusal.reason (prepare w site' loader' operands).2.2 := by
  rw [rejectionOf_prepare, rejectionOf_prepare]
  cases operands with
  | nil => rfl
  | cons function params =>
    rw [Stage.firstFailure?_cons, Stage.firstFailure?_cons, ← rejectionOf_resolveValue,
      ← rejectionOf_resolveValue, h.resolveValue_eq h', rejectionOf_marshalPairs site site']

/-- **A call that is refused is refused elsewhere**, with the same refusal. -/
theorem prepare_refused_elsewhere (h : loader.Coherent w config) (h' : loader'.Coherent w config)
    (site' : Site) {e : Refusal} (he : (prepare w site loader operands).2.2 = .error e) :
    (prepare w site' loader' operands).2.2 = .error e := by
  have hreason := rejectionOf_prepare_elsewhere h h' site site' operands
  rw [he, rejectionOf_error] at hreason
  obtain ⟨e', he', hsame⟩ := rejectionOf_eq_some_iff.mp hreason.symm
  rw [he', refusal_of_prepare he, refusal_of_prepare he', hsame]

/-- **A call that is ready is ready elsewhere**, with the same function and declared result. -/
theorem prepare_ready_elsewhere (h : loader.Coherent w config) (h' : loader'.Coherent w config)
    (site' : Site) {c : Prepared} (hc : (prepare w site loader operands).2.2 = .ok c) :
    ∃ c', (prepare w site' loader' operands).2.2 = .ok c' ∧ c'.target = c.target ∧
      c'.params = c.params ∧ c'.plan.result = c.plan.result := by
  have hreason := rejectionOf_prepare_elsewhere h h' site site' operands
  rw [hc, rejectionOf_ok] at hreason
  obtain ⟨c', hc'⟩ := rejectionOf_eq_none_iff.mp hreason.symm
  obtain ⟨function, rfl, -, htarget, hplan⟩ := prepare_eq_ok_iff.mp hc
  obtain ⟨function', hlist, -, htarget', hplan'⟩ := prepare_eq_ok_iff.mp hc'
  obtain ⟨rfl, hparams⟩ := List.cons.inj hlist
  rw [h.resolveValue_eq h', htarget'] at htarget
  obtain ⟨hresult, -⟩ := marshal_eq_ok_iff.mp hplan
  obtain ⟨hresult', -⟩ := marshal_eq_ok_iff.mp hplan'
  rw [hparams, hresult', Except.ok.injEq, Prod.mk.injEq] at hresult
  exact ⟨c', hc', Except.ok.inj htarget, hparams.symm, hresult.1⟩

theorem prepare_coherent (h : loader.Coherent w config) (site : Site) (operands : List Operand) :
    (prepare w site loader operands).1.Coherent w config := by
  cases operands with
  | nil => exact h
  | cons function params =>
    simp only [prepare, prepareFunction]
    split
    · exact h
    · split
      all_goals exact h.resolveValue function.value

end Prepare

/-! ## Keeping the loader coherent -/

/-- The process-wide loader remembers nothing wrong. One that does not exist yet will have the
default configuration. -/
def Engine.Coherent (w : World) (config : LoaderConfig) (engine : Engine) : Prop :=
  (engine.loader.getD {}).Coherent w.libraries config

/-- A new engine is coherent. -/
theorem Engine.Coherent.new (w : World) : Engine.Coherent w {} {} :=
  Loader.Coherent.new w.libraries {}

/-- Nested calls keep the loader coherent. -/
def CoherentNested (w : World) (config : LoaderConfig) (nested : Option NestedCall) : Prop :=
  ∀ perform, nested = some perform → ∀ (operands : List Operand) (t : Thread Machine),
    t.state.engine.Coherent w config → (perform operands t).2.state.engine.Coherent w config

theorem raise_snd {σ α : Type} (signal : Signal) (t : Thread σ) :
    (raise (α := α) signal t).2 = t := by
  rw [raise]
  split
  · rfl
  · split <;> rfl

/-- A region leaves the state that its body leaves. -/
theorem guarded_state {σ α : Type} (body : Thread σ → Ending α × Thread σ) (t : Thread σ) :
    (guarded body t).2.state =
      (body { t with points := t.points.length :: t.points }).2.state := by
  simp only [guarded]
  rcases body { t with points := t.points.length :: t.points } with ⟨_ | _ | _, t'⟩
  · rfl
  · simp only
    split <;> rfl
  · rfl

variable {w : World} {nested : Option NestedCall}

/-- **Native code cannot spoil the loader.** -/
theorem Routine.run_coherent (hnested : CoherentNested w config nested) (r : Routine)
    {t : Thread Machine} (h : t.state.engine.Coherent w config) :
    (r.run nested t).2.state.engine.Coherent w config := by
  induction r generalizing t with
  | ret r => exact h
  | raise signal => rwa [run, raise_snd]
  | load address count next ih =>
    rw [run]
    split
    · exact ih _ h
    · rwa [raise_snd]
  | text address next ih =>
    rw [run]
    split
    · exact ih _ h
    · rwa [raise_snd]
  | store address bytes next ih =>
    rw [run]
    split
    · exact ih h
    · rwa [raise_snd]
  | call operands next ih =>
    cases nested with
    | none => rwa [run, raise_snd]
    | some perform =>
      have hcall := hnested perform rfl operands t h
      rw [run]
      rcases hend : perform operands t with ⟨r | _ | _, t'⟩
      all_goals rw [hend] at hcall
      · exact ih r hcall
      · exact hcall
      · exact hcall

namespace World

theorem enter_coherent (hnested : CoherentNested w config nested) (target : UInt64) (r : Registers)
    {t : Thread Machine} (h : t.state.engine.Coherent w config) :
    (w.enter nested target r t).2.state.engine.Coherent w config := by
  rw [enter]
  split
  · exact Routine.run_coherent hnested _ h
  · rwa [raise_snd]

theorem coherent_installTrap {m : Machine} (h : m.engine.Coherent w config) :
    m.installTrap.engine.Coherent w config := by
  rw [Machine.installTrap]
  split
  · exact h
  · exact h

theorem invoke_coherent (hnested : CoherentNested w config nested) (target : UInt64) (p : Plan)
    {t : Thread Machine} (h : t.state.engine.Coherent w config) :
    (w.invoke nested target p t).2.state.engine.Coherent w config := by
  simp only [invoke]
  generalize drive (RegisterFrame.withCapacity p.arguments.length) p = frame
  have hguarded := guarded_state (w.enter nested target frame.registers)
    (t.modify fun m => { m.installTrap with memory := p.place ++ m.memory })
  have hbody := enter_coherent hnested target frame.registers
    (t := ⟨{ t.state.installTrap with memory := p.place ++ t.state.memory },
      t.points.length :: t.points⟩) (coherent_installTrap h)
  have hregion : Engine.Coherent w config (guarded (w.enter nested target frame.registers)
      (t.modify fun m => { m.installTrap with memory := p.place ++ m.memory })).2.state.engine := by
    rw [hguarded]
    exact hbody
  split
  all_goals
    next hend =>
    rw [hend] at hregion
    exact hregion

theorem perform_coherent (hnested : CoherentNested w config nested) (c : Prepared)
    {t : Thread Machine} (h : t.state.engine.Coherent w config) :
    (w.perform nested c t).2.state.engine.Coherent w config := by
  have hinvoke := invoke_coherent (t := t.modify (·.beginCall c)) hnested c.target c.plan h
  rw [perform]
  rcases hend : w.invoke nested c.target c.plan (t.modify (·.beginCall c)) with ⟨_ | _ | _, t'⟩
  all_goals
    rw [hend] at hinvoke
    exact hinvoke

theorem complete_coherent (hnested : CoherentNested w config nested) (operands : List Operand)
    (events : List Event) (c : Except Refusal Prepared) {t : Thread Machine}
    (h : t.state.engine.Coherent w config) :
    (w.complete nested operands events c t).2.state.engine.Coherent w config := by
  cases c with
  | error e => exact h
  | ok c =>
    have hlogged : (t.modify (·.log (spanStart operands ++ .ofEvents events))).state.engine.Coherent
        w config := h
    simp only [complete]
    generalize t.modify (·.log (spanStart operands ++ .ofEvents events)) = t₁ at hlogged ⊢
    have hperform := perform_coherent hnested c hlogged
    rcases hend : w.perform nested c t₁ with ⟨_ | _ | _, t'⟩
    all_goals
      rw [hend] at hperform
      exact hperform

/-- **A call keeps the loader coherent**, however it ends. -/
theorem sharedCall_coherent (hnested : CoherentNested w config nested) (operands : List Operand)
    {t : Thread Machine} (h : t.state.engine.Coherent w config) :
    (w.sharedCall nested operands t).2.state.engine.Coherent w config :=
  complete_coherent hnested operands _ _ (prepare_coherent h ⟨t.points.length⟩ operands)

/-- Calls that native code makes keep the loader coherent, however deep they lie. -/
theorem nestedCall_coherent (w : World) (config : LoaderConfig) (n : ℕ) :
    CoherentNested w config (w.nestedCall n) := by
  induction n with
  | zero =>
    intro perform h
    exact absurd h (by simp [nestedCall])
  | succ n ih =>
    intro perform h operands t ht
    obtain rfl := Option.some.inj h
    exact sharedCall_coherent ih operands ht

/-- A call of a script leaves a coherent engine. -/
theorem callShared_coherent {engine : Engine} (h : engine.Coherent w config)
    (operands : List Operand) : (w.callShared operands engine).engine.Coherent w config :=
  sharedCall_coherent (w.nestedCall_coherent config w.nesting) operands
    (t := ⟨{ memory := w.data, engine }, []⟩) h

end World

end ForeignCall
