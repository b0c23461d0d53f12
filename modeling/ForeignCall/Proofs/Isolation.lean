import ForeignCall.Proofs.CallLog
import ForeignCall.Proofs.Regions
import ForeignCall.Proofs.Surroundings
import ForeignCall.Proofs.Verdict

/-!
# Calls inside calls

Does it matter to a call where it is made? By a script, with nothing around it, or by native code,
in the middle of other calls, with their storage in memory, their recovery points active and any
number of faults behind it? For a function that keeps no state it does not. This file says what such
a function does without mentioning any of these, and shows that a call comes to exactly that,
wherever it is made.

## Functions that keep no state

A function is handed addresses, and it can read whatever lies in memory, so that not every function
does the same everywhere. One that keeps no state ends in the same way, with the same outputs, and
makes the same calls one after the other, each in the light of what the ones before it came to. That
is its *behaviour*. Which memory may lie around the storage of its call is left open; it can be any
memory at all, or the data that the function relies on with the storage of other calls in front of
it.

## Room on the stack

Native code makes calls while the stack has room for them. An answer says how much room it takes;
any more does not change it.

## Main definitions

* `Behaviour`, `Behaviour.play?` — what a function that keeps no state does, and how it ends
* `Shows` — native code with a behaviour
* `KeepsNoState` — the native functions that have one
* `World.answer?` — the report of a call, without memory, recovery points, or a used loader

## Main results

* `Shows.run_endsAs` — native code ends as its behaviour says
* `World.invoke_of_signal` — a signal of native code ends the call that it was raised in
* `World.sharedCall_of_answerWith?` — a call comes to its answer, and restores what is around it
* `World.calls_isolated` — wherever a call is made, and whatever happened before
-/

namespace ForeignCall

/-! ## Behaviours -/

/-- What a function that keeps no state does from some point on: it makes calls, and in the end its
call comes to an outcome, with the parameters as they are then. -/
inductive Behaviour where
  | ends (r : Report)
  | call (operands : List Operand) (next : Report → Behaviour)

/-- How a behaviour ends when its calls come to the given reports. A call without one leaves it
open. -/
def Behaviour.play? (call? : List Operand → Option Report) : Behaviour → Option Report
  | .ends r => some r
  | .call operands next => (call? operands).bind fun r => (next r).play? call?

/-- Where the blocks of memory lie, and what is behind them. -/
def Memory.layout (m : Memory) : List (UInt64 × ℕ × Backing) :=
  m.map fun b => (b.base, b.bytes.length, b.backing)

@[simp] theorem Memory.layout_append (m m' : Memory) :
    Memory.layout (m ++ m') = m.layout ++ m'.layout :=
  List.map_append

theorem Memory.length_eq_of_layout_eq {m m' : Memory} (h : m.layout = m'.layout) :
    m.length = m'.length := by
  simpa [Memory.layout] using congrArg List.length h

theorem Memory.layout_of_fill? {m m' : Memory} {address : UInt64} {new : List UInt8} {n : ℕ}
    (h : m.fill? address new = some (n, m')) : m'.layout = m.layout := by
  obtain ⟨before, b, after, offset, rfl, -, -, -, -, rfl⟩ := exists_of_fill? h
  simp [layout]

/-- Writing changes contents only. -/
theorem Memory.layout_of_storeFrom {n : ℕ} {m m' : Memory} {address : UInt64} {new : List UInt8}
    (h : storeFrom n m address new = .ok m') : m'.layout = m.layout := by
  fun_induction storeFrom n m address new with
  | case1 n m address => rw [← Except.ok.inj h]
  | case2 => exact absurd h (by simp)
  | case3 m address new hne n written m₁ hfill ih => exact (ih h).trans (layout_of_fill? hfill)
  | case4 => exact absurd h (by simp)

/-- The bytes that the frame of a plan reserves. -/
def Plan.scratch (p : Plan) : ℕ :=
  CallFrame.reservedBytes (drive (RegisterFrame.withCapacity p.arguments.length) p)

/-- What a frame tells of native code that was called with a plan and came back. -/
def World.invocation (w : World) (p : Plan) (r : Returned) : Invocation :=
  { returned := r, delta := w.stackDelta p.convention r, scratch := p.scratch }

/-- The report of a call after native code has ended, with the parameters that its plan was made
of. -/
def Plan.report (p : Plan) (params : List Operand) (m : Memory) (i : Invocation) : Report :=
  let (value, status, operands) := finish m i (p.reload m) params
  ⟨⟨value, status⟩, operands⟩

/-- The report of a call that a signal has ended. -/
def Plan.faultReport (p : Plan) (params : List Operand) (signal : Signal) : Report :=
  ⟨⟨.emptyOf p.result.kind, .calleeFault signal⟩, params⟩

/-- A signal of native code is the outcome of its call, and nothing is written back. -/
theorem Plan.report_of_fault {signal : Signal} (htrapped : signal ∈ Signal.trapped) (p : Plan)
    (params : List Operand) (m : Memory) :
    p.report params m { fault := signal, scratch := p.scratch } = p.faultReport params signal := by
  have hne : signal ≠ 0 := by
    rintro rfl
    exact absurd htrapped (by decide)
  simp [report, faultReport, finish, Invocation.hasFaulted, hne, Status.afterCall, reload]

/-- Native code with a behaviour, called with a plan that was made of some parameters. Its storage,
in front of the rest of memory, has some contents, and it writes to its storage only. -/
inductive Shows (w : World) (p : Plan) (params : List Operand) (rest : Memory) :
    Routine → Memory → Behaviour → Prop where
  | ret {r : Returned} {own : Memory} :
      Shows w p params rest (.ret r) own (.ends (p.report params (own ++ rest) (w.invocation p r)))
  | raise {signal : Signal} {own : Memory} (trapped : signal ∈ Signal.trapped) :
      Shows w p params rest (.raise signal) own (.ends (p.faultReport params signal))
  | load {address : UInt64} {count : ℕ} {next : List UInt8 → Routine} {own : Memory}
      {bytes : List UInt8} {b : Behaviour} (h : (own ++ rest).load address count = .ok bytes)
      (tail : Shows w p params rest (next bytes) own b) :
      Shows w p params rest (.load address count next) own b
  | loadFault {address : UInt64} {count : ℕ} {next : List UInt8 → Routine} {own : Memory}
      {fault : AccessFault} (h : (own ++ rest).load address count = .error fault) :
      Shows w p params rest (.load address count next) own
        (.ends (p.faultReport params fault.signal))
  | text {address : UInt64} {next : List UInt8 → Routine} {own : Memory} {bytes : List UInt8}
      {b : Behaviour} (h : (own ++ rest).text address = .ok bytes)
      (tail : Shows w p params rest (next bytes) own b) :
      Shows w p params rest (.text address next) own b
  | textFault {address : UInt64} {next : List UInt8 → Routine} {own : Memory}
      {fault : AccessFault} (h : (own ++ rest).text address = .error fault) :
      Shows w p params rest (.text address next) own
        (.ends (p.faultReport params fault.signal))
  | store {address : UInt64} {bytes : List UInt8} {next : Routine} {own own' : Memory}
      {b : Behaviour} (h : (own ++ rest).store address bytes = .ok (own' ++ rest))
      (tail : Shows w p params rest next own' b) :
      Shows w p params rest (.store address bytes next) own b
  | storeFault {address : UInt64} {bytes : List UInt8} {next : Routine} {own : Memory}
      {fault : AccessFault} (h : (own ++ rest).store address bytes = .error fault) :
      Shows w p params rest (.store address bytes next) own
        (.ends (p.faultReport params fault.signal))
  | call {operands : List Operand} {next : Report → Routine} {own : Memory}
      {b : Report → Behaviour} (tail : ∀ r, Shows w p params rest (next r) own (b r)) :
      Shows w p params rest (.call operands next) own (.call operands b)

/-- The calls with a behaviour, and the memory that may lie around the storage of a call. -/
structure KeepsNoState (w : World) (around : Memory → Prop)
    (behaviour? : UInt64 → List Operand → Option Behaviour) : Prop where
  /-- The storage of a call may lie around the calls made inside. -/
  nesting : ∀ {rest own : Memory} {site : Site} {params : List Operand} {p : Plan}, around rest →
    (marshal site params).2 = .ok p → own.layout = p.place.layout → around (own ++ rest)
  /-- Wherever the storage lies, native code has the behaviour. -/
  shows : ∀ {target : UInt64} {params : List Operand} {b : Behaviour},
    behaviour? target params = some b → ∀ (site : Site) (p : Plan) (rest : Memory), around rest →
      (marshal site params).2 = .ok p →
        Shows w p params rest (w.routineAt target p.registers) p.place b

namespace World

variable (w : World) (behaviour? : UInt64 → List Operand → Option Behaviour)
  (config : LoaderConfig)

/-- The report of a call, when the calls made inside come to the given ones. The loader is a new
one. -/
def answerWith? (call? : List Operand → Option Report) (operands : List Operand) : Option Report :=
  match (prepare w.libraries ⟨0⟩ { config } operands).2.2 with
  | .error e => some ⟨.rejected e.reason e.result, operands⟩
  | .ok c =>
    (behaviour? c.target c.params).bind fun b =>
      (b.play? call?).map fun r => { r with operands := operands.take 1 ++ r.operands }

/-- The report of a call inside which calls are nested so deep at most. -/
def answer? : ℕ → List Operand → Option Report
  | 0 => w.answerWith? behaviour? config fun _ => none
  | room + 1 => w.answerWith? behaviour? config (answer? room)

end World

/-! ## Native code -/

/-- A call left everything around it as it was, and the loader coherent. -/
structure Thread.Restored (w : World) (config : LoaderConfig) (t t' : Thread Machine) : Prop where
  points : t'.points = t.points
  memory : t'.state.memory = t.state.memory
  coherent : t'.state.engine.Coherent w config

/-- A call came back with a result, and left everything around it as it was. -/
structure Thread.ComesBack {α : Type} (w : World) (config : LoaderConfig) (t : Thread Machine)
    (a : α) (x : Ending α × Thread Machine) : Prop where
  ending : x.1 = .returned a
  restored : t.Restored w config x.2

/-- Nested calls come to given reports, wherever they are made. -/
def AnswersNested (w : World) (config : LoaderConfig) (around : Memory → Prop)
    (nested : Option NestedCall) (call? : List Operand → Option Report) : Prop :=
  ∀ operands r, call? operands = some r → ∃ perform, nested = some perform ∧
    ∀ t : Thread Machine, around t.state.memory → t.state.engine.Coherent w config →
      t.ComesBack w config r (perform operands t)

/-- Native code that was called with a plan has ended, so that its call comes to a given report. Its
storage has the layout that it had, a signal is on its way to the innermost recovery point, and what
is around it is as it was. -/
structure EndsAs (w : World) (config : LoaderConfig) (p : Plan) (params : List Operand)
    (rest : Memory) (t : Thread Machine) (report : Report) (x : Ending Returned × Thread Machine) :
    Prop where
  points : x.2.points = t.points
  memory : ∃ own, Memory.layout own = p.place.layout ∧ x.2.state.memory = own ++ rest
  coherent : x.2.state.engine.Coherent w config
  ending :
    (∃ r, x.1 = .returned r ∧ report = p.report params x.2.state.memory (w.invocation p r)) ∨
    ∃ signal ∈ Signal.trapped, report = p.faultReport params signal ∧
      ∀ point ps, t.points = point :: ps → x.1 = .unwinding point signal

variable {w : World} {config : LoaderConfig} {around : Memory → Prop} {nested : Option NestedCall}
  {call? : List Operand → Option Report} {p : Plan} {params : List Operand} {rest own : Memory}
  {t : Thread Machine} {report : Report}

/-- A trapped signal is on its way to the innermost recovery point. -/
theorem endsAs_raise {signal : Signal} (hlayout : Memory.layout own = p.place.layout)
    (hmemory : t.state.memory = own ++ rest) (h : t.state.engine.Coherent w config)
    (htrapped : signal ∈ Signal.trapped) :
    EndsAs w config p params rest t (p.faultReport params signal) (raise signal t) := by
  have hstate := raise_snd (α := Returned) signal t
  refine ⟨by rw [hstate], ⟨own, hlayout, by rw [hstate, hmemory]⟩, by rwa [hstate],
    .inr ⟨signal, htrapped, rfl, fun point ps hpoints => ?_⟩⟩
  simp only [raise, hpoints, if_pos htrapped]

/-- **Native code ends as its behaviour says.** -/
theorem Shows.run_endsAs (hnested : AnswersNested w config around nested call?)
    (haround : ∀ own : Memory, own.layout = p.place.layout → around (own ++ rest)) {r : Routine}
    {b : Behaviour} (hr : Shows w p params rest r own b) (hreport : b.play? call? = some report)
    (hlayout : Memory.layout own = p.place.layout) (hmemory : t.state.memory = own ++ rest)
    (h : t.state.engine.Coherent w config) :
    EndsAs w config p params rest t report (r.run nested t) := by
  induction hr generalizing t with
  | @ret r own =>
    obtain rfl := Option.some.inj hreport
    exact ⟨rfl, ⟨own, hlayout, hmemory⟩, h, .inl ⟨r, rfl, by rw [← hmemory]; rfl⟩⟩
  | raise trapped =>
    obtain rfl := Option.some.inj hreport
    exact endsAs_raise hlayout hmemory h trapped
  | load hload _ ih =>
    rw [Routine.run, hmemory, hload]
    exact ih hreport hlayout hmemory h
  | text htext _ ih =>
    rw [Routine.run, hmemory, htext]
    exact ih hreport hlayout hmemory h
  | @loadFault address count next own fault hload =>
    obtain rfl := Option.some.inj hreport
    rw [Routine.run, hmemory, hload]
    exact endsAs_raise hlayout hmemory h fault.signal_trapped
  | @textFault address next own fault htext =>
    obtain rfl := Option.some.inj hreport
    rw [Routine.run, hmemory, htext]
    exact endsAs_raise hlayout hmemory h fault.signal_trapped
  | @storeFault address bytes next own fault hstore =>
    obtain rfl := Option.some.inj hreport
    rw [Routine.run, hmemory, hstore]
    exact endsAs_raise hlayout hmemory h fault.signal_trapped
  | store hstore _ ih =>
    have hsame := Memory.layout_of_storeFrom hstore
    rw [Memory.layout_append, Memory.layout_append] at hsame
    rw [Routine.run, hmemory, hstore]
    have hnext := ih (t := t.modify fun m => { m with memory := _ }) hreport
      ((List.append_cancel_right hsame).trans hlayout) rfl h
    exact ⟨hnext.points, hnext.memory, hnext.coherent, hnext.ending⟩
  | call _ ih =>
    obtain ⟨r, hr, hreport⟩ := Option.bind_eq_some_iff.mp hreport
    obtain ⟨perform, rfl, hperform⟩ := hnested _ _ hr
    have hcall := hperform t (hmemory ▸ haround _ hlayout) h
    rw [Routine.run]
    rcases hend : perform _ t with ⟨ending, t'⟩
    rw [hend] at hcall
    obtain ⟨hreturned, hrestored⟩ := hcall
    obtain rfl : ending = .returned r := hreturned
    have hnext := ih r hreport hlayout (hrestored.memory.trans hmemory) hrestored.coherent
    -- the call put the recovery points back, so what follows jumps to the same one
    refine ⟨hnext.points.trans hrestored.points, hnext.memory, hnext.coherent, ?_⟩
    rw [← hrestored.points]
    exact hnext.ending

/-! ## Calls -/

namespace World

theorem invoke_of_returned {target : UInt64} {t' : Thread Machine} {r : Returned}
    (h : w.enter nested target p.registers (t.entering p) = (.returned r, t')) :
    w.invoke nested target p t =
      (.returned (w.invocation p r, p.reload t'.state.memory), ⟨t'.state, t.points⟩) := by
  have hguarded : guarded (w.enter nested target p.registers)
      (t.modify fun m => { m.installTrap with memory := p.place ++ m.memory }) =
        (.returned (.completed r), ⟨t'.state, t.points⟩) := guarded_of_returned h
  rw [Plan.registers] at hguarded
  simp only [invoke, hguarded, invocation, Plan.scratch]

theorem invoke_of_unwinding {target : UInt64} {t' : Thread Machine} {signal : Signal}
    (h : w.enter nested target p.registers (t.entering p) =
      (.unwinding t.points.length signal, t')) :
    w.invoke nested target p t =
      (.returned ({ fault := signal, scratch := p.scratch }, p.reload t'.state.memory),
        ⟨t'.state, t.points⟩) := by
  have hguarded : guarded (w.enter nested target p.registers)
      (t.modify fun m => { m.installTrap with memory := p.place ++ m.memory }) =
        (.returned (.faulted signal), ⟨t'.state, t.points⟩) := guarded_of_unwinding h
  rw [Plan.registers] at hguarded
  simp only [invoke, hguarded, Plan.scratch]

/-- **A signal of native code ends the call that it was raised in**, whatever calls native code made
before: the call comes back with the number of the signal, the state is the one in which it was
raised, and the recovery points are put back. -/
theorem invoke_of_signal (k : ℕ) {target : UInt64} {p : Plan} {t' : Thread Machine} {point : ℕ}
    {signal : Signal} (h : w.enter (w.nestedCall k) target p.registers (t.entering p) =
      (.unwinding point signal, t')) :
    w.invoke (w.nestedCall k) target p t =
      (.returned ({ fault := signal, scratch := p.scratch }, p.reload t'.state.memory),
        ⟨t'.state, t.points⟩) := by
  have hsettles := w.enter_settles (w.nestedCall_returns k) target p.registers (t.entering p)
  rw [h] at hsettles
  obtain rfl : t.points.length = point := Option.some.inj hsettles.1
  exact invoke_of_unwinding h

/-- Native code that is called ends as its behaviour says, and the recovery points are put back. -/
theorem invoke_of_shows (hnested : AnswersNested w config around nested call?)
    (haround : ∀ own : Memory, own.layout = p.place.layout → around (own ++ t.state.memory))
    {target : UInt64} {b : Behaviour}
    (hb : Shows w p params t.state.memory (w.routineAt target p.registers) p.place b)
    (hreport : b.play? call? = some report) (h : t.state.engine.Coherent w config) :
    ∃ i t', w.invoke nested target p t = (.returned (i, p.reload t'.state.memory), t') ∧
      p.report params t'.state.memory i = report ∧ t'.points = t.points ∧
      (∃ own, Memory.layout own = p.place.layout ∧ t'.state.memory = own ++ t.state.memory) ∧
      t'.state.engine.Coherent w config := by
  have hrun := hb.run_endsAs (t := t.entering p) hnested haround hreport rfl rfl
    (coherent_installTrap h)
  rw [← enter_eq_run] at hrun
  rcases hend : w.enter nested target p.registers (t.entering p) with ⟨ending, t'⟩
  rw [hend] at hrun
  obtain ⟨-, hmemory, hcoherent, hending⟩ := hrun
  rcases hending with ⟨r, hr, rfl⟩ | ⟨signal, htrapped, rfl, hsignal⟩
  · obtain rfl : ending = .returned r := hr
    have hinvoke := invoke_of_returned hend
    exact ⟨_, ⟨t'.state, t.points⟩, hinvoke, rfl, rfl, hmemory, hcoherent⟩
  · obtain rfl : ending = .unwinding t.points.length signal := hsignal _ _ rfl
    have hinvoke := invoke_of_unwinding hend
    have hfault := p.report_of_fault htrapped params t'.state.memory
    exact ⟨_, ⟨t'.state, t.points⟩, hinvoke, hfault, rfl, hmemory, hcoherent⟩

/-- A call that enters native code comes to what its behaviour says, and its storage is gone. -/
theorem perform_of_shows (hnested : AnswersNested w config around nested call?) {c : Prepared}
    (haround : ∀ own : Memory, own.layout = c.plan.place.layout → around (own ++ t.state.memory))
    {b : Behaviour} (hb : Shows w c.plan c.params t.state.memory
      (w.routineAt c.target c.plan.registers) c.plan.place b)
    (hreport : b.play? call? = some report) (h : t.state.engine.Coherent w config) :
    t.ComesBack w config report (w.perform nested c t) := by
  obtain ⟨i, t', hinvoke, rfl, hpoints, ⟨own, hlayout, hmemory⟩, hcoherent⟩ :=
    invoke_of_shows (t := t.modify (·.beginCall c)) hnested haround hb hreport h
  have hrest : t'.state.memory.drop c.plan.place.length = t.state.memory := by
    rw [hmemory, ← Memory.length_eq_of_layout_eq hlayout]
    exact List.drop_left
  rw [perform, hinvoke]
  exact ⟨rfl, hpoints, hrest, hcoherent⟩

/-- What follows the preparation of a call that is ready comes back if native code does. -/
theorem complete_comesBack (operands : List Operand) (events : List Event) {c : Prepared}
    (hperform : ∀ t' : Thread Machine, t'.state.memory = t.state.memory →
      t'.state.engine = t.state.engine → t'.ComesBack w config report (w.perform nested c t')) :
    t.ComesBack w config { report with operands := operands.take 1 ++ report.operands }
      (w.complete nested operands events (.ok c) t) := by
  simp only [complete]
  generalize ht : t.modify (·.log (spanStart operands ++ .ofEvents events)) = t₁
  have hback := hperform t₁ (by rw [← ht]; rfl) (by rw [← ht]; rfl)
  rcases hend : w.perform nested c t₁ with ⟨ending, t'⟩
  rw [hend] at hback
  obtain ⟨hreturned, hpoints, hmemory, hcoherent⟩ := hback
  obtain rfl : ending = .returned report := hreturned
  subst ht
  exact ⟨rfl, hpoints, hmemory, hcoherent⟩

/-- **A call comes to its answer,** and restores what is around it. -/
theorem sharedCall_of_answerWith? {behaviour? : UInt64 → List Operand → Option Behaviour}
    (hw : KeepsNoState w around behaviour?) (hnested : AnswersNested w config around nested call?)
    {operands : List Operand}
    (hreport : w.answerWith? behaviour? config call? operands = some report)
    (hmemory : around t.state.memory) (h : t.state.engine.Coherent w config) :
    t.ComesBack w config report (w.sharedCall nested operands t) := by
  have hfresh : Loader.Coherent w.libraries config { config } := .new w.libraries config
  have hloader := prepare_coherent h ⟨t.points.length⟩ operands
  rw [answerWith?] at hreport
  split at hreport
  · next e he =>
    obtain rfl := Option.some.inj hreport
    have hrefused := prepare_refused_elsewhere hfresh h ⟨t.points.length⟩ he
    obtain ⟨loader', events, hp⟩ := exists_prepare_eq hrefused
    rw [hp] at hloader
    rw [sharedCall, hp]
    exact ⟨rfl, rfl, rfl, hloader⟩
  · next c hc =>
    obtain ⟨c', hready, htarget, hparams, -⟩ :=
      prepare_ready_elsewhere hfresh h ⟨t.points.length⟩ hc
    obtain ⟨b, hb, hreport⟩ := Option.bind_eq_some_iff.mp hreport
    obtain ⟨r, hr, rfl⟩ := Option.map_eq_some_iff.mp hreport
    obtain ⟨-, -, -, -, hplan⟩ := prepare_eq_ok_iff.mp hready
    obtain ⟨loader', events, hp⟩ := exists_prepare_eq hready
    rw [hp] at hloader
    rw [← htarget, ← hparams] at hb
    rw [sharedCall, hp]
    have hperform : ∀ t' : Thread Machine, t'.state.memory = t.state.memory →
        t'.state.engine = { t.state.engine with loader := some loader' } →
        t'.ComesBack w config r (w.perform nested c' t') := by
      intro t' hm he
      have haround : around t'.state.memory := by rwa [hm]
      refine perform_of_shows hnested (fun own hown => hw.nesting haround hplan hown) ?_ hr ?_
      · exact hw.shows hb _ _ _ haround hplan
      · rw [he]
        exact hloader
    have hback := complete_comesBack (t := t.modify fun m =>
      { m with engine := { m.engine with loader := some loader' } }) operands events hperform
    exact ⟨hback.ending, hback.restored.points, hback.restored.memory, hback.restored.coherent⟩

variable {behaviour? : UInt64 → List Operand → Option Behaviour}

/-- **A call comes to its answer wherever there is room for it.** -/
theorem sharedCall_of_answer? (hw : KeepsNoState w around behaviour?) {room k : ℕ} (hk : room ≤ k)
    {operands : List Operand} (hreport : w.answer? behaviour? config room operands = some report)
    (hmemory : around t.state.memory) (h : t.state.engine.Coherent w config) :
    t.ComesBack w config report (w.sharedCall (w.nestedCall k) operands t) := by
  induction room generalizing k operands report t with
  | zero =>
    refine sharedCall_of_answerWith? hw (fun operands r hr => ?_) hreport hmemory h
    exact absurd hr (by simp)
  | succ room ih =>
    obtain ⟨k, rfl⟩ := Nat.exists_eq_add_of_le' hk
    refine sharedCall_of_answerWith? hw (fun operands r hr => ?_) hreport hmemory h
    exact ⟨_, rfl, fun t' hmemory' h' => ih (Nat.le_add_left room k) hr hmemory' h'⟩

/-- The engine after calls of a script, made one after the other. -/
def engineAfter (w : World) (calls : List (List Operand)) (engine : Engine) : Engine :=
  calls.foldl (fun engine operands => (w.callShared operands engine).engine) engine

theorem coherent_engineAfter {engine : Engine} (h : engine.Coherent w config)
    (calls : List (List Operand)) : (w.engineAfter calls engine).Coherent w config := by
  induction calls generalizing engine with
  | nil => exact h
  | cons operands calls ih => exact ih (callShared_coherent h operands)

/-- A call of a script comes to its answer. -/
theorem callShared_of_answer? (hw : KeepsNoState w around behaviour?) (hdata : around w.data)
    {room : ℕ} (hroom : room ≤ w.nesting) {operands : List Operand}
    (hreport : w.answer? behaviour? config room operands = some report) {engine : Engine}
    (h : engine.Coherent w config) : (w.callShared operands engine).ending = .returned report :=
  (sharedCall_of_answer? (t := ⟨{ memory := w.data, engine }, []⟩) hw hroom hreport hdata h).ending

/-- **Calls inside calls are isolated.** In every tree of guarded regions a signal gets to the
recovery point of the region that raises it; each region ends with its own result or signal, and
puts back the recovery points that it was entered with. So does every call, whatever native code
does: a signal raised in it is its fault, and none leaves it. A call of functions that keep no state
then has one report, whatever its operands are. It comes to it inside native code, in any memory
that may lie around it, under any recovery points, and leaves both as they were; and it comes to it
at top level, whatever calls were made before and however they ended. Nothing that native code does
keeps the next call from that. -/
theorem calls_isolated (hw : KeepsNoState w around behaviour?) (hdata : around w.data) :
    (∀ (σ α : Type) (r : Region σ α) (s : σ) (p : ℕ) (ps : List ℕ),
      r.body ⟨s, p :: ps⟩ = ((r.result s).1.ending p, ⟨(r.result s).2, p :: ps⟩)) ∧
    (∀ (σ α : Type) (r : Region σ α) (t : Thread σ),
      guarded r.body t = (.returned (r.result t.state).1, ⟨(r.result t.state).2, t.points⟩)) ∧
    (∀ k target p (t t' : Thread Machine) point signal,
      w.enter (w.nestedCall k) target p.registers (t.entering p) = (.unwinding point signal, t') →
      w.invoke (w.nestedCall k) target p t =
        (.returned ({ fault := signal, scratch := p.scratch }, p.reload t'.state.memory),
          ⟨t'.state, t.points⟩)) ∧
    (∀ k operands (t t' : Thread Machine),
      (∀ p signal, w.sharedCall (w.nestedCall k) operands t ≠ (.unwinding p signal, t')) ∧
      ∀ r, w.sharedCall (w.nestedCall k) operands t = (.returned r, t') → t'.points = t.points) ∧
    (∀ room operands r, w.answer? behaviour? config room operands = some r →
      (∀ k (t : Thread Machine), room ≤ k → around t.state.memory →
        t.state.engine.Coherent w config →
        ∃ perform, w.nestedCall (k + 1) = some perform ∧
          t.ComesBack w config r (perform operands t)) ∧
      ∀ calls engine, room ≤ w.nesting → engine.Coherent w config →
        (w.callShared operands (w.engineAfter calls engine)).ending = .returned r) ∧
    ∀ k (r : Routine) (t : Thread Machine), t.state.engine.Coherent w config →
      (r.run (w.nestedCall k) t).2.state.engine.Coherent w config := by
  refine ⟨fun σ α r s p ps => r.body_eq s p ps, fun σ α r t => r.guarded_body t,
    fun k target p t t' point signal hend => invoke_of_signal k hend, fun k operands t t' => ?_,
    fun room operands r hr => ⟨fun k t hk hmemory h => ?_, fun calls engine hroom h => ?_⟩,
    fun k r t h => ?_⟩
  · have hreturns := w.sharedCall_returns (w.nestedCall_returns k) operands t
    refine ⟨fun p signal hend => ?_, fun r hend => ?_⟩
    · rw [hend] at hreturns
      exact hreturns.elim
    · rw [hend] at hreturns
      obtain ⟨_, -, hlogs⟩ := hreturns
      exact hlogs.points
  · exact ⟨_, rfl, sharedCall_of_answer? hw hk hr hmemory h⟩
  · exact callShared_of_answer? hw hdata hroom hr (coherent_engineAfter h calls)
  · exact r.run_coherent (w.nestedCall_coherent config k) h

/-- What the caller in `relaying` makes of the report of its call. -/
def relayed (r : Report) : UInt64 :=
  if r.outcome.status = .calleeFault Signal.arithmetic then 7 else 0

/-- A system with two functions: the first one calls the second one, which divides by zero. -/
def relaying : World where
  libraries := ⟨fun _ => none, fun _ => .error "no such file"⟩
  code := fun target =>
    if target = 1 then
      some fun _ => .call [.literal (.int 2)] fun r => .ret { integer := relayed r }
    else if target = 2 then some fun _ => .raise Signal.arithmetic
    else none

/-- What the two functions do when they are called without arguments. -/
def relayingBehaviour? (target : UInt64) (params : List Operand) : Option Behaviour :=
  if params ≠ [] then none
  else if target = 1 then
    some (.call [.literal (.int 2)] fun r =>
      .ends ⟨⟨scalarOfBits .plainInt (relayed r), .success⟩, []⟩)
  else if target = 2 then some (.ends ⟨⟨.int 0, .calleeFault Signal.arithmetic⟩, []⟩)
  else none

/-- The first function comes back with what it makes of the report. -/
theorem report_relaying (r : Report) (site : Site) (m : Memory) :
    Plan.report { site } [] m (relaying.invocation { site } { integer := relayed r }) =
      ⟨⟨scalarOfBits .plainInt (relayed r), .success⟩, []⟩ := by
  have hlevel : relaying.stackDelta .standard { integer := relayed r } = 0 := rfl
  simp [Plan.report, Plan.reload, Plan.reloadFrom, finish, writeOutputs, invocation, hlevel,
    Invocation.hasFaulted, readResult, Token.plainInt, Status.afterCall, Status.isSuccess]

theorem keepsNoState_relaying : KeepsNoState relaying (fun _ => True) relayingBehaviour? where
  nesting := fun _ _ _ => trivial
  shows := by
    intro target params b hb site p rest _ hp
    rw [relayingBehaviour?] at hb
    split at hb
    · exact absurd hb (by simp)
    · next hparams =>
      obtain rfl : params = [] := by simpa using hparams
      obtain rfl := Except.ok.inj hp
      split at hb
      · next h₁ =>
        subst h₁
        obtain rfl := Option.some.inj hb
        refine .call fun r => ?_
        rw [← report_relaying r site (Plan.place { site } ++ rest)]
        exact .ret
      · split at hb
        · next h₂ =>
          subst h₂
          obtain rfl := Option.some.inj hb
          exact .raise (by decide)
        · exact absurd hb (by simp)

/-- The first function comes back with 7, at top level after two faults, and inside native code. -/
theorem calls_isolated_relaying :
    (relaying.callShared [.literal (.int 1)]
      (relaying.engineAfter [[.literal (.int 2)], [.literal (.int 2)]] {})).ending =
        .returned ⟨⟨.int 7, .success⟩, [.literal (.int 1)]⟩ ∧
    ∃ perform, relaying.nestedCall 2 = some perform ∧
      (perform [.literal (.int 1)] ⟨{}, [0]⟩).1 =
        .returned ⟨⟨.int 7, .success⟩, [.literal (.int 1)]⟩ := by
  have hanswer : relaying.answer? relayingBehaviour? {} 1 [.literal (.int 1)] =
      some ⟨⟨.int 7, .success⟩, [.literal (.int 1)]⟩ := rfl
  obtain ⟨-, -, -, -, hcalls, -⟩ := @calls_isolated relaying {} _ _ keepsNoState_relaying trivial
  obtain ⟨hinside, htop⟩ := hcalls 1 _ _ hanswer
  refine ⟨htop _ _ (by decide) (.new relaying), ?_⟩
  obtain ⟨perform, hperform, hback⟩ := hinside 1 ⟨{}, [0]⟩ le_rfl trivial (.new relaying)
  exact ⟨perform, hperform, hback.ending⟩

end World

end ForeignCall
