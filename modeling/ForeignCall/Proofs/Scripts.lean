import ForeignCall.Proofs.CallLog

/-!
# The calls of a script

A script makes calls one after the other, through the process-wide loader and on the same counters.
Each call finds some system: what native code left in its own data may be there, or libraries may
have come and gone. Calls that come back are followed by the next one. A deadly signal ends the
script with its process.

The events of a script are those of its calls, in order. Each call is complete, with the calls that
native code made inside it, and closes with the status that it came back with; only a deadly signal
leaves a last call open. The counters have grown by just what the events say, so that they account
for the calls made inside as well, and faults and imbalances together stay behind the calls.

## Main definitions

* `World.OnlyTrapped` — native code that raises no deadly signal
* `ScriptCall`, `Script.run` — the calls of a script, and what they leave behind
* `Script.trees` — the calls that came back, with the calls made inside them

## Main results

* `Routine.run_alive`, `World.callShared_alive` — only deadly signals end the process
* `World.callShared_log` — the events and the counters of one call
* `Script.logged_run`, `tally_run`, `covered_run` — the events of a script, their number, and their
  order
* `Script.run_accounted` — the events and the counters of a script
-/

namespace ForeignCall

/-! ## Calls that come back -/

/-- Whether all signals that a routine raises itself are trapped. -/
def Routine.OnlyTrapped : Routine → Prop
  | .ret _ => True
  | .raise signal => signal ∈ Signal.trapped
  | .load _ _ next => ∀ bytes, (next bytes).OnlyTrapped
  | .text _ next => ∀ bytes, (next bytes).OnlyTrapped
  | .store _ _ next => next.OnlyTrapped
  | .call _ next => ∀ r, (next r).OnlyTrapped

/-- Native code that raises no deadly signal. -/
def World.OnlyTrapped (w : World) : Prop := ∀ target r, (w.routineAt target r).OnlyTrapped

/-- The process is still alive. -/
def Ending.Alive {α : Type} (x : Ending α) : Prop := ∀ signal, x ≠ .died signal

theorem raise_alive {α : Type} {signal : Signal} {t : Thread Machine}
    (hsignal : signal ∈ Signal.trapped) (ht : t.points ≠ []) :
    (raise (α := α) signal t).1.Alive := by
  intro signal'
  rw [raise]
  split
  · next hpoints => exact absurd hpoints ht
  · rw [if_pos hsignal]
    simp

theorem guarded_alive {α : Type} {body : Thread Machine → Ending α × Thread Machine}
    {t : Thread Machine} (h : (body ⟨t.state, t.points.length :: t.points⟩).1.Alive) :
    (guarded body t).1.Alive := by
  intro signal
  simp only [guarded]
  split
  · simp
  · split <;> simp
  · next signal' t' hend => exact absurd (congrArg Prod.fst hend) (h signal')

/-- The calls that native code makes do not end the process. -/
def AliveNested (nested : Option NestedCall) : Prop :=
  ∀ perform, nested = some perform → ∀ (operands : List Operand) (t : Thread Machine),
    (perform operands t).1.Alive

/-- **Under a recovery point native code does not end the process.** -/
theorem Routine.run_alive {nested : Option NestedCall} {tree : NestedTree}
    (hnested : ReturnsNested nested tree) (halive : AliveNested nested) {r : Routine}
    (hr : r.OnlyTrapped) {t : Thread Machine} (ht : t.points ≠ []) : (r.run nested t).1.Alive := by
  induction r generalizing t with
  | ret r =>
    intro signal
    simp [run]
  | raise signal => exact raise_alive hr ht
  | load address count next ih =>
    rw [run]
    split
    · exact ih _ (hr _) ht
    · next fault _ => exact raise_alive fault.signal_trapped ht
  | text address next ih =>
    rw [run]
    split
    · exact ih _ (hr _) ht
    · next fault _ => exact raise_alive fault.signal_trapped ht
  | store address bytes next ih =>
    rw [run]
    split
    · exact ih hr ht
    · next fault _ => exact raise_alive fault.signal_trapped ht
  | call operands next ih =>
    cases nested with
    | none => exact raise_alive AccessFault.denied.signal_trapped ht
    | some perform =>
      have hreturns := hnested perform rfl operands t
      have hcall := halive perform rfl operands t
      rcases hend : perform operands t with ⟨r | _ | signal, t'⟩
      all_goals
        rw [hend] at hreturns hcall
        simp only [run, hend]
      · -- the call left the recovery points alone
        obtain ⟨s, -, h⟩ := hreturns
        exact ih r (hr r) (by rw [h.points]; exact ht)
      · exact hreturns.elim
      · exact absurd rfl (hcall signal)

namespace World

variable {w : World} {nested : Option NestedCall} {tree : NestedTree}

theorem invoke_alive (hnested : ReturnsNested nested tree) (halive : AliveNested nested)
    (hw : w.OnlyTrapped) (target : UInt64) (p : Plan) (t : Thread Machine) :
    (w.invoke nested target p t).1.Alive := by
  intro signal
  have hrun : (w.enter nested target p.registers (t.entering p)).1.Alive := by
    rw [enter_eq_run]
    exact Routine.run_alive hnested halive (hw target _) (by simp [Thread.entering])
  have hguarded := guarded_alive (t := t.modify fun m =>
    { m.installTrap with memory := p.place ++ m.memory }) hrun
  simp only [invoke]
  rw [← Plan.registers]
  split
  · simp
  · simp
  · next signal' t' hend => exact absurd (congrArg Prod.fst hend) (hguarded signal')

theorem perform_alive (hnested : ReturnsNested nested tree) (halive : AliveNested nested)
    (hw : w.OnlyTrapped) (c : Prepared) (t : Thread Machine) :
    (w.perform nested c t).1.Alive := by
  intro signal
  have hinvoke := invoke_alive hnested halive hw c.target c.plan (t.modify (·.beginCall c))
  rw [perform]
  split
  · simp
  · simp
  · next signal' t' hend => exact absurd (congrArg Prod.fst hend) (hinvoke signal')

theorem complete_alive (hnested : ReturnsNested nested tree) (halive : AliveNested nested)
    (hw : w.OnlyTrapped) (operands : List Operand) (events : List Event)
    (c : Except Refusal Prepared) (t : Thread Machine) :
    (w.complete nested operands events c t).1.Alive := by
  intro signal
  simp only [complete]
  cases c with
  | error e => simp
  | ok c =>
    have hperform := perform_alive hnested halive hw c
      (t.modify (·.log (spanStart operands ++ .ofEvents events)))
    simp only
    split
    · simp
    · simp
    · next signal' t' hend => exact absurd (congrArg Prod.fst hend) (hperform signal')

theorem sharedCall_alive (hnested : ReturnsNested nested tree) (halive : AliveNested nested)
    (hw : w.OnlyTrapped) (operands : List Operand) (t : Thread Machine) :
    (w.sharedCall nested operands t).1.Alive :=
  complete_alive hnested halive hw _ _ _ _

theorem nestedCall_alive (hw : w.OnlyTrapped) (n : ℕ) : AliveNested (w.nestedCall n) := by
  induction n with
  | zero =>
    intro perform h
    exact absurd h (by simp [nestedCall])
  | succ n ih =>
    intro perform h operands t
    obtain rfl := Option.some.inj h
    exact sharedCall_alive (w.nestedCall_returns n) ih hw operands t

/-- **A call of a script comes back** unless native code raises a deadly signal. -/
theorem callShared_alive (hw : w.OnlyTrapped) (operands : List Operand) (engine : Engine) :
    (w.callShared operands engine).ending.Alive :=
  sharedCall_alive (w.nestedCall_returns _) (nestedCall_alive hw _) hw operands _

/-! ## The log of a call -/

variable (w : World) (operands : List Operand) (engine : Engine)

/-- A call of a script that came back with a status. -/
def callTree (status : Status) : CallTree :=
  w.sharedTree (w.nestedCall w.nesting) (w.nestedTree w.nesting) operands
    ⟨{ memory := w.data, engine }, []⟩ status

@[simp] theorem status_callTree (status : Status) :
    (w.callTree operands engine status).status = status := by
  simp only [callTree, sharedTree, treeOf]
  split <;> rfl

/-- What a call of a script logs: the events of one call when it comes back, and those of an
unfinished one when its process dies. -/
def Logged : Ending Report → List Event → Prop
  | .returned r, events => Bracket (w.callTree operands engine r.outcome.status) events
  | .unwinding .., _ => False
  | .died _, events => Unfinished events

/-- **The events and the counters of one call.** -/
theorem callShared_log :
    w.Logged operands engine (w.callShared operands engine).ending
        (w.callShared operands engine).trace.events ∧
      (w.callShared operands engine).engine.tally =
        engine.tally + Event.tally (w.callShared operands engine).trace.events := by
  have hcall := w.sharedCall_returns (w.nestedCall_returns w.nesting) operands
    ⟨{ memory := w.data, engine }, []⟩
  simp only [callShared]
  rcases hend : w.sharedCall (w.nestedCall w.nesting) operands
    ⟨{ memory := w.data, engine }, []⟩ with ⟨r | _ | _, t⟩
  all_goals rw [hend] at hcall
  · obtain ⟨log, ⟨-, hbracket⟩, hlogs⟩ := hcall
    have htrace : t.state.trace = log := hlogs.trace
    subst htrace
    exact ⟨hbracket, hlogs.tally.trans (Tally.afterEvents_eq ..)⟩
  · exact hcall.elim
  · obtain ⟨log, hcut, hadds⟩ := hcall
    have htrace : t.state.trace = log := hadds.trace
    subst htrace
    exact ⟨hcut, hadds.tally.trans (Tally.afterEvents_eq ..)⟩

end World

/-! ## The log of a script -/

/-- A call of a script, with the system that it finds. -/
structure ScriptCall where
  world : World
  operands : List Operand

/-- What the calls of a script leave behind. -/
structure ScriptRun where
  /-- How the calls ended that were made. -/
  endings : List (Ending Report)
  engine : Engine
  trace : Trace

namespace Script

/-- Makes the calls of a script, as long as they come back. -/
def run : List ScriptCall → Engine → ScriptRun
  | [], engine => ⟨[], engine, []⟩
  | c :: calls, engine =>
    let r := c.world.callShared c.operands engine
    match r.ending with
    | .returned _ =>
      let rest := run calls r.engine
      ⟨r.ending :: rest.endings, rest.engine, r.trace ++ rest.trace⟩
    | .unwinding .. | .died _ => ⟨[r.ending], r.engine, r.trace⟩

/-- The calls of a script that come back. -/
def trees : List ScriptCall → Engine → List CallTree
  | [], _ => []
  | c :: calls, engine =>
    let r := c.world.callShared c.operands engine
    match r.ending with
    | .returned report =>
      c.world.callTree c.operands engine report.outcome.status :: trees calls r.engine
    | .unwinding .. | .died _ => []

variable {calls : List ScriptCall} {engine : Engine}

/-- The counters are what the events come to. -/
theorem tally_run (calls : List ScriptCall) (engine : Engine) :
    (run calls engine).engine.tally =
      engine.tally + Event.tally (run calls engine).trace.events := by
  induction calls generalizing engine with
  | nil => rfl
  | cons c calls ih =>
    have htally := (c.world.callShared_log c.operands engine).2
    simp only [run]
    split
    · rw [ih, htally, Trace.events_append, Event.tally_append, Tally.add_assoc]
    · exact htally
    · exact htally

/-- The events are those of the calls that come back, and of one more if the process dies in it. -/
theorem logged_run (calls : List ScriptCall) (engine : Engine) :
    ∃ reports : List Report,
      (trees calls engine).map CallTree.status = reports.map (·.outcome.status) ∧
      ((run calls engine).endings = reports.map .returned ∧
          Brackets (trees calls engine) (run calls engine).trace.events ∨
        (∃ signal, (run calls engine).endings = reports.map .returned ++ [.died signal]) ∧
          BreaksOff (trees calls engine) (run calls engine).trace.events) := by
  induction calls generalizing engine with
  | nil => exact ⟨[], rfl, .inl ⟨rfl, .nil⟩⟩
  | cons c calls ih =>
    have hlogged := (c.world.callShared_log c.operands engine).1
    simp only [run, trees]
    cases hending : (c.world.callShared c.operands engine).ending with
    | returned report =>
      rw [hending] at hlogged
      obtain ⟨reports, hstatus, hrest⟩ := ih (c.world.callShared c.operands engine).engine
      refine ⟨report :: reports, ?_, ?_⟩
      · rw [List.map_cons, List.map_cons, hstatus, World.status_callTree]
      · rw [Trace.events_append]
        rcases hrest with ⟨hreports, hrest⟩ | ⟨⟨signal, hreports⟩, hrest⟩
        · exact .inl ⟨congrArg _ hreports, .cons hlogged hrest⟩
        · exact .inr ⟨⟨signal, congrArg _ hreports⟩, .after (Bracket.single hlogged) hrest⟩
    | unwinding point signal =>
      rw [hending] at hlogged
      exact hlogged.elim
    | died signal =>
      rw [hending] at hlogged
      exact ⟨[], rfl, .inr ⟨⟨signal, rfl⟩, Unfinished.breaksOff hlogged⟩⟩

/-- Without deadly signals all calls of a script come back. -/
theorem endings_run (h : ∀ c ∈ calls, c.world.OnlyTrapped) (engine : Engine) :
    (run calls engine).endings.length = calls.length ∧
      ∀ x ∈ (run calls engine).endings, x.Alive := by
  induction calls generalizing engine with
  | nil => exact ⟨rfl, by simp [run]⟩
  | cons c calls ih =>
    have hlogged := (c.world.callShared_log c.operands engine).1
    have halive := World.callShared_alive (h c (List.mem_cons_self ..)) c.operands engine
    simp only [run]
    cases hending : (c.world.callShared c.operands engine).ending with
    | returned report =>
      obtain ⟨hlength, hrest⟩ := ih (fun c' hc' => h c' (List.mem_cons_of_mem _ hc'))
        (c.world.callShared c.operands engine).engine
      refine ⟨congrArg _ hlength, ?_⟩
      rw [hending] at halive
      exact List.forall_mem_cons.mpr ⟨halive, hrest⟩
    | unwinding point signal =>
      rw [hending] at hlogged
      exact hlogged.elim
    | died signal => exact absurd hending (halive signal)

/-- Without deadly signals the log of a script is complete. -/
theorem brackets_run (h : ∀ c ∈ calls, c.world.OnlyTrapped) (engine : Engine) :
    (run calls engine).endings.length = calls.length ∧
      Brackets (trees calls engine) (run calls engine).trace.events := by
  obtain ⟨hlength, halive⟩ := endings_run h engine
  refine ⟨hlength, ?_⟩
  obtain ⟨reports, -, ⟨-, hbrackets⟩ | ⟨⟨signal, hdied⟩, -⟩⟩ := logged_run calls engine
  · exact hbrackets
  · exact absurd rfl (halive (.died signal) (by rw [hdied]; simp) signal)

/-- At no point of a script are there more reports of a bad status than calls. -/
theorem covered_run (calls : List ScriptCall) (engine : Engine) :
    Covered (run calls engine).trace.events := by
  obtain ⟨reports, -, ⟨-, hcalls⟩ | ⟨-, hcalls⟩⟩ := logged_run calls engine
  · exact hcalls.covered
  · exact hcalls.covered

/-- **The events and the counters of a script account for all of its calls**, and for those that
native code makes inside them. The events are those of the calls that came back, each with the
status that it came back with and complete with the calls inside; only a process that dies leaves
one more call open, and it takes a deadly signal for that. The counters have grown by what these
events come to, and reports of bad statuses stay behind the calls at any point, so that the counters
of faults and imbalances together never overtake the one of calls. -/
theorem run_accounted (calls : List ScriptCall) (engine : Engine) :
    (∃ reports : List Report,
      (trees calls engine).map CallTree.status = reports.map (·.outcome.status) ∧
      ((run calls engine).endings = reports.map .returned ∧
          Brackets (trees calls engine) (run calls engine).trace.events ∨
        (∃ signal, (run calls engine).endings = reports.map .returned ++ [.died signal]) ∧
          BreaksOff (trees calls engine) (run calls engine).trace.events)) ∧
    ((∀ c ∈ calls, c.world.OnlyTrapped) →
      (run calls engine).endings.length = calls.length ∧
        Brackets (trees calls engine) (run calls engine).trace.events) ∧
    (run calls engine).engine.tally =
      engine.tally + Event.tally (run calls engine).trace.events ∧
    (∀ n, let counted := Event.tally ((run calls engine).trace.events.take n)
      counted.faults + counted.imbalances ≤ counted.calls) ∧
    (engine.tally.faults + engine.tally.imbalances ≤ engine.tally.calls →
      (run calls engine).engine.tally.faults + (run calls engine).engine.tally.imbalances ≤
        (run calls engine).engine.tally.calls) := by
  refine ⟨logged_run calls engine, fun h => brackets_run h engine, tally_run calls engine,
    covered_run calls engine, fun h => ?_⟩
  have hcovered := covered_run calls engine (run calls engine).trace.events.length
  rw [List.take_length] at hcovered
  simp only [tally_run, Tally.calls_add, Tally.faults_add, Tally.imbalances_add]
  omega

/-- A function calls another one, which divides by zero. -/
example :
    (run [⟨{ libraries := ⟨fun _ => none, fun _ => .error "no such file"⟩
             code := fun target =>
              if target = 1 then some fun _ => .call [.literal (.int 2)] fun _ => .ret {}
              else some fun _ => .raise Signal.arithmetic }, [.literal (.int 1)]⟩]
      {}).trace.events.map Event.name =
        ["ffi_call", "trap_installed", "ffi_call", "callee_fault", "ffi_return", "ffi_return"] := by
  rfl

/-- A function leaves four bytes on the stack, on a platform that looks at it. -/
example :
    let r := run [⟨{ libraries := ⟨fun _ => none, fun _ => .error "no such file"⟩
                     code := fun _ => some fun _ => .ret { moved := 4 }
                     measuresStack := true }, [.literal (.int 1)]⟩] {}
    r.endings = [.returned ⟨⟨.int 0, .stackImbalance 4⟩, [.literal (.int 1)]⟩] ∧
      r.trace.events.map Event.name =
        ["ffi_call", "trap_installed", "stack_imbalance", "ffi_return"] := by
  exact ⟨rfl, rfl⟩

end Script

end ForeignCall
