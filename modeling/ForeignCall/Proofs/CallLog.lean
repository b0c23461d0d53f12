import ForeignCall.Proofs.Brackets
import ForeignCall.Proofs.Landing

/-!
# The log of calls

Native code may make calls of its own, and those may fault, so that the log of one call contains
the logs of others. What a call logs has the shape of a tree all the same: either a preparation and
one rejection, or a preparation, the entry into native code, the complete logs of the calls made
there, and the return. The counters are kept apart from the log, but no step changes one without
the other: at any time they are what the events come to.

Both facts are carried by one invariant. The relation `Thread.Logs t t' s` says that the thread got
from `t` to `t'` with the log `s`, its events counted, and the same recovery points. Native code
that settles did so with the logs of whole calls, also when a signal ended it; and a signal only
gets as far as the innermost recovery point, so that it never leaves a call. A deadly signal ends
everything at once, and leaves the beginning of such a log behind.

Which calls these are is said by a tree. The tree of a call is read off the run of its native code:
it has a branch for each call that native code gets back from, with the status that it is given.

## Main definitions

* `Tally.afterEvents` — the counters that events come to
* `CallLog`, `CallLogs` — the log of one call, and of calls made one after the other
* `Routine.trees`, `World.sharedTree` — the calls that native code makes, and a call with them
* `Thread.Logs` — the invariant
* `Thread.Settles`, `Thread.Returns` — how native code ends, and how a region ends that no signal
  leaves

## Main results

* `Tally.afterEvents_eq` — the counters are numbers of events
* `Routine.run_settles` — native code logs whole calls
* `guarded_returns` — no signal gets out of a guarded region
* `World.complete_returns` — what a call logs, whatever native code does
* `World.nestedCall_returns` — calls made by native code are calls like any other
* `World.callWith_log` — the log and the counters of a call with an outcome
-/

namespace ForeignCall

/-! ## Counting events -/

namespace Tally

/-- The counters after an event. -/
def afterEvent (n : Tally) : Event → Tally
  | .nativeCall .. => { n with calls := n.calls + 1 }
  | .marshalFailed .. => { n with marshalingErrors := n.marshalingErrors + 1 }
  | .calleeFault .. => { n with faults := n.faults + 1 }
  | .stackImbalance .. => { n with imbalances := n.imbalances + 1 }
  | _ => n

/-- The counters after events. -/
def afterEvents (n : Tally) (events : List Event) : Tally :=
  events.foldl afterEvent n

@[simp] theorem afterEvents_append (n : Tally) (events events' : List Event) :
    n.afterEvents (events ++ events') = (n.afterEvents events).afterEvents events' :=
  List.foldl_append

/-- Preparing a call counts nothing. -/
theorem afterEvents_of_isPreparation {n : Tally} {events : List Event}
    (h : ∀ e ∈ events, e.isPreparation = true) : n.afterEvents events = n := by
  induction events with
  | nil => rfl
  | cons e events ih =>
    have he : n.afterEvent e = n := by
      have hprep : e.isPreparation = true := h e (List.mem_cons_self ..)
      cases e <;> first | rfl | exact absurd hprep (by simp [Event.isPreparation])
    rw [afterEvents, List.foldl_cons, he]
    exact ih fun e' he' => h e' (List.mem_cons_of_mem _ he')

/-- Calls are counted by the events that announce them. -/
theorem calls_afterEvents (n : Tally) (events : List Event) :
    (n.afterEvents events).calls = n.calls + events.countP Event.isNativeCall := by
  induction events generalizing n with
  | nil => rfl
  | cons e events ih =>
    have he : (n.afterEvent e).calls = n.calls + if e.isNativeCall then 1 else 0 := by
      cases e <;> rfl
    rw [afterEvents, List.foldl_cons, ← afterEvents, ih, he, List.countP_cons]
    omega

/-- Counting events one after the other comes to counting them by name. -/
theorem afterEvents_eq (n : Tally) (events : List Event) :
    n.afterEvents events = n + Event.tally events := by
  induction events generalizing n with
  | nil => rfl
  | cons e events ih =>
    have he : n.afterEvent e = n + Event.tally [e] := by
      cases e <;> rfl
    rw [afterEvents, List.foldl_cons, ← afterEvents, ih, he, add_assoc, ← Event.tally_append,
      List.singleton_append]

/-- A rejection is counted by its event. -/
theorem afterRejection_eq (n : Tally) (reason : Rejection) (function : String) :
    n.afterRejection reason = n.afterEvents [reason.event function] := by
  cases reason <;> rfl

/-- A status is counted by the events that report it. -/
theorem afterStatus_eq (n : Tally) (status : Status) (function : String) :
    n.afterStatus status =
      n.afterEvents ((status.warning? function).toList ++ [.nativeReturn function status]) := by
  cases status <;> rfl

end Tally

/-! ## The shape of a log -/

/-- The log of a call that was refused after some events. -/
def refusedLog (operands : List Operand) (events : List Event) (reason : Rejection) : Trace :=
  spanStart operands ++ .ofEvents events ++ [.event (reason.event (callName operands))] ++
    spanEnd operands

/-- The event of the trap, unless its handlers are installed already. -/
def trapEvents (isTrapReady : Bool) : List Event :=
  if isTrapReady then [] else [.trapInstalled Signal.trapped.length]

/-- The log of a call that entered native code: the preparation, the entry, what native code logged,
and the return. -/
def enteredLog (operands : List Operand) (events : List Event) (arguments : ℕ) (isTrapReady : Bool)
    (inner : Trace) (status : Status) : Trace :=
  spanStart operands ++ .ofEvents events ++
    ([.event (.nativeCall (callName operands) arguments)] ++
      (Trace.ofEvents (trapEvents isTrapReady) ++ inner) ++
      Trace.ofEvents ((status.warning? (callName operands)).toList ++
        [.nativeReturn (callName operands) status])) ++
    spanEnd operands

mutual

/-- The log of one call with a status. -/
inductive CallLog : List Operand → Status → Trace → Prop where
  | refused {operands : List Operand} {events : List Event} {reason : Rejection}
      (prepared : ∀ e ∈ events, e.isPreparation = true) :
      CallLog operands reason.status (refusedLog operands events reason)
  | entered {operands : List Operand} {events : List Event} {arguments : ℕ} {isTrapReady : Bool}
      {inner : Trace} {status : Status} (prepared : ∀ e ∈ events, e.isPreparation = true)
      (accepted : status.isRejection = false) (calls : CallLogs inner) :
      CallLog operands status (enteredLog operands events arguments isTrapReady inner status)

/-- The log of calls that were made one after the other. -/
inductive CallLogs : Trace → Prop where
  | nil : CallLogs []
  | cons {operands : List Operand} {status : Status} {log logs : Trace}
      (head : CallLog operands status log) (tail : CallLogs logs) : CallLogs (log ++ logs)

end

/-- The events of a call that entered native code, with the events of the calls made there. -/
theorem events_enteredLog (operands : List Operand) (events : List Event) (arguments : ℕ)
    (isTrapReady : Bool) (inner : Trace) (status : Status) :
    (enteredLog operands events arguments isTrapReady inner status).events =
      events ++ .nativeCall (callName operands) arguments ::
        (trapEvents isTrapReady ++ inner.events ++
          ((status.warning? (callName operands)).toList ++
            [.nativeReturn (callName operands) status])) := by
  simp only [enteredLog, Trace.events_append, events_spanStart, events_spanEnd,
    Trace.events_ofEvents, List.nil_append, List.append_nil, List.append_assoc]
  rfl

/-! ### Brackets in a log -/

theorem Rejection.refuses_event (reason : Rejection) (function : String) :
    Refuses function reason.status (reason.event function) := by
  refine ⟨reason.isRejection_status, ?_⟩
  cases reason <;> exact ⟨_, rfl, rfl⟩

theorem Status.warns_warning? (status : Status) (function : String) :
    Warns function (status.warning? function).toList status := by
  cases status <;> first | rfl | exact ⟨_, rfl, rfl, rfl⟩

theorem name_of_mem_trapEvents {isTrapReady : Bool} {e : Event} (h : e ∈ trapEvents isTrapReady) :
    e.name = "trap_installed" := by
  cases isTrapReady with
  | true => simp [trapEvents] at h
  | false =>
    obtain rfl := List.mem_singleton.mp h
    rfl

/-- The start of the log of a call that enters native code. -/
theorem opens_log {function : String} {events : List Event} {arguments : ℕ} {isTrapReady : Bool}
    (h : ∀ e ∈ events, e.isPreparation = true) :
    Opens function events (.nativeCall function arguments) (trapEvents isTrapReady) :=
  ⟨h, ⟨arguments, rfl, rfl⟩, fun _ he => name_of_mem_trapEvents he⟩

theorem bracket_refusedLog {operands : List Operand} {events : List Event} {reason : Rejection}
    (h : ∀ e ∈ events, e.isPreparation = true) :
    Bracket (.refused operands reason.status) (refusedLog operands events reason).events := by
  simp only [refusedLog, Trace.events_append, events_spanStart, events_spanEnd,
    Trace.events_ofEvents, List.nil_append, List.append_nil]
  exact .refused h (reason.refuses_event _)

theorem bracket_enteredLog {operands : List Operand} {events : List Event} {arguments : ℕ}
    {isTrapReady : Bool} {inner : Trace} {status : Status} {within : List CallTree}
    (h : ∀ e ∈ events, e.isPreparation = true) (hstatus : status.isRejection = false)
    (hinner : Brackets within inner.events) :
    Bracket (.entered operands status within)
      (enteredLog operands events arguments isTrapReady inner status).events := by
  rw [events_enteredLog]
  exact .entered hstatus (opens_log h) hinner ⟨status.warns_warning? _, rfl, rfl⟩

/-- The log of a call that entered native code and does not come back. -/
theorem unfinished_log {operands : List Operand} {events : List Event} {arguments : ℕ}
    {isTrapReady : Bool} {inner : Trace} {within : List CallTree} {complete rest : List Event}
    (h : ∀ e ∈ events, e.isPreparation = true) (hcomplete : Brackets within complete)
    (hrest : Unfinished rest) (hinner : inner.events = complete ++ rest) :
    Unfinished (Trace.events (spanStart operands ++ .ofEvents events ++
      ([.event (.nativeCall (callName operands) arguments)] ++
        (Trace.ofEvents (trapEvents isTrapReady) ++ inner)))) := by
  simp only [Trace.events_append, events_spanStart, Trace.events_ofEvents, List.nil_append, hinner]
  change Unfinished (events ++ .nativeCall (callName operands) arguments ::
    (trapEvents isTrapReady ++ (complete ++ rest)))
  exact .entered (opens_log h) hcomplete hrest

/-- A call that entered native code announces itself once, apart from the calls made there. -/
theorem countP_isNativeCall_enteredLog {operands : List Operand} {events : List Event}
    {arguments : ℕ} {isTrapReady : Bool} {inner : Trace} {status : Status}
    (h : ∀ e ∈ events, e.isPreparation = true) :
    (enteredLog operands events arguments isTrapReady inner status).events.countP
        Event.isNativeCall = 1 + inner.events.countP Event.isNativeCall := by
  have htrap : (trapEvents isTrapReady).countP Event.isNativeCall = 0 := by
    cases isTrapReady <;> rfl
  have hreturn : ((status.warning? (callName operands)).toList ++
      [Event.nativeReturn (callName operands) status]).countP Event.isNativeCall = 0 := by
    cases status <;> rfl
  rw [events_enteredLog, List.countP_append, List.countP_cons_of_pos rfl, List.countP_append,
    List.countP_append, Event.countP_isNativeCall_of_isPreparation h, htrap, hreturn]
  omega

/-- Calls after calls are calls. -/
theorem CallLogs.append {s s' : Trace} : CallLogs s → CallLogs s' → CallLogs (s ++ s')
  | .nil, hs' => hs'
  | .cons head tail, hs' => by
    rw [List.append_assoc]
    exact .cons head (tail.append hs')

theorem CallLog.single {operands : List Operand} {status : Status} {log : Trace}
    (h : CallLog operands status log) : CallLogs log := by
  rw [← List.append_nil log]
  exact .cons h .nil

/-- The log of calls that came back: the logs of whole calls, with the events of these calls. -/
structure Whole (trees : List CallTree) (s : Trace) : Prop where
  logs : CallLogs s
  brackets : Brackets trees s.events

theorem Whole.nil : Whole [] [] := ⟨.nil, .nil⟩

theorem Whole.append {trees trees' : List CallTree} {s s' : Trace} (h : Whole trees s)
    (h' : Whole trees' s') : Whole (trees ++ trees') (s ++ s') := by
  refine ⟨h.logs.append h'.logs, ?_⟩
  rw [Trace.events_append]
  exact h.brackets.append h'.brackets

/-! ## The calls that are made -/

/-- What a call on a thread looks like, once it has come back with a status. -/
abbrev NestedTree := List Operand → Thread Machine → Status → CallTree

/-- The calls that a routine makes and gets back from, with the statuses that it gets to see. -/
def Routine.trees (nested : Option NestedCall) (tree : NestedTree) :
    Routine → Thread Machine → List CallTree
  | .ret _, _ | .raise _, _ => []
  | .load address count next, t =>
    match t.state.memory.load address count with
    | .ok bytes => (next bytes).trees nested tree t
    | .error _ => []
  | .text address next, t =>
    match t.state.memory.text address with
    | .ok bytes => (next bytes).trees nested tree t
    | .error _ => []
  | .store address bytes next, t =>
    match t.state.memory.store address bytes with
    | .ok memory => next.trees nested tree (t.modify fun m => { m with memory })
    | .error _ => []
  | .call operands next, t =>
    match nested with
    | none => []
    | some perform =>
      match perform operands t with
      | (.returned r, t') => tree operands t r.outcome.status :: (next r).trees nested tree t'
      | (.unwinding .., _) | (.died _, _) => []

/-- The registers in which native code finds the arguments of a plan. -/
def Plan.registers (p : Plan) : Registers :=
  (drive (RegisterFrame.withCapacity p.arguments.length) p).registers

/-- The thread in which native code is entered: the arguments lie in memory, and there is a recovery
point of its own. -/
def Thread.entering (t : Thread Machine) (p : Plan) : Thread Machine :=
  ⟨{ t.state.installTrap with memory := p.place ++ t.state.memory }, t.points.length :: t.points⟩

namespace World

/-- What native code does at an address. Where there is none, jumping faults. -/
def routineAt (w : World) (target : UInt64) (r : Registers) : Routine :=
  match w.code target with
  | some callee => callee r
  | none => .raise Signal.segmentation

theorem enter_eq_run (w : World) (nested : Option NestedCall) (target : UInt64)
    (r : Registers) (t : Thread Machine) :
    w.enter nested target r t = (w.routineAt target r).run nested t := by
  rw [World.enter, World.routineAt]
  cases w.code target <;> rfl

variable (w : World)

/-- The calls that native code makes under the trap. -/
def treesUnderTrap (nested : Option NestedCall) (tree : NestedTree) (target : UInt64) (p : Plan)
    (t : Thread Machine) : List CallTree :=
  (w.routineAt target p.registers).trees nested tree (t.entering p)

/-- A call after its preparation. -/
def treeOf (nested : Option NestedCall) (tree : NestedTree) (operands : List Operand)
    (events : List Event) (c : Except Refusal Prepared) (t : Thread Machine) (status : Status) :
    CallTree :=
  match c with
  | .error _ => .refused operands status
  | .ok c =>
    let t := t.modify (·.log (spanStart operands ++ .ofEvents events))
    .entered operands status
      (w.treesUnderTrap nested tree c.target c.plan (t.modify (·.beginCall c)))

/-- A call through the process-wide loader. -/
def sharedTree (nested : Option NestedCall) (tree : NestedTree) (operands : List Operand)
    (t : Thread Machine) (status : Status) : CallTree :=
  let (loader, events, c) :=
    prepare w.libraries ⟨t.points.length⟩ (t.state.engine.loader.getD {}) operands
  w.treeOf nested tree operands events c
    (t.modify fun m => { m with engine := { m.engine with loader := some loader } }) status

/-- The calls that native code makes while the stack has room for the given number of them. -/
def nestedTree : ℕ → NestedTree
  | 0, operands, _, status => .refused operands status
  | n + 1, operands, t, status => w.sharedTree (w.nestedCall n) (nestedTree n) operands t status

end World

/-! ## The invariant -/

namespace Thread

/-- A thread got from one state to another with a log, and its events are counted. -/
structure Adds (t t' : Thread Machine) (s : Trace) : Prop where
  trace : t'.state.trace = t.state.trace ++ s
  tally : t'.state.engine.tally = t.state.engine.tally.afterEvents s.events

/-- A thread got from one state to another with a log: its events are counted, and the recovery
points are the same. -/
structure Logs (t t' : Thread Machine) (s : Trace) : Prop where
  points : t'.points = t.points
  trace : t'.state.trace = t.state.trace ++ s
  tally : t'.state.engine.tally = t.state.engine.tally.afterEvents s.events

variable {t t' t'' : Thread Machine} {s s' : Trace}

theorem Logs.refl (t : Thread Machine) : t.Logs t [] :=
  ⟨rfl, (List.append_nil _).symm, rfl⟩

theorem Logs.adds (h : t.Logs t' s) : t.Adds t' s :=
  ⟨h.trace, h.tally⟩

theorem Adds.after (h : t.Logs t' s) (h' : t'.Adds t'' s') : t.Adds t'' (s ++ s') := by
  refine ⟨?_, ?_⟩
  · rw [h'.trace, h.trace, List.append_assoc]
  · rw [h'.tally, h.tally, Trace.events_append, Tally.afterEvents_append]

theorem Logs.trans (h : t.Logs t' s) (h' : t'.Logs t'' s') : t.Logs t'' (s ++ s') := by
  obtain ⟨htrace, htally⟩ := Adds.after h h'.adds
  exact ⟨h'.points.trans h.points, htrace, htally⟩

/-- A step that neither logs nor counts. -/
theorem Logs.of_eq (hpoints : t'.points = t.points) (htrace : t'.state.trace = t.state.trace)
    (htally : t'.state.engine.tally = t.state.engine.tally) : t.Logs t' [] :=
  ⟨hpoints, htrace.trans (List.append_nil _).symm, htally⟩

/-- Logging a preparation. -/
theorem logs_prepared (t : Thread Machine) (operands : List Operand) {events : List Event}
    (h : ∀ e ∈ events, e.isPreparation = true) :
    t.Logs (t.modify (·.log (spanStart operands ++ .ofEvents events)))
      (spanStart operands ++ .ofEvents events) := by
  refine ⟨rfl, rfl, ?_⟩
  rw [Trace.events_append, events_spanStart, Trace.events_ofEvents, List.nil_append,
    Tally.afterEvents_of_isPreparation h]
  rfl

theorem logs_spanEnd (t : Thread Machine) (operands : List Operand) :
    t.Logs (t.modify (·.log (spanEnd operands))) (spanEnd operands) := by
  refine ⟨rfl, rfl, ?_⟩
  rw [events_spanEnd]
  rfl

theorem logs_refuse (t : Thread Machine) (e : Refusal) :
    t.Logs (t.modify (·.refuse e)) [.event (e.reason.event e.function)] :=
  ⟨rfl, rfl, Tally.afterRejection_eq _ _ _⟩

theorem logs_beginCall (t : Thread Machine) (c : Prepared) :
    t.Logs (t.modify (·.beginCall c))
      [.event (.nativeCall c.function c.plan.arguments.length)] :=
  ⟨rfl, rfl, rfl⟩

theorem logs_endCall (t : Thread Machine) (c : Prepared) (status : Status) :
    t.Logs (t.modify (·.endCall c status))
      (.ofEvents ((status.warning? c.function).toList ++ [.nativeReturn c.function status])) := by
  refine ⟨rfl, rfl, ?_⟩
  rw [Trace.events_ofEvents, ← Tally.afterStatus_eq]
  rfl

/-- Installing the trap, before the arguments are put into memory. -/
theorem logs_installTrap (t : Thread Machine) (memory : Machine → Memory) :
    t.Logs (t.modify fun m => { m.installTrap with memory := memory m })
      (.ofEvents (trapEvents t.state.engine.isTrapReady)) := by
  refine ⟨rfl, ?_, ?_⟩
  all_goals
    simp only [Thread.modify, Machine.installTrap, trapEvents]
    split
  · exact (List.append_nil _).symm
  · rfl
  · rfl
  · rfl

/-- How native code ends that made some calls: with the log of these calls. A signal takes control
to the given recovery point, and nowhere when there is none. When it is deadly the log may break off
in one more call. -/
def Settles {α : Type} (t : Thread Machine) (trees : List CallTree) (target : Option ℕ) :
    Ending α × Thread Machine → Prop
  | (.returned _, t') => ∃ s, Whole trees s ∧ t.Logs t' s
  | (.unwinding point _, t') => target = some point ∧ ∃ s, Whole trees s ∧ t.Logs t' s
  | (.died _, t') => ∃ s, BreaksOff trees s.events ∧ t.Adds t' s

/-- How a region ends that no signal leaves: it returns, with a log of a given form. A deadly signal
leaves a log of another form. -/
def Returns {α : Type} (t : Thread Machine) (form : α → Trace → Prop) (cut : Trace → Prop) :
    Ending α × Thread Machine → Prop
  | (.returned a, t') => ∃ s, form a s ∧ t.Logs t' s
  | (.unwinding .., _) => False
  | (.died _, t') => ∃ s, cut s ∧ t.Adds t' s

/-- What happens after whole calls settles if it does so from there. -/
theorem Settles.after {α : Type} {trees trees' : List CallTree} {target : Option ℕ}
    {x : Ending α × Thread Machine} (hs : Whole trees s) (h : t.Logs t' s)
    (hx : t'.Settles trees' target x) : t.Settles (trees ++ trees') target x := by
  rcases x with ⟨_ | _ | _, t''⟩
  · obtain ⟨s', hs', h'⟩ := hx
    exact ⟨s ++ s', hs.append hs', h.trans h'⟩
  · obtain ⟨hpoint, s', hs', h'⟩ := hx
    exact ⟨hpoint, s ++ s', hs.append hs', h.trans h'⟩
  · obtain ⟨s', hs', h'⟩ := hx
    refine ⟨s ++ s', ?_, .after h h'⟩
    rw [Trace.events_append]
    exact .after hs.brackets hs'

theorem Returns.mono {α : Type} {form form' : α → Trace → Prop} {cut : Trace → Prop}
    {x : Ending α × Thread Machine} (hx : t.Returns form cut x)
    (hform : ∀ a s, form a s → form' a s) : t.Returns form' cut x := by
  rcases x with ⟨a | _ | _, t'⟩
  · obtain ⟨s, hs, h⟩ := hx
    exact ⟨s, hform a s hs, h⟩
  · exact hx
  · exact hx

/-- What happens after a step that logs nothing. -/
theorem Returns.after {α : Type} {form : α → Trace → Prop} {cut : Trace → Prop}
    {x : Ending α × Thread Machine} (h : t.Logs t' []) (hx : t'.Returns form cut x) :
    t.Returns form cut x := by
  rcases x with ⟨_ | _ | _, t''⟩
  · obtain ⟨s, hs, h'⟩ := hx
    exact ⟨s, hs, h.trans h'⟩
  · exact hx
  · obtain ⟨s, hs, h'⟩ := hx
    exact ⟨s, hs, .after h h'⟩

end Thread

/-! ## Native code -/

/-- A signal gets as far as the innermost recovery point. -/
theorem raise_settles {α : Type} (signal : Signal) (t : Thread Machine) :
    t.Settles [] t.points.head? (raise (α := α) signal t) := by
  have hdied : t.Settles [] t.points.head? (.died (α := α) signal, t) :=
    ⟨[], Brackets.nil.breaksOff, (Thread.Logs.refl t).adds⟩
  rw [raise]
  split
  · exact hdied
  · next p ps hpoints =>
    split
    · exact ⟨by rw [hpoints]; rfl, [], .nil, .refl t⟩
    · exact hdied

/-- The calls that native code makes return, with logs of whole calls. -/
def ReturnsNested (nested : Option NestedCall) (tree : NestedTree) : Prop :=
  ∀ perform, nested = some perform → ∀ (operands : List Operand) (t : Thread Machine),
    t.Returns (fun r s => Whole [tree operands t r.outcome.status] s)
      (fun s => Unfinished s.events) (perform operands t)

/-- **Native code logs whole calls**, and its signals get as far as the innermost recovery point. -/
theorem Routine.run_settles {nested : Option NestedCall} {tree : NestedTree}
    (hnested : ReturnsNested nested tree) (r : Routine) (t : Thread Machine) :
    t.Settles (r.trees nested tree t) t.points.head? (r.run nested t) := by
  induction r generalizing t with
  | ret r => exact ⟨[], .nil, .refl t⟩
  | raise signal => exact raise_settles signal t
  | load address count next ih =>
    cases hread : t.state.memory.load address count with
    | ok bytes =>
      simp only [run, trees, hread]
      exact ih bytes t
    | error fault =>
      simp only [run, trees, hread]
      exact raise_settles _ t
  | text address next ih =>
    cases hread : t.state.memory.text address with
    | ok bytes =>
      simp only [run, trees, hread]
      exact ih bytes t
    | error fault =>
      simp only [run, trees, hread]
      exact raise_settles _ t
  | store address bytes next ih =>
    cases hwrite : t.state.memory.store address bytes with
    | ok memory =>
      have hstored : t.Logs (t.modify fun m => { m with memory }) [] := .of_eq rfl rfl rfl
      simp only [run, trees, hwrite]
      exact .after .nil hstored (ih (t.modify fun m => { m with memory }))
    | error fault =>
      simp only [run, trees, hwrite]
      exact raise_settles _ t
  | call operands next ih =>
    cases nested with
    | none => exact raise_settles _ t
    | some perform =>
      have hcall := hnested perform rfl operands t
      rcases hend : perform operands t with ⟨r | _ | _, t'⟩
      all_goals
        rw [hend] at hcall
        simp only [run, trees, hend]
      · obtain ⟨s, hs, h⟩ := hcall
        -- the call left the recovery points alone, so what follows still jumps to the same one
        have hnext := ih r t'
        rw [h.points] at hnext
        exact .after hs h hnext
      · exact hcall.elim
      · obtain ⟨s, hs, h⟩ := hcall
        exact ⟨s, hs.breaksOff, h⟩

/-- **No signal gets out of a guarded region.** -/
theorem guarded_returns {α : Type} {body : Thread Machine → Ending α × Thread Machine}
    {trees : List CallTree} {t : Thread Machine}
    (hbody : Thread.Settles ⟨t.state, t.points.length :: t.points⟩ trees (some t.points.length)
      (body ⟨t.state, t.points.length :: t.points⟩)) :
    t.Returns (fun _ s => Whole trees s) (fun s => BreaksOff trees s.events) (guarded body t) := by
  simp only [guarded]
  split
  · next a t' hend =>
    rw [hend] at hbody
    obtain ⟨s, hs, h⟩ := hbody
    exact ⟨s, hs, rfl, h.trace, h.tally⟩
  · next p signal t' hend =>
    rw [hend] at hbody
    -- the region's own point is the innermost one, so that is where the signal was going
    obtain ⟨hp, s, hs, h⟩ := hbody
    obtain rfl : t.points.length = p := Option.some.inj hp
    rw [if_pos rfl]
    exact ⟨s, hs, rfl, h.trace, h.tally⟩
  · next signal t' hend =>
    rw [hend] at hbody
    obtain ⟨s, hs, h⟩ := hbody
    exact ⟨s, hs, h.trace, h.tally⟩

/-! ## Calls -/

namespace World

variable (w : World) {nested : Option NestedCall} {tree : NestedTree}

theorem enter_settles (hnested : ReturnsNested nested tree) (target : UInt64) (r : Registers)
    (t : Thread Machine) :
    t.Settles ((w.routineAt target r).trees nested tree t) t.points.head?
      (w.enter nested target r t) := by
  rw [enter_eq_run]
  exact Routine.run_settles hnested _ t

/-- Native code under the trap logs the installation of the trap, if it is the first, and calls. -/
theorem invoke_returns (hnested : ReturnsNested nested tree) (target : UInt64) (p : Plan)
    (t : Thread Machine) :
    t.Returns
      (fun _ s => ∃ inner, Whole (w.treesUnderTrap nested tree target p t) inner ∧
        s = .ofEvents (trapEvents t.state.engine.isTrapReady) ++ inner)
      (fun s => ∃ inner, BreaksOff (w.treesUnderTrap nested tree target p t) inner.events ∧
        s = .ofEvents (trapEvents t.state.engine.isTrapReady) ++ inner)
      (w.invoke nested target p t) := by
  have hinstalled := Thread.logs_installTrap t (fun m => p.place ++ m.memory)
  have hguarded := guarded_returns (t := t.modify fun m =>
    { m.installTrap with memory := p.place ++ m.memory })
    (w.enter_settles hnested target p.registers (t.entering p))
  simp only [invoke]
  rw [← Plan.registers]
  split
  · next g t' hend =>
    rw [hend] at hguarded
    obtain ⟨inner, hinner, h⟩ := hguarded
    exact ⟨_, ⟨inner, hinner, rfl⟩, hinstalled.trans h⟩
  · next hend =>
    rw [hend] at hguarded
    exact hguarded
  · next hend =>
    rw [hend] at hguarded
    obtain ⟨inner, hinner, h⟩ := hguarded
    exact ⟨_, ⟨inner, hinner, rfl⟩, .after hinstalled h⟩

/-- A call that enters native code logs its entry, what happens there, and its return. -/
theorem perform_returns (hnested : ReturnsNested nested tree) (c : Prepared)
    (t : Thread Machine) :
    t.Returns
      (fun r s => r.outcome.status.isRejection = false ∧ ∃ isTrapReady inner,
        Whole (w.treesUnderTrap nested tree c.target c.plan (t.modify (·.beginCall c))) inner ∧
        s = [.event (.nativeCall c.function c.plan.arguments.length)] ++
          (Trace.ofEvents (trapEvents isTrapReady) ++ inner) ++
          Trace.ofEvents ((r.outcome.status.warning? c.function).toList ++
            [.nativeReturn c.function r.outcome.status]))
      (fun s => ∃ isTrapReady inner,
        BreaksOff (w.treesUnderTrap nested tree c.target c.plan (t.modify (·.beginCall c)))
          inner.events ∧
        s = [.event (.nativeCall c.function c.plan.arguments.length)] ++
          (Trace.ofEvents (trapEvents isTrapReady) ++ inner))
      (w.perform nested c t) := by
  rw [perform]
  have hbegin := Thread.logs_beginCall t c
  generalize t.modify (·.beginCall c) = t₁ at hbegin ⊢
  have hinvoke := w.invoke_returns hnested c.target c.plan t₁
  split
  · next result p t' hend =>
    rw [hend] at hinvoke
    obtain ⟨_, ⟨inner, hinner, rfl⟩, h⟩ := hinvoke
    exact ⟨_, ⟨isRejection_finish, _, inner, hinner, rfl⟩,
      (hbegin.trans h).trans (Thread.logs_endCall t' c _)⟩
  · next hend =>
    rw [hend] at hinvoke
    exact hinvoke
  · next hend =>
    rw [hend] at hinvoke
    obtain ⟨_, ⟨inner, hinner, rfl⟩, h⟩ := hinvoke
    exact ⟨_, ⟨_, inner, hinner, rfl⟩, .after hbegin h⟩

/-- **A call logs one call**, whatever native code does. -/
theorem complete_returns (hnested : ReturnsNested nested tree) {libraries : Libraries}
    {site : Site} {loader loader' : Loader} {operands : List Operand} {events : List Event}
    {c : Except Refusal Prepared}
    (hp : prepare libraries site loader operands = (loader', events, c)) (t : Thread Machine) :
    t.Returns
      (fun r log => CallLog operands r.outcome.status log ∧
        Bracket (w.treeOf nested tree operands events c t r.outcome.status) log.events)
      (fun log => Unfinished log.events)
      (w.complete nested operands events c t) := by
  have hprepared : ∀ e ∈ events, e.isPreparation = true :=
    fun e he => isPreparation_of_mem_prepare hp he
  have hstart := Thread.logs_prepared t operands hprepared
  simp only [complete, treeOf]
  generalize t.modify (·.log (spanStart operands ++ .ofEvents events)) = t₁ at hstart ⊢
  cases c with
  | error e =>
    have hrefused := hstart.trans
      ((Thread.logs_refuse t₁ e).trans (Thread.logs_spanEnd _ operands))
    rw [function_of_prepare (congrArg (·.2.2) hp), ← List.append_assoc] at hrefused
    exact ⟨_, ⟨.refused hprepared, bracket_refusedLog hprepared⟩, hrefused⟩
  | ok c =>
    have hperform := w.perform_returns hnested c t₁
    obtain ⟨function, rfl, hname, -, -⟩ := prepare_eq_ok_iff.mp (congrArg (·.2.2) hp)
    simp only
    split
    · next r t' hend =>
      rw [hend] at hperform
      obtain ⟨_, ⟨hstatus, isTrapReady, inner, hinner, rfl⟩, h⟩ := hperform
      rw [hname] at h
      exact ⟨_, ⟨.entered hprepared hstatus hinner.logs,
        bracket_enteredLog hprepared hstatus hinner.brackets⟩,
        (hstart.trans h).trans (Thread.logs_spanEnd t' _)⟩
    · next hend =>
      rw [hend] at hperform
      exact hperform
    · next hend =>
      rw [hend] at hperform
      obtain ⟨_, ⟨isTrapReady, inner, ⟨complete, rest, hinner, hcomplete, hrest⟩, rfl⟩, h⟩ :=
        hperform
      rw [hname] at h
      refine ⟨_, unfinished_log hprepared hcomplete hrest hinner, .after hstart h⟩

theorem sharedCall_returns (hnested : ReturnsNested nested tree) (operands : List Operand)
    (t : Thread Machine) :
    t.Returns
      (fun r log => CallLog operands r.outcome.status log ∧
        Bracket (w.sharedTree nested tree operands t r.outcome.status) log.events)
      (fun log => Unfinished log.events) (w.sharedCall nested operands t) := by
  simp only [sharedCall, sharedTree]
  rcases hp : prepare w.libraries ⟨t.points.length⟩ (t.state.engine.loader.getD {}) operands with
    ⟨loader', events, c⟩
  have hshared : t.Logs (t.modify fun m =>
      { m with engine := { m.engine with loader := some loader' } }) [] := .of_eq rfl rfl rfl
  exact .after hshared (w.complete_returns hnested hp _)

/-- **Calls that native code makes are calls like any other**, however deep they lie. -/
theorem nestedCall_returns (n : ℕ) : ReturnsNested (w.nestedCall n) (w.nestedTree n) := by
  induction n with
  | zero =>
    intro perform h
    exact absurd h (by simp [nestedCall])
  | succ n ih =>
    intro perform h operands t
    obtain rfl := Option.some.inj h
    refine (w.sharedCall_returns ih operands t).mono fun r s hs => ?_
    exact ⟨hs.1.single, hs.2.single⟩

/-- **The log of a call with an outcome.** It is the log of one call with the status of the outcome,
and the counters are what its events come to. -/
theorem callWith_log {w : World} {loader : Loader} {operands : List Operand} {engine : Engine}
    {r : Report} (h : (w.callWith loader operands engine).ending = .returned r) :
    CallLog operands r.outcome.status (w.callWith loader operands engine).trace ∧
      (w.callWith loader operands engine).engine.tally =
        engine.tally.afterEvents (w.callWith loader operands engine).trace.events := by
  rw [callWith] at h ⊢
  rcases hp : prepare w.libraries ⟨0⟩ loader operands with ⟨loader', events, c⟩
  have hcall := w.complete_returns (w.nestedCall_returns w.nesting) hp
    ⟨{ memory := w.data, engine }, []⟩
  rw [hp] at h
  simp only at h ⊢
  rcases hend : w.complete (w.nestedCall w.nesting) operands events c
    ⟨{ memory := w.data, engine }, []⟩ with ⟨ending, t⟩
  rw [hend] at h hcall
  obtain rfl : ending = .returned r := h
  obtain ⟨log, ⟨hlog, -⟩, hlogs⟩ := hcall
  have htrace : t.state.trace = log := hlogs.trace
  refine ⟨?_, ?_⟩
  · rw [htrace]
    exact hlog
  · rw [htrace]
    exact hlogs.tally

end World

end ForeignCall
