import ForeignCall.Proofs.Preparation

/-!
# Bracketed events

Calls lie inside calls, and so do their events. A call that enters native code has a first and a
last event of its own there, `ffi_call` and `ffi_return`, and between them lie the events of the
calls that native code made, each of them complete, and last the report of a bad status. This file
says so of a list of events, by the names and the particulars that a reader of the log sees, for the
calls of a tree. A call that was refused has one event behind its preparation.

Not every call comes back: a signal that nothing recovers from ends the process. Its log breaks off
in native code, behind the events of the calls that did come back, in the innermost of the calls
that did not.

A report of a bad status lies between the two events of the call that it is about. So at no point of
a log are there more such reports than calls.

## Main definitions

* `CallTree` — a call that came back, with the calls that native code made on its way
* `Event.Reads` — an event with a name and particulars
* `Event.tally` — how often the counted events occur
* `Bracket`, `Brackets` — the events of one call, and of calls made one after the other
* `Unfinished`, `BreaksOff` — the events of calls that do not come back

## Main results

* `Covered.append`, `Covered.enter` — reports stay behind calls
* `Bracket.covered`, `Brackets.covered`, `BreaksOff.covered` — so they do in the events of calls
-/

namespace ForeignCall

/-- A call that came back with a status. -/
inductive CallTree where
  /-- A call that did not pass the checks. -/
  | refused (operands : List Operand) (status : Status)
  /-- A call that entered native code, with the calls made there. -/
  | entered (operands : List Operand) (status : Status) (within : List CallTree)

/-- The status that a call came back with. -/
def CallTree.status : CallTree → Status
  | .refused _ status | .entered _ status _ => status

/-- Counters that are added up. -/
instance : Add Tally where
  add n m :=
    { calls := n.calls + m.calls
      marshalingErrors := n.marshalingErrors + m.marshalingErrors
      faults := n.faults + m.faults
      imbalances := n.imbalances + m.imbalances }

@[simp] theorem Tally.calls_add (n m : Tally) : (n + m).calls = n.calls + m.calls := rfl

@[simp] theorem Tally.faults_add (n m : Tally) : (n + m).faults = n.faults + m.faults := rfl

@[simp] theorem Tally.imbalances_add (n m : Tally) :
    (n + m).imbalances = n.imbalances + m.imbalances := rfl

theorem Tally.add_assoc (n m k : Tally) : n + m + k = n + (m + k) :=
  (Tally.mk.injEq ..).mpr
    ⟨Nat.add_assoc .., Nat.add_assoc .., Nat.add_assoc .., Nat.add_assoc ..⟩

namespace Event

/-- An event with a name and particulars. -/
structure Reads (e : Event) (name : String) (details : List (String × Field)) : Prop where
  name_eq : e.name = name
  details_eq : e.details = details

/-- How many events have a name. -/
def count (name : String) (events : List Event) : ℕ :=
  events.countP fun e => e.name = name

/-- How often the events occur that counters are kept of. -/
def tally (events : List Event) : Tally where
  calls := count "ffi_call" events
  marshalingErrors := count "marshal_error" events
  faults := count "callee_fault" events
  imbalances := count "stack_imbalance" events

@[simp] theorem count_nil (name : String) : count name [] = 0 := rfl

@[simp] theorem count_cons (name : String) (e : Event) (events : List Event) :
    count name (e :: events) = count name events + if e.name = name then 1 else 0 := by
  simp [count, List.countP_cons]

@[simp] theorem count_append (name : String) (events events' : List Event) :
    count name (events ++ events') = count name events + count name events' :=
  List.countP_append

theorem tally_append (events events' : List Event) :
    tally (events ++ events') = tally events + tally events' := by
  simp only [tally, count_append]
  rfl

theorem count_take_le (name : String) (n : ℕ) (events : List Event) :
    count name (events.take n) ≤ count name events :=
  (List.take_sublist n events).countP_le

theorem count_eq_zero {name : String} {events : List Event} (h : ∀ e ∈ events, e.name ≠ name) :
    count name events = 0 := by
  refine List.countP_eq_zero.mpr fun e he => ?_
  simpa using h e he

theorem name_of_isPreparation {e : Event} (h : e.isPreparation = true) :
    e.name = "type_conversion" ∨ e.name = "library_load" := by
  cases e <;> first | exact .inl rfl | exact .inr rfl | exact absurd h (by simp [isPreparation])

end Event

/-! ## The events of calls -/

/-- The event of a refusal. A bad type token or argument has a name of its own. -/
structure Refuses (function : String) (status : Status) (e : Event) : Prop where
  isRejection : status.isRejection = true
  reads : ∃ error, e.Reads (if status = .invalidDescriptor then "marshal_error" else "ffi_error")
    [("function", .text function), ("error", .text error)]

/-- The report of a status, if it is bad: a fault of native code or an imbalance of the stack. -/
def Warns (function : String) (events : List Event) : Status → Prop
  | .calleeFault code => ∃ e : Event, events = [e] ∧
      e.Reads "callee_fault" [("function", .text function), ("code", .text (codeText code))]
  | .stackImbalance delta => ∃ e : Event, events = [e] ∧
      e.Reads "stack_imbalance" [("function", .text function), ("delta_bytes", .number delta.toInt)]
  | _ => events = []

/-- The events in front of the calls that native code makes: the preparation, the entry into native
code, and the trap if it was not installed before. -/
structure Opens (function : String) (prepared : List Event) (entry : Event) (trap : List Event) :
    Prop where
  prepared : ∀ e ∈ prepared, e.isPreparation = true
  entry : ∃ arguments : ℕ,
    entry.Reads "ffi_call" [("function", .text function), ("args", .number arguments)]
  trap : ∀ e ∈ trap, e.name = "trap_installed"

/-- The events behind the calls that native code makes: the report of a bad status, and the return
with the text of the status. -/
structure Closes (function : String) (status : Status) (warnings : List Event) (exit : Event) :
    Prop where
  warns : Warns function warnings status
  exit : exit.Reads "ffi_return" [("function", .text function), ("status", .text status.text)]

mutual

/-- The events of one call. -/
inductive Bracket : CallTree → List Event → Prop where
  | refused {operands : List Operand} {status : Status} {prepared : List Event} {e : Event}
      (isPrepared : ∀ e ∈ prepared, e.isPreparation = true)
      (refuses : Refuses (callName operands) status e) :
      Bracket (.refused operands status) (prepared ++ [e])
  | entered {operands : List Operand} {status : Status} {within : List CallTree}
      {prepared trap inner warnings : List Event} {entry exit : Event}
      (accepted : status.isRejection = false)
      (opens : Opens (callName operands) prepared entry trap) (calls : Brackets within inner)
      (closes : Closes (callName operands) status warnings exit) :
      Bracket (.entered operands status within)
        (prepared ++ entry :: (trap ++ inner ++ (warnings ++ [exit])))

/-- The events of calls that were made one after the other. -/
inductive Brackets : List CallTree → List Event → Prop where
  | nil : Brackets [] []
  | cons {call : CallTree} {calls : List CallTree} {events events' : List Event}
      (head : Bracket call events) (tail : Brackets calls events') :
      Brackets (call :: calls) (events ++ events')

end

/-- The events of calls inside each other that do not come back, if there are any. -/
inductive Unfinished : List Event → Prop where
  | none : Unfinished []
  | entered {operands : List Operand} {within : List CallTree}
      {prepared trap inner rest : List Event} {entry : Event}
      (opens : Opens (callName operands) prepared entry trap) (calls : Brackets within inner)
      (unfinished : Unfinished rest) :
      Unfinished (prepared ++ entry :: (trap ++ (inner ++ rest)))

/-- The events of calls made one after the other, behind which the log may break off. -/
def BreaksOff (calls : List CallTree) (events : List Event) : Prop :=
  ∃ complete rest, events = complete ++ rest ∧ Brackets calls complete ∧ Unfinished rest

theorem Brackets.append {calls calls' : List CallTree} {events events' : List Event} :
    Brackets calls events → Brackets calls' events' → Brackets (calls ++ calls') (events ++ events')
  | .nil, h' => h'
  | .cons head tail, h' => by
    rw [List.append_assoc]
    exact .cons head (tail.append h')

theorem Bracket.single {call : CallTree} {events : List Event} (h : Bracket call events) :
    Brackets [call] events := by
  rw [← List.append_nil events]
  exact .cons h .nil

theorem Brackets.breaksOff {calls : List CallTree} {events : List Event}
    (h : Brackets calls events) : BreaksOff calls events :=
  ⟨events, [], (List.append_nil _).symm, h, .none⟩

theorem Unfinished.breaksOff {events : List Event} (h : Unfinished events) : BreaksOff [] events :=
  ⟨[], events, rfl, .nil, h⟩

/-- Calls that came back, in front of others. -/
theorem BreaksOff.after {calls calls' : List CallTree} {events events' : List Event}
    (h : Brackets calls events) (h' : BreaksOff calls' events') :
    BreaksOff (calls ++ calls') (events ++ events') := by
  obtain ⟨complete, rest, rfl, hcalls, hrest⟩ := h'
  exact ⟨events ++ complete, rest, (List.append_assoc ..).symm, h.append hcalls, hrest⟩

/-! ## Reports stay behind calls -/

/-- At no point are there more reports of a bad status than calls. -/
def Covered (events : List Event) : Prop :=
  ∀ n, (Event.tally (events.take n)).faults + (Event.tally (events.take n)).imbalances ≤
    (Event.tally (events.take n)).calls

variable {events events' : List Event}

/-- Events that report no bad status. -/
theorem Covered.of_no_reports
    (h : ∀ e ∈ events, e.name ≠ "callee_fault" ∧ e.name ≠ "stack_imbalance") : Covered events := by
  intro n
  have hfaults : Event.count "callee_fault" (events.take n) = 0 :=
    Event.count_eq_zero fun e he => (h e (List.mem_of_mem_take he)).1
  have himbalances : Event.count "stack_imbalance" (events.take n) = 0 :=
    Event.count_eq_zero fun e he => (h e (List.mem_of_mem_take he)).2
  simp only [Event.tally]
  omega

theorem Covered.append (h : Covered events) (h' : Covered events') :
    Covered (events ++ events') := by
  intro n
  have hn := h n
  have hn' := h' (n - events.length)
  simp only [Event.tally, List.take_append, Event.count_append] at hn hn' ⊢
  omega

/-- A call makes room for one report behind its own events. -/
theorem Covered.enter {entry : Event} {reports : List Event} (hentry : entry.name = "ffi_call")
    (h : Covered events)
    (hreports : Event.count "callee_fault" reports + Event.count "stack_imbalance" reports ≤ 1) :
    Covered (entry :: (events ++ reports)) := by
  rintro (_ | n)
  · simp [Event.tally]
  · -- the entry is among the first events from here on, and stands against the one report
    have hn := h n
    have hfaults := Event.count_take_le "callee_fault" (n - events.length) reports
    have himbalances := Event.count_take_le "stack_imbalance" (n - events.length) reports
    simp only [Event.tally, List.take_succ_cons, List.take_append, Event.count_cons,
      Event.count_append, hentry, String.reduceEq, if_false, if_true] at hn ⊢
    omega

theorem covered_of_isPreparation (h : ∀ e ∈ events, e.isPreparation = true) : Covered events := by
  refine .of_no_reports fun e he => ?_
  rcases Event.name_of_isPreparation (h e he) with hname | hname <;> simp [hname]

theorem covered_trap (h : ∀ e ∈ events, e.name = "trap_installed") : Covered events := by
  refine .of_no_reports fun e he => ?_
  simp [h e he]

theorem Refuses.covered {function : String} {status : Status} {e : Event}
    (h : Refuses function status e) : Covered [e] := by
  obtain ⟨error, hname, -⟩ := h.reads
  refine .of_no_reports fun e' he' => ?_
  rw [List.mem_singleton.mp he', hname]
  split <;> simp

/-- The end of a call reports one bad status at most. -/
theorem Closes.reports_le {function : String} {status : Status} {warnings : List Event}
    {exit : Event} (h : Closes function status warnings exit) :
    Event.count "callee_fault" (warnings ++ [exit]) +
      Event.count "stack_imbalance" (warnings ++ [exit]) ≤ 1 := by
  obtain ⟨hwarns, hexit, -⟩ := h
  cases status with
  | calleeFault code =>
    obtain ⟨e, rfl, hname, -⟩ := hwarns
    simp [hname, hexit]
  | stackImbalance delta =>
    obtain ⟨e, rfl, hname, -⟩ := hwarns
    simp [hname, hexit]
  | _ =>
    obtain rfl : warnings = [] := hwarns
    simp [hexit]

mutual

/-- **The events of a call report no more bad statuses than there are calls**, at any point. -/
theorem Bracket.covered {call : CallTree} {events : List Event} :
    Bracket call events → Covered events
  | .refused isPrepared refuses => (covered_of_isPreparation isPrepared).append refuses.covered
  | .entered _ opens calls closes => by
    obtain ⟨arguments, hentry⟩ := opens.entry
    have hinner := (covered_trap opens.trap).append calls.covered
    exact (covered_of_isPreparation opens.prepared).append
      (.enter hentry.name_eq hinner closes.reports_le)

theorem Brackets.covered {calls : List CallTree} {events : List Event} :
    Brackets calls events → Covered events
  | .nil => .of_no_reports (by simp)
  | .cons head tail => head.covered.append tail.covered

end

theorem Unfinished.covered (h : Unfinished events) : Covered events := by
  induction h with
  | none => exact .of_no_reports (by simp)
  | entered opens calls _ ih =>
    obtain ⟨arguments, hentry⟩ := opens.entry
    have hinner := (covered_trap opens.trap).append (calls.covered.append ih)
    rw [← List.append_nil (_ ++ (_ ++ _))]
    exact (covered_of_isPreparation opens.prepared).append (.enter hentry.name_eq hinner (by simp))

theorem BreaksOff.covered {calls : List CallTree} (h : BreaksOff calls events) :
    Covered events := by
  obtain ⟨complete, rest, rfl, hcalls, hrest⟩ := h
  exact hcalls.covered.append hrest.covered

end ForeignCall
