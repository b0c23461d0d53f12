import ForeignCall.Proofs.Capacity
import ForeignCall.Proofs.JsonTexts
import ForeignCall.Program
import Mathlib.Data.List.Dedup
import Mathlib.Data.List.Sort

/-!
# JSON reports

What can be told from the JSON report of a call. The variables of a report are the members of an
object, and their names, which are the keys, are for the user to choose. So a report has room for
one variable of each name only, and the last one takes it. Numbers that are not finite are all
written as `null`. Everything else can be told: the text of a report is the same for two calls
exactly if they agree in what is left.

## Objects

Members are inserted one after the other, in the order of their keys. An object is determined by
what is found for each key, and that is the last member of the key which was inserted.

## Main definitions

* `Json.Sorted`, `Json.sortedMembers` — members in the order of their keys
* `Value.Alike` — values that look alike in a report
* `lastValue?` — the value of the last variable of a name

## Main results

* `Json.find?_sortedMembers`, `Json.length_sortedMembers` — the last member of each key counts
* `Json.Sorted.shownMembers_eq_iff` — objects are shown alike exactly if they are key by key
* `Outcome.write_toJson_eq_iff` — what a report tells
* `CommandLine.map_name_call` — a call hands back the variables of its command line
* `CommandLine.json_report` — what the report of a call tells
-/

namespace ForeignCall

/-! ## Objects -/

namespace Json

open scoped List

variable {key k : String} {v : Json} {ms ms' : List (String × Json)}

/-- Members in the order of their keys, each of which occurs once. -/
def Sorted (ms : List (String × Json)) : Prop := ms.Pairwise fun m m' => m.1 < m'.1

/-- The members of the object with the given members. -/
def sortedMembers (ms : List (String × Json)) : List (String × Json) :=
  ms.foldl (fun acc m => insert m.1 m.2 acc) []

/-- What is inserted is a member of the key, or was there before. -/
theorem mem_insert {m : String × Json} (h : m ∈ insert key v ms) : m.1 = key ∨ m ∈ ms := by
  induction ms with
  | nil => exact .inl (congrArg Prod.fst (List.mem_singleton.mp h))
  | cons m' ms ih =>
    rw [insert] at h
    split at h
    · rcases List.mem_cons.mp h with rfl | h
      · exact .inl rfl
      · exact .inr (List.mem_cons_of_mem _ h)
    · split at h
      · rcases List.mem_cons.mp h with rfl | h
        · exact .inl rfl
        · exact .inr h
      · rcases List.mem_cons.mp h with rfl | h
        · exact .inr (List.mem_cons_self ..)
        · exact (ih h).imp_right (List.mem_cons_of_mem _)

/-- A member that is inserted takes its place. -/
theorem Sorted.insert (h : Sorted ms) : Sorted (insert key v ms) := by
  induction ms with
  | nil => exact List.pairwise_singleton _ _
  | cons m ms ih =>
    obtain ⟨hm, hms⟩ := List.pairwise_cons.mp h
    rw [Json.insert]
    split
    · next heq => exact List.pairwise_cons.mpr ⟨fun m' hm' => heq ▸ hm m' hm', hms⟩
    · next hne =>
      split
      · next hlt =>
        refine List.pairwise_cons.mpr ⟨fun m' hm' => ?_, h⟩
        rcases List.mem_cons.mp hm' with rfl | hm'
        · exact hlt
        · exact String.lt_trans hlt (hm m' hm')
      · next hnlt =>
        refine List.pairwise_cons.mpr ⟨fun m' hm' => ?_, ih hms⟩
        rcases mem_insert hm' with heq | hm'
        · refine heq ▸ Classical.byContradiction fun hle => hne ?_
          exact String.le_antisymm (String.not_lt.mp hle) (String.not_lt.mp hnlt)
        · exact hm m' hm'

/-- Inserting members one after the other keeps the order, by induction on the members. -/
theorem sorted_foldl_insert (ms : List (String × Json)) {acc : List (String × Json)}
    (h : Sorted acc) : Sorted (ms.foldl (fun acc m => Json.insert m.1 m.2 acc) acc) := by
  induction ms generalizing acc with
  | nil => exact h
  | cons m ms ih => exact ih h.insert

theorem sorted_sortedMembers (ms : List (String × Json)) : Sorted (sortedMembers ms) :=
  sorted_foldl_insert ms List.Pairwise.nil

theorem find?_cons (key : String) (m : String × Json) (ms : List (String × Json)) :
    find? key (m :: ms) = if m.1 = key then some m.2 else find? key ms := by
  by_cases h : m.1 = key <;> simp [find?, h]

theorem find?_append (key : String) (ms ms' : List (String × Json)) :
    find? key (ms ++ ms') = (find? key ms).or (find? key ms') := by
  rw [find?, List.find?_append, Option.map_or]
  rfl

theorem isSome_find? : (find? key ms).isSome = true ↔ key ∈ ms.map Prod.fst := by
  rw [find?, Option.isSome_map, List.find?_isSome]
  simp

/-- After members were inserted, the last one of a key is found, or what was there before. -/
theorem find?_foldl_insert (key : String) (ms acc : List (String × Json)) :
    find? key (ms.foldl (fun acc m => insert m.1 m.2 acc) acc) =
      (find? key ms.reverse).or (find? key acc) := by
  induction ms generalizing acc with
  | nil => rfl
  | cons m ms ih =>
    have hm : find? key (insert m.1 m.2 acc) = (find? key [m]).or (find? key acc) := by
      rw [find?_insert, find?_cons]
      split <;> rfl
    rw [List.foldl_cons, ih, hm, List.reverse_cons, find?_append, Option.or_assoc]

/-- **Of several members of one key the last one counts.** -/
theorem find?_sortedMembers (key : String) (ms : List (String × Json)) :
    find? key (sortedMembers ms) = find? key ms.reverse := by
  have hnil : find? key [] = none := rfl
  rw [sortedMembers, find?_foldl_insert, hnil, Option.or_none]

/-- Which members there are is told by looking for each key. -/
theorem Sorted.mem_iff (h : Sorted ms) : (key, v) ∈ ms ↔ find? key ms = some v := by
  induction ms with
  | nil => simp [find?]
  | cons m ms ih =>
    obtain ⟨k, u⟩ := m
    obtain ⟨hm, hms⟩ := List.pairwise_cons.mp h
    rw [List.mem_cons, find?_cons, ih hms]
    split
    · next heq =>
      obtain rfl : k = key := heq
      have hnot : ¬ find? k ms = some v := fun hfind =>
        String.lt_irrefl k (hm (k, v) ((ih hms).mpr hfind))
      simp [hnot, eq_comm]
    · next hne =>
      have hne' : key ≠ k := Ne.symm hne
      simp [hne']

/-- Objects with the same member for each key are the same. -/
theorem Sorted.ext (h : Sorted ms) (h' : Sorted ms') (hfind : ∀ key, find? key ms = find? key ms') :
    ms = ms' := by
  have hasymm : Std.Antisymm fun m m' : String × Json => m.1 < m'.1 :=
    ⟨fun m m' hlt hlt' => absurd hlt' (String.lt_asymm hlt)⟩
  have hirrefl : Std.Irrefl fun m m' : String × Json => m.1 < m'.1 :=
    ⟨fun m => String.lt_irrefl m.1⟩
  refine List.Pairwise.eq_of_mem_iff h h' fun (key, v) => ?_
  rw [h.mem_iff, h'.mem_iff, hfind]

/-- **There are as many members as there are keys.** -/
theorem length_sortedMembers (ms : List (String × Json)) :
    (sortedMembers ms).length = (ms.map Prod.fst).dedup.length := by
  have hnodup : ((sortedMembers ms).map Prod.fst).Nodup :=
    List.pairwise_map.mpr ((sorted_sortedMembers ms).imp fun {m m'} hlt (heq : m.1 = m'.1) =>
      String.lt_irrefl m'.1 (heq ▸ hlt))
  have hperm : (sortedMembers ms).map Prod.fst ~ (ms.map Prod.fst).dedup := by
    refine (List.perm_ext_iff_of_nodup hnodup (List.nodup_dedup _)).mpr fun key => ?_
    rw [← isSome_find?, find?_sortedMembers, isSome_find?, List.map_reverse, List.mem_reverse,
      List.mem_dedup]
  rw [← hperm.length_eq, List.length_map]

theorem shownMembers_eq_map (ms : List (String × Json)) :
    shownMembers ms = ms.map fun m => (m.1, m.2.shown) := by
  induction ms with
  | nil => rfl
  | cons m ms ih => rw [shownMembers, ih, List.map_cons]

theorem Sorted.shownMembers (h : Sorted ms) : Sorted (shownMembers ms) := by
  rw [shownMembers_eq_map]
  exact List.pairwise_map.mpr h

theorem find?_shownMembers (key : String) (ms : List (String × Json)) :
    find? key (shownMembers ms) = (find? key ms).map shown := by
  rw [shownMembers_eq_map, find?, find?, List.find?_map, Option.map_map, Option.map_map]
  rfl

/-- **Objects are shown alike exactly if they are key by key.** -/
theorem Sorted.shownMembers_eq_iff (h : Sorted ms) (h' : Sorted ms') :
    Json.shownMembers ms = Json.shownMembers ms' ↔
      ∀ key, (find? key ms).map shown = (find? key ms').map shown := by
  simp only [← find?_shownMembers]
  exact ⟨fun heq key => by rw [heq], h.shownMembers.ext h'.shownMembers⟩

end Json

/-! ## Reports -/

/-- Values that look alike in a JSON report: the same value, or two numbers that are not finite. -/
inductive Value.Alike : Value → Value → Prop where
  | refl (v : Value) : Alike v v
  | notFinite {x y : Number.Double} (hx : x.isFinite = false) (hy : y.isFinite = false) :
      Alike (.real x) (.real y)

theorem Value.Alike.option_refl (v : Option Value) : Option.Rel Value.Alike v v := by
  cases v with
  | none => exact .none
  | some v => exact .some (.refl v)

/-- Values are shown alike exactly if they look alike. -/
theorem Value.shown_toJson_eq_iff {v v' : Value} :
    v.toJson.shown = v'.toJson.shown ↔ v.Alike v' := by
  refine ⟨fun h => ?_, fun h => ?_⟩
  · -- A value is shown as one of its own kind, or as `null` if it is a real number.
    cases v <;> cases v' <;> simp only [toJson, Json.shown] at h
    case text.text => exact Json.text.inj h ▸ .refl _
    case int.int => exact Int64.toInt_inj.mp (Json.integer.inj h) ▸ .refl _
    case real.real x y =>
      split at h <;> split at h
      · exact Json.real.inj h ▸ .refl _
      · cases h
      · cases h
      · next hx hy => exact .notFinite (by simpa using hx) (by simpa using hy)
    case text.int | int.text => cases h
    case text.real | int.real | real.text | real.int => split at h <;> cases h
  · cases h with
    | refl => rfl
    | notFinite hx hy => simp [toJson, Json.shown, hx, hy]

/-- The value of the last variable of a name. -/
def lastValue? (name : String) (xs : List Variable) : Option Value :=
  (xs.reverse.find? fun x => x.name = name).map Variable.value

/-- Of two variables of one name the first one does not count. -/
theorem lastValue?_pair {x y : Variable} (h : x.name = y.name) (name : String) :
    lastValue? name [x, y] = lastValue? name [y] := by
  by_cases hy : y.name = name <;> simp [lastValue?, h, hy]

/-- Where names are distinct, each variable is the last one of its name. -/
theorem lastValue?_of_nodup {xs : List Variable} {x : Variable}
    (h : (xs.map Variable.name).Nodup) (hx : x ∈ xs) : lastValue? x.name xs = some x.value := by
  rw [lastValue?]
  cases hfind : xs.reverse.find? fun y => decide (y.name = x.name) with
  | none =>
    have hnone := List.find?_eq_none.mp hfind x (List.mem_reverse.mpr hx)
    exact absurd (decide_eq_true rfl) hnone
  | some y =>
    have hname : y.name = x.name := by simpa using List.find?_some hfind
    have hy : y ∈ xs := List.mem_reverse.mp (List.mem_of_find?_eq_some hfind)
    rw [List.inj_on_of_nodup_map h hy hx hname]
    rfl

namespace Outcome

/-- The members of a report for variables. -/
def reported (xs : List Variable) : List (String × Json) :=
  Json.sortedMembers (xs.map fun x => (x.name, x.value.toJson))

theorem toJson_eq (o : Outcome) (xs : List Variable) :
    o.toJson xs = .members [("status", .text o.status.text), ("value", o.value.toJson),
      ("variables", .members (reported xs))] := by
  have hstatus : "status" ≠ "value" ∧ "status" < "value" := by decide
  have hvalue : "variables" ≠ "value" ∧ ¬ "variables" < "value" := by decide
  have hvariables : "variables" ≠ "status" ∧ ¬ "variables" < "status" := by decide
  simp only [toJson, Json.object, List.foldl_cons, List.foldl_nil, Json.insert, hstatus, hvalue,
    hvariables, if_true, if_false]
  rfl

theorem sorted_reported (xs : List Variable) : Json.Sorted (reported xs) :=
  Json.sorted_sortedMembers _

/-- The member for a name is the one for the last variable of that name. -/
theorem find?_reported (name : String) (xs : List Variable) :
    Json.find? name (reported xs) = (lastValue? name xs).map Value.toJson := by
  rw [reported, Json.find?_sortedMembers, Json.find?, ← List.map_reverse, List.find?_map,
    lastValue?, Option.map_map, Option.map_map]
  rfl

/-- There are as many members as there are names. -/
theorem length_reported (xs : List Variable) :
    (reported xs).length = (xs.map Variable.name).dedup.length := by
  rw [reported, Json.length_sortedMembers, List.map_map]
  rfl

theorem map_shown_eq_iff {v v' : Option Value} :
    (v.map Value.toJson).map Json.shown = (v'.map Value.toJson).map Json.shown ↔
      Option.Rel Value.Alike v v' := by
  cases v <;> cases v' <;> simp [Value.shown_toJson_eq_iff]

/-- **What a JSON report tells**: the text of the status, the value, and for each name the value of
its last variable. Values are told apart unless they are numbers that are not finite. -/
theorem write_toJson_eq_iff {o o' : Outcome} {xs xs' : List Variable} :
    (o.toJson xs).write = (o'.toJson xs').write ↔
      o.status.text = o'.status.text ∧ o.value.Alike o'.value ∧
        ∀ name, Option.Rel Value.Alike (lastValue? name xs) (lastValue? name xs') := by
  have hvariables : Json.shownMembers (reported xs) = Json.shownMembers (reported xs') ↔
      ∀ name, Option.Rel Value.Alike (lastValue? name xs) (lastValue? name xs') := by
    rw [(sorted_reported xs).shownMembers_eq_iff (sorted_reported xs')]
    refine forall_congr' fun name => ?_
    rw [find?_reported, find?_reported, map_shown_eq_iff]
  rw [Json.write_eq_write_iff, toJson_eq, toJson_eq, ← hvariables, ← Value.shown_toJson_eq_iff]
  simp [Json.shown, Json.shownMembers]

end Outcome

/-! ## Variables after a call -/

/-- The name of a variable. -/
def Operand.name? : Operand → Option String
  | .literal _ => none
  | .variable x => some x.name

theorem map_name_variablesOf (operands : List Operand) :
    (variablesOf operands).map Variable.name = operands.filterMap Operand.name? := by
  rw [variablesOf, List.map_filterMap]
  congr 1
  funext o
  cases o <;> rfl

theorem name?_writeOutput (m : Memory) (a : Argument) (o : Operand) :
    (writeOutput m a o).name? = o.name? := by
  match o with
  | .literal _ => rfl
  | .variable x =>
    rw [writeOutput]
    split <;> rfl

theorem map_name?_writeOutputs (m : Memory) (as : List Argument) (operands : List Operand) :
    (writeOutputs m as operands).map Operand.name? = operands.map Operand.name? := by
  fun_induction writeOutputs m as operands with
  | case1 m a as t o rest ih => simp [name?_writeOutput, ih]
  | case2 => rfl

/-- Writing results back leaves names as they are. -/
theorem map_name?_finish (m : Memory) (i : Invocation) (p : Plan) (params : List Operand) :
    (finish m i p params).2.2.map Operand.name? = params.map Operand.name? := by
  rw [finish_operands]
  split
  · rfl
  · exact map_name?_writeOutputs m p.arguments params

namespace CommandLine

variable {c : CommandLine} {w : World} {engine : Engine} {r : Report}

/-- The names of the words that are variables. -/
def names (c : CommandLine) : List String :=
  c.words.filterMap fun
    | .variable name _ _ => some name
    | .literal _ => none

/-- **A call hands back the variables of its command line**, each in its place. -/
theorem map_name_call (h : (c.call w engine).ending = .returned r) :
    (variablesOf r.operands).map Variable.name = c.names := by
  have hkept : r.operands.map Operand.name? = c.operands.map Operand.name? := by
    rcases World.operands_of_callWith ((World.ending_callShared ..).symm.trans h) with
      hsame | ⟨function, params, m, i, p, hlist, hwritten⟩
    · rw [hsame]
    · rw [hlist, hwritten, List.map_cons, List.map_cons, map_name?_finish]
  have hfilter : ∀ os : List Operand,
      os.filterMap Operand.name? = (os.map Operand.name?).filterMap id := by
    intro os
    rw [List.filterMap_map]
    rfl
  rw [map_name_variablesOf, hfilter, hkept, ← hfilter, operands, List.filterMap_map, names]
  congr 1
  funext word
  match word with
  | .literal _ => rfl
  | .variable _ capacity _ => cases capacity <;> rfl

/-- **What the JSON report of a call tells.** Take a call that comes back, of any command line, in
any system. The variables that it hands back are those of the command line, in order. Its report has
one member for each name, and so one for each variable exactly if the names are distinct; then each
variable counts with its own value, and otherwise the last one of its name does. Another report is
the same text exactly if it has the same status, and values that look alike, of the outcome and for
each name. -/
theorem json_report (h : (c.call w engine).ending = .returned r) :
    let xs := variablesOf r.operands
    xs.map Variable.name = c.names ∧
      (∃ ms, r.outcome.toJson xs = .members [("status", .text r.outcome.status.text),
          ("value", r.outcome.value.toJson), ("variables", .members ms)] ∧
        ms.length = c.names.dedup.length ∧ (ms.length = c.names.length ↔ c.names.Nodup)) ∧
      (c.names.Nodup → ∀ x ∈ xs, lastValue? x.name xs = some x.value) ∧
      ∀ (o : Outcome) (ys : List Variable),
        (r.outcome.toJson xs).write = (o.toJson ys).write ↔
          r.outcome.status.text = o.status.text ∧ r.outcome.value.Alike o.value ∧
            ∀ name, Option.Rel Value.Alike (lastValue? name xs) (lastValue? name ys) := by
  intro xs
  have hnames : xs.map Variable.name = c.names := map_name_call h
  have hlength : (Outcome.reported xs).length = c.names.dedup.length := by
    rw [Outcome.length_reported, hnames]
  refine ⟨hnames, ⟨Outcome.reported xs, Outcome.toJson_eq _ _, hlength, ?_⟩, ?_,
    fun o ys => Outcome.write_toJson_eq_iff⟩
  · rw [hlength, ← List.dedup_eq_self]
    exact ⟨(List.dedup_sublist _).eq_of_length, congrArg List.length⟩
  · rw [← hnames]
    exact fun hnodup x hx => lastValue?_of_nodup hnodup hx

end CommandLine

/-- A native function that returns its first real argument. -/
def World.passing : World where
  libraries := ⟨fun _ => none, fun _ => .error ""⟩
  code a := if a = 4096 then some fun r => .ret { real := r.reals.headD 0 } else none

namespace CommandLine

/-- A call of it with two variables of one name. -/
def repeated (init : String) : CommandLine where
  words := [.literal "4096", .literal "Double", .variable "n" none init, .literal "Int",
    .variable "n" none "2", .literal "CDecl Double"]

/-- The arguments for it. -/
def repeatedArgs (init : String) : List String :=
  ["4096", "Double", "$n=" ++ init, "Int", "$n=2", "CDecl Double"]

/-- What the call hands back. -/
def repeatedReport (init : String) (x : Number.Double) : Report :=
  ⟨⟨.real x, .success⟩, (repeated init).operands⟩

theorem lastValue?_repeated (init name : String) :
    lastValue? name (variablesOf (repeated init).operands) =
      lastValue? name [.ofValue "n" (.text "2")] :=
  lastValue?_pair (x := .ofValue "n" (.text init)) (y := .ofValue "n" (.text "2")) rfl name

/-- What it hands back looks like what is handed back of another value and the last variable. -/
theorem json_report_repeated :
    let c := repeated "1e999"
    let r := repeatedReport "1e999" .infinity
    (c.call World.passing {}).ending = .returned r ∧ c.names = ["n", "n"] ∧
      (∃ ms, r.outcome.toJson (variablesOf r.operands) = .members [("status", .text "0"),
        ("value", .real .infinity), ("variables", .members ms)] ∧ ms.length = 1) ∧
      (r.outcome.toJson (variablesOf r.operands)).write =
        (Outcome.toJson ⟨.real .nan, .success⟩ [.ofValue "n" (.text "2")]).write := by
  intro c r
  have hcall : (c.call World.passing {}).ending = .returned r := by decide +kernel
  obtain ⟨-, ⟨ms, hshape, hlength, -⟩, -, htext⟩ := json_report hcall
  refine ⟨hcall, rfl, ⟨ms, hshape, hlength.trans (by decide)⟩, ?_⟩
  refine (htext _ _).mpr ⟨rfl, .notFinite (by decide) (by decide), fun name => ?_⟩
  rw [show r.operands = (repeated "1e999").operands from rfl, lastValue?_repeated]
  exact Value.Alike.option_refl _

/-- A report need not have a member for each variable, and two reports may be one text although the
values differ. -/
theorem not_forall_json_report :
    ¬ (∀ (args : List String) (c : CommandLine) (w : World) (engine : Engine) (r : Report),
        CommandLine.parse args = .ok c → (c.call w engine).ending = .returned r →
          ∃ status value ms, r.outcome.toJson (variablesOf r.operands) =
            .members [("status", status), ("value", value), ("variables", .members ms)] ∧
              ms.length = c.names.length) ∧
      ¬ (∀ (args args' : List String) (c c' : CommandLine) (w w' : World)
        (engine engine' : Engine) (r r' : Report),
        CommandLine.parse args = .ok c → CommandLine.parse args' = .ok c' →
          (c.call w engine).ending = .returned r → (c'.call w' engine').ending = .returned r' →
          (r.outcome.toJson (variablesOf r.operands)).write =
            (r'.outcome.toJson (variablesOf r'.operands)).write →
          r.outcome.value = r'.outcome.value) := by
  have hparse : CommandLine.parse (repeatedArgs "1e999") = .ok (repeated "1e999") := by
    decide +kernel
  have hparse' : CommandLine.parse (repeatedArgs "-1e999") = .ok (repeated "-1e999") := by
    decide +kernel
  have hcall : ((repeated "1e999").call World.passing {}).ending =
      .returned (repeatedReport "1e999" .infinity) := by
    decide +kernel
  have hcall' : ((repeated "-1e999").call World.passing {}).ending =
      .returned (repeatedReport "-1e999" (.neg .infinity)) := by
    decide +kernel
  constructor
  · intro hall
    obtain ⟨status, value, ms, hshape, hlength⟩ := hall _ _ _ _ _ hparse hcall
    rw [Outcome.toJson_eq] at hshape
    simp only [Json.members.injEq, List.cons.injEq, Prod.mk.injEq, true_and, and_true] at hshape
    obtain ⟨-, -, rfl⟩ := hshape
    rw [Outcome.length_reported] at hlength
    exact absurd hlength (by decide)
  · intro hall
    refine absurd (hall _ _ _ _ _ _ _ _ _ _ hparse hparse' hcall hcall' ?_) (by decide)
    refine Outcome.write_toJson_eq_iff.mpr
      ⟨rfl, .notFinite (by decide) (by decide), fun name => ?_⟩
    rw [repeatedReport, repeatedReport, lastValue?_repeated, lastValue?_repeated]
    exact Value.Alike.option_refl _

end CommandLine

end ForeignCall
