import ForeignCall.Proofs.LoaderCache
import Mathlib.Data.List.Dedup
import Mathlib.Data.List.Perm.Subperm

/-!
# The history of a loader

A loader is used again and again: to load libraries by name, and to resolve references, each of
which may load libraries on its own. Two things are kept on the way. A library that loads is kept
under its name, and the scopes for bare symbols are kept as they were put together for the first of
them. A library that does not load is not kept.

None of this can be told from the answers. It shows in the log alone, and there it is as plain as
can be: which names were tried so far decides how many libraries there are and which lines the log
has.

## Names tried

`attempts` lists the names that a sequence of requests tries, in order and with repetitions, without
any loader. The default libraries stand in it once, where the first bare symbol is resolved. The
invariant `Loader.Remembers` says what a loader and its log are in terms of that list; every request
keeps it (`Remembers.perform`), and so does a run.

## Main definitions

* `Request`, `Answer`, `Loader.perform`, `Loader.run` — uses of a loader
* `Libraries.answer` — the answer to a request, without a loader
* `Request.attempts`, `attempts` — the names that a request tries, and a sequence of requests
* `Loader.Remembers` — the invariant
* `Loader.CacheInvisible` — what can be seen of the cache after a sequence of requests

## Main results

* `Remembers.load`, `Remembers.searchScopes`, `Remembers.perform` — a request keeps the invariant
* `Remembers.run` — a sequence of requests keeps it
* `cacheInvisible` — the cache shows in the events alone
-/

namespace ForeignCall

/-! ## Requests -/

/-- One use of a loader. -/
inductive Request where
  | load (name : String)
  | resolve (r : Reference)

/-- What a use of a loader yields. -/
inductive Answer where
  | loaded (r : Except LoadError Handle)
  | resolved (r : Except ResolveError UInt64)

namespace Request

/-- Whether a bare symbol is resolved. -/
def isBare : Request → Bool
  | .resolve (.symbol none _) => true
  | _ => false

/-- The names that a request tries to load. A bare symbol asks for the default libraries, but only
the first one does. -/
def attempts (config : LoaderConfig) (bareBefore : Bool) : Request → List String
  | .load name => [name]
  | .resolve (.address _) => []
  | .resolve (.symbol (some library) _) => [library]
  | .resolve (.symbol none _) => if bareBefore then [] else config.defaultLibraries

end Request

/-- The names that a sequence of requests tries to load, in order. The flag tells whether a bare
symbol was resolved before. -/
def attempts (config : LoaderConfig) : Bool → List Request → List String
  | _, [] => []
  | bareBefore, q :: qs =>
    q.attempts config bareBefore ++ attempts config (bareBefore || q.isBare) qs

/-- What there is to be answered to a request, without any loader. -/
def Libraries.answer (w : Libraries) (config : LoaderConfig) : Request → Answer
  | .load name => .loaded (w.open? name)
  | .resolve r => .resolved (w.resolve config r)

namespace Loader

/-- Serves one request. -/
def perform (w : Libraries) (l : Loader) : Request → Loader × List Event × Answer
  | .load name => ((l.load w name).1, (l.load w name).2.1, .loaded (l.load w name).2.2)
  | .resolve r => ((l.resolve w r).1, (l.resolve w r).2.1, .resolved (l.resolve w r).2.2)

/-- Serves requests one after the other. -/
def run (w : Libraries) (l : Loader) : List Request → Loader × List Event × List Answer
  | [] => (l, [], [])
  | q :: qs =>
    let (l₁, events₁, a) := l.perform w q
    let (l₂, events₂, as) := l₁.run w qs
    (l₂, events₁ ++ events₂, a :: as)

/-! ## The invariant -/

/-- What a loader and its log are after some names were tried. -/
structure Remembers (w : Libraries) (config : LoaderConfig) (names : List String) (bare : Bool)
    (l : Loader) (log : List Event) : Prop where
  /-- Nothing wrong is remembered. -/
  coherent : l.Coherent w config
  /-- The libraries that were tried and load are kept, each of them once. -/
  loaded : ∀ name, name ∈ l.loaded ↔ name ∈ names ∧ w.loads name = true
  nodup : l.loaded.Nodup
  /-- The scopes are kept from the first bare symbol on. -/
  scopes : l.scopes.isSome = bare
  /-- A library that loads is logged when it is kept, and one that does not whenever it is tried. -/
  successes : ∀ name, log.count (.libraryLoad name true) = if name ∈ l.loaded then 1 else 0
  failures : ∀ name, log.count (.libraryLoad name false) =
    if w.loads name then 0 else names.count name

variable {w : Libraries} {config : LoaderConfig} {names : List String} {bare : Bool} {l : Loader}
  {log : List Event}

/-- A new loader has tried nothing. -/
theorem Remembers.new (w : Libraries) (config : LoaderConfig) :
    Remembers w config [] false { config } [] :=
  ⟨.new w config, fun _ => by simp, List.nodup_nil, rfl, fun _ => by simp, fun _ => by simp⟩

/-! ## One library -/

/-- A library that loads is kept. -/
theorem load_of_loads {name : String} (h : name ∉ l.loaded) (hw : w.loads name = true) :
    l.load w name =
      ({ l with loaded := l.loaded ++ [name] }, [.libraryLoad name true], .ok ⟨name⟩) := by
  rw [load, if_neg h]
  cases hload : w.load name with
  | ok lib => rfl
  | error reason =>
    rw [Libraries.loads, hload] at hw
    exact absurd hw Bool.false_ne_true

/-- A library that does not load leaves a line in the log and nothing else. -/
theorem load_of_not_loads {name : String} (h : name ∉ l.loaded) (hw : w.loads name = false) :
    ∃ reason, l.load w name = (l, [.libraryLoad name false], .error ⟨name, reason⟩) := by
  rw [load, if_neg h]
  cases hload : w.load name with
  | ok lib =>
    rw [Libraries.loads, hload] at hw
    exact absurd hw.symm Bool.false_ne_true
  | error reason => exact ⟨reason, rfl⟩

/-! ## Scopes -/

/-- Scopes that are kept are not put together again. -/
theorem searchScopes_of_some {scopes : List Scope} (h : l.scopes = some scopes) :
    l.searchScopes w = (l, [], scopes) := by
  rw [searchScopes, h]

/-- The scopes are put together from the default libraries, and kept. -/
theorem searchScopes_of_none (h : l.scopes = none) :
    (l.searchScopes w).1.loaded = (l.loadAll w l.config.defaultLibraries).1.loaded ∧
      (l.searchScopes w).1.scopes.isSome = true ∧
      (l.searchScopes w).2.1 = (l.loadAll w l.config.defaultLibraries).2.1 := by
  rw [searchScopes, h]
  exact ⟨rfl, rfl, rfl⟩

/-! ## Steps -/

namespace Remembers

/-- Another name was tried, and the library is kept already. -/
theorem again (h : Remembers w config names bare l log) {name : String} (hname : name ∈ l.loaded) :
    Remembers w config (names ++ [name]) bare l log := by
  obtain ⟨hmem, hloads⟩ := (h.loaded name).mp hname
  refine ⟨h.coherent, ?_, h.nodup, h.scopes, h.successes, ?_⟩
  · intro name'
    rw [h.loaded, List.mem_append, List.mem_singleton]
    constructor
    · rintro ⟨hmem', hloads'⟩
      exact ⟨.inl hmem', hloads'⟩
    · rintro ⟨hmem' | rfl, hloads'⟩
      · exact ⟨hmem', hloads'⟩
      · exact ⟨hmem, hloads'⟩
  · intro name'
    rw [h.failures]
    by_cases heq : name = name'
    · rw [← heq, if_pos hloads, if_pos hloads]
    · simp [heq]

/-- Another name was tried, and the library is kept from now on. -/
theorem kept (h : Remembers w config names bare l log) {name : String} (hname : name ∉ l.loaded)
    (hloads : w.loads name = true) :
    Remembers w config (names ++ [name]) bare { l with loaded := l.loaded ++ [name] }
      (log ++ [.libraryLoad name true]) := by
  have hcoherent := h.coherent.load name
  rw [load_of_loads hname hloads] at hcoherent
  refine ⟨hcoherent, ?_, ?_, h.scopes, ?_, ?_⟩
  · intro name'
    rw [List.mem_append, List.mem_append, h.loaded, List.mem_singleton]
    constructor
    · rintro (⟨hmem, hloads'⟩ | rfl)
      · exact ⟨.inl hmem, hloads'⟩
      · exact ⟨.inr rfl, hloads⟩
    · rintro ⟨hmem | rfl, hloads'⟩
      · exact .inl ⟨hmem, hloads'⟩
      · exact .inr rfl
  · show (l.loaded ++ [name]).Nodup
    rw [← List.concat_eq_append]
    exact h.nodup.concat hname
  · intro name'
    rw [List.count_append, h.successes]
    by_cases heq : name = name'
    · subst heq
      simp [hname]
    · simp [heq, Ne.symm heq]
  · intro name'
    rw [List.count_append, h.failures, List.count_append]
    by_cases heq : name = name'
    · subst heq
      simp [hloads]
    · simp [heq]

/-- Another name was tried, and there is no such library. -/
theorem missing (h : Remembers w config names bare l log) {name : String}
    (hloads : w.loads name = false) :
    Remembers w config (names ++ [name]) bare l (log ++ [.libraryLoad name false]) := by
  refine ⟨h.coherent, ?_, h.nodup, h.scopes, ?_, ?_⟩
  · intro name'
    rw [h.loaded, List.mem_append, List.mem_singleton]
    constructor
    · rintro ⟨hmem, hloads'⟩
      exact ⟨.inl hmem, hloads'⟩
    · rintro ⟨hmem | rfl, hloads'⟩
      · exact ⟨hmem, hloads'⟩
      · exact absurd (hloads.symm.trans hloads') Bool.false_ne_true
  · intro name'
    rw [List.count_append, h.successes]
    simp
  · intro name'
    rw [List.count_append, h.failures, List.count_append]
    by_cases heq : name = name'
    · subst heq
      simp [hloads]
    · simp [heq]

/-- **Loading a library keeps the invariant**, and tries its name. -/
theorem load (h : Remembers w config names bare l log) (name : String) :
    Remembers w config (names ++ [name]) bare (l.load w name).1 (log ++ (l.load w name).2.1) := by
  by_cases hname : name ∈ l.loaded
  · rw [load_of_mem hname, List.append_nil]
    exact h.again hname
  · cases hloads : w.loads name with
    | true =>
      rw [load_of_loads hname hloads]
      exact h.kept hname hloads
    | false =>
      obtain ⟨reason, hload⟩ := load_of_not_loads hname hloads
      rw [hload]
      exact h.missing hloads

theorem loadAll (h : Remembers w config names bare l log) (more : List String) :
    Remembers w config (names ++ more) bare (l.loadAll w more).1
      (log ++ (l.loadAll w more).2.1) := by
  induction more generalizing l names log with
  | nil =>
    rw [Loader.loadAll, List.append_nil, List.append_nil]
    exact h
  | cons name more ih =>
    have hrest := ih (h.load name)
    rw [List.append_assoc, List.append_assoc] at hrest
    exact hrest

/-- **Searching a bare symbol keeps the invariant.** The default libraries are tried unless a bare
symbol was searched before. -/
theorem searchScopes (h : Remembers w config names bare l log) :
    Remembers w config (names ++ if bare then [] else config.defaultLibraries) true
      (l.searchScopes w).1 (log ++ (l.searchScopes w).2.1) := by
  have hscopes := h.scopes
  cases hkept : l.scopes with
  | some scopes =>
    obtain rfl : true = bare := by rw [← hscopes, hkept, Option.isSome_some]
    rw [searchScopes_of_some hkept, if_pos rfl, List.append_nil, List.append_nil]
    exact h
  | none =>
    obtain rfl : false = bare := by rw [← hscopes, hkept, Option.isSome_none]
    obtain ⟨hloaded, hsome, hevents⟩ := searchScopes_of_none (w := w) hkept
    have hall := h.loadAll config.defaultLibraries
    rw [h.coherent.configured] at hloaded hevents
    rw [hevents, if_neg Bool.false_ne_true]
    refine ⟨h.coherent.searchScopes, ?_, ?_, hsome, ?_, hall.failures⟩
    · rw [hloaded]
      exact hall.loaded
    · rw [hloaded]
      exact hall.nodup
    · rw [hloaded]
      exact hall.successes

/-- **Every request keeps the invariant**, and tries its own names. -/
theorem perform (h : Remembers w config names bare l log) (q : Request) :
    Remembers w config (names ++ q.attempts config bare) (bare || q.isBare) (l.perform w q).1
      (log ++ (l.perform w q).2.1) := by
  match q with
  | .load name =>
    have hbare : (bare || (Request.load name).isBare) = bare := Bool.or_false bare
    rw [hbare]
    exact h.load name
  | .resolve (.address a) =>
    have hbare : (bare || (Request.resolve (.address a)).isBare) = bare := Bool.or_false bare
    have hnames : names ++ (Request.resolve (.address a)).attempts config bare = names :=
      List.append_nil names
    have hlog : log ++ (l.perform w (.resolve (.address a))).2.1 = log := List.append_nil log
    rw [hbare, hnames, hlog]
    exact h
  | .resolve (.symbol (some library) name) =>
    have hbare : (bare || (Request.resolve (.symbol (some library) name)).isBare) = bare :=
      Bool.or_false bare
    have hload : (l.resolve w (.symbol (some library) name)).1 = (l.load w library).1 ∧
        (l.resolve w (.symbol (some library) name)).2.1 = (l.load w library).2.1 := by
      simp only [Loader.resolve]
      split <;> exact ⟨rfl, rfl⟩
    rw [hbare, Loader.perform, hload.1, hload.2]
    exact h.load library
  | .resolve (.symbol none name) =>
    have hbare : (bare || (Request.resolve (.symbol none name)).isBare) = true :=
      Bool.or_true bare
    rw [hbare]
    exact h.searchScopes

/-- **A sequence of requests keeps the invariant.** -/
theorem run (h : Remembers w config names bare l log) (qs : List Request) :
    Remembers w config (names ++ ForeignCall.attempts config bare qs)
      (bare || qs.any Request.isBare) (l.run w qs).1 (log ++ (l.run w qs).2.1) := by
  induction qs generalizing l names bare log with
  | nil =>
    rw [Loader.run, ForeignCall.attempts, List.any_nil, Bool.or_false, List.append_nil,
      List.append_nil]
    exact h
  | cons q qs ih =>
    have hrest := ih (h.perform q)
    rw [List.append_assoc, List.append_assoc, Bool.or_assoc] at hrest
    exact hrest

/-- There are as many libraries as different names were tried that load. -/
theorem loadedCount_eq (h : Remembers w config names bare l log) :
    l.loadedCount = (names.filter w.loads).dedup.length := by
  refine List.Perm.length_eq ((List.perm_ext_iff_of_nodup h.nodup (List.nodup_dedup _)).mpr ?_)
  intro name
  rw [h.loaded, List.mem_dedup, List.mem_filter]

end Remembers

/-! ## Answers -/

/-- A coherent loader answers what there is to be answered. -/
theorem Coherent.answer_eq (h : l.Coherent w config) (q : Request) :
    (l.perform w q).2.2 = w.answer config q := by
  cases q with
  | load name => exact congrArg Answer.loaded (h.load_eq name)
  | resolve r => exact congrArg Answer.resolved (h.resolve_eq r)

/-- So do requests in a row, one by one. -/
theorem Remembers.answers_run (h : Remembers w config names bare l log) (qs : List Request) :
    (l.run w qs).2.2 = qs.map (w.answer config) := by
  induction qs generalizing l names bare log with
  | nil => rfl
  | cons q qs ih =>
    rw [List.map_cons, ← ih (h.perform q), ← h.coherent.answer_eq q]
    rfl

/-! ## What can be seen of the cache -/

/-- What can be seen of the cache of a loader that served a sequence of requests. -/
structure CacheInvisible (w : Libraries) (config : LoaderConfig) (qs : List Request) : Prop where
  /-- All requests were answered as a new loader would have answered them, and the next one is. -/
  answers : (run w { config } qs).2.2 = qs.map fun q => (Loader.perform w { config } q).2.2
  next : ∀ q, ((run w { config } qs).1.perform w q).2.2 = (Loader.perform w { config } q).2.2
  /-- That is the answer which takes no loader. -/
  stateless : ∀ q, (Loader.perform w { config } q).2.2 = w.answer config q
  /-- The libraries are counted that were tried and load, and the number does not go down. -/
  counted : (run w { config } qs).1.loadedCount =
    ((attempts config false qs).filter w.loads).dedup.length
  growing : ∀ q, (run w { config } qs).1.loadedCount ≤
    ((run w { config } qs).1.perform w q).1.loadedCount
  /-- A library that loads is logged once. -/
  successes : ∀ name, (run w { config } qs).2.1.count (.libraryLoad name true) =
    if name ∈ attempts config false qs ∧ w.loads name = true then 1 else 0
  /-- It is not logged again, and has the same handle. -/
  cached : ∀ name ∈ attempts config false qs, w.loads name = true →
    (run w { config } qs).1.load w name = ((run w { config } qs).1, [], .ok ⟨name⟩)
  /-- A library that does not load is logged as often as it is tried, and is tried again. -/
  failures : ∀ name, (run w { config } qs).2.1.count (.libraryLoad name false) =
    if w.loads name then 0 else (attempts config false qs).count name
  retried : ∀ name, w.loads name = false → ∃ reason,
    (run w { config } qs).1.load w name =
      ((run w { config } qs).1, [.libraryLoad name false], .error ⟨name, reason⟩)
  /-- After the first bare symbol no other one loads anything. -/
  settled : qs.any Request.isBare = true → ∀ symbol,
    ((run w { config } qs).1.perform w (.resolve (.symbol none symbol))).1 =
        (run w { config } qs).1 ∧
      ((run w { config } qs).1.perform w (.resolve (.symbol none symbol))).2.1 = []

/-- **The cache of a loader shows in the events alone.** Whatever a loader was used for, it answers
as a new one; and it says in its log that a library was loaded once, and that one is missing each
time. -/
theorem cacheInvisible (w : Libraries) (config : LoaderConfig) (qs : List Request) :
    CacheInvisible w config qs := by
  have hnew := Remembers.new w config
  have hrun := hnew.run qs
  rw [List.nil_append, List.nil_append, Bool.false_or] at hrun
  have hfresh : ∀ q, (Loader.perform w { config } q).2.2 = w.answer config q :=
    hnew.coherent.answer_eq
  refine
    { answers := ?_
      next := ?_
      stateless := hfresh
      counted := hrun.loadedCount_eq
      growing := ?_
      successes := ?_
      cached := ?_
      failures := hrun.failures
      retried := ?_
      settled := ?_ }
  · rw [hnew.answers_run qs]
    simp only [hfresh]
  · intro q
    rw [hrun.coherent.answer_eq q, hfresh q]
  · intro q
    -- a name that was tried stays among the names that were tried
    have hsub : (run w { config } qs).1.loaded ⊆
        ((run w { config } qs).1.perform w q).1.loaded := fun name hname => by
      obtain ⟨hmem, hloads⟩ := (hrun.loaded name).mp hname
      exact ((hrun.perform q).loaded name).mpr ⟨List.mem_append_left _ hmem, hloads⟩
    exact (List.subperm_of_subset hrun.nodup hsub).length_le
  · intro name
    rw [hrun.successes]
    exact if_congr (hrun.loaded name) rfl rfl
  · intro name hname hloads
    exact load_of_mem ((hrun.loaded name).mpr ⟨hname, hloads⟩)
  · intro name hloads
    refine load_of_not_loads (fun hmem => ?_) hloads
    exact absurd (((hrun.loaded name).mp hmem).2.symm.trans hloads) (by decide)
  · intro hbare symbol
    obtain ⟨scopes, hscopes⟩ := Option.isSome_iff_exists.mp (hrun.scopes.trans hbare)
    have hsearch := searchScopes_of_some (w := w) hscopes
    exact ⟨congrArg Prod.fst hsearch, congrArg (fun r => r.2.1) hsearch⟩

/-- A library is loaded once, and one that does not exist is tried again; a symbol without a library
asks for the two default ones when it is looked up first. -/
example :
    let w : Libraries :=
      { process := fun _ => none
        load := fun name => if name = "m" then .ok fun _ => none else .error "no such file" }
    (run w { config := { defaultLibraries := ["m", "x"] } } [.load "m", .load "x", .load "m",
      .resolve (.symbol none "f"), .resolve (.symbol none "g"), .load "x"]).2.1 =
        [.libraryLoad "m" true, .libraryLoad "x" false, .libraryLoad "x" false,
          .libraryLoad "x" false] := by
  decide

end Loader

end ForeignCall
