import ForeignCall.Loader
import Mathlib.Data.Nat.Notation

/-!
# What a loader remembers

A loader keeps the libraries that it loaded, and the scopes that it put together for bare symbols.
Neither is more than a cache: whatever a loader was used for, it holds nothing but libraries that
load, and the scopes are the ones that its configuration asks for. A reference then has one address,
which can be said without any loader.

That what loads does not change over time is part of what `Libraries` are.

## Main definitions

* `Libraries.scopes`, `Libraries.resolve` — the scopes of a configuration, and the address of a
  reference, without a loader
* `Loader.Coherent` — the loaders that remember nothing wrong

## Main results

* `Coherent.load`, `Coherent.searchScopes`, `Coherent.resolve` — using a loader keeps it coherent
* `Coherent.resolve_eq`, `Coherent.resolveValue_eq` — a coherent loader finds what is to be found
-/

namespace ForeignCall

namespace Libraries

/-- Whether a library loads. -/
def loads (w : Libraries) (name : String) : Bool :=
  match w.load name with
  | .ok _ => true
  | .error _ => false

/-- The library of a name, or the error about it. -/
def open? (w : Libraries) (name : String) : Except LoadError Handle :=
  match w.load name with
  | .ok _ => .ok ⟨name⟩
  | .error reason => .error ⟨name, reason⟩

theorem open?_of_loads {w : Libraries} {name : String} (h : w.loads name = true) :
    w.open? name = .ok ⟨name⟩ := by
  rw [loads] at h
  split at h
  · next lib hlib => rw [open?, hlib]
  · exact absurd h (by simp)

theorem open?_of_not_loads {w : Libraries} {name : String} (h : ¬ w.loads name = true) :
    ∃ e, w.open? name = .error e := by
  rw [loads] at h
  split at h
  · exact absurd rfl h
  · next reason hreason => exact ⟨⟨name, reason⟩, by rw [open?, hreason]⟩

/-- The scopes for bare symbols: the process, if the configuration asks for it, and the default
libraries that load, in their order. -/
def scopes (w : Libraries) (config : LoaderConfig) : List Scope :=
  (if config.searchProcess then [.process] else []) ++
    (config.defaultLibraries.filter w.loads).map fun name => .library ⟨name⟩

/-- The address of a reference. -/
def resolve (w : Libraries) (config : LoaderConfig) : Reference → Except ResolveError UInt64
  | .address a => if a = 0 then .error (.invalid ⟨"0"⟩) else .ok a
  | .symbol (some library) name =>
    match w.open? library with
    | .error e => .error (.load e)
    | .ok h =>
      match (w.exports h).lookup? name with
      | some a => .ok a
      | none => .error (.symbol ⟨name, some library⟩)
  | .symbol none name =>
    match (w.scopes config).findSome? fun s => (s.exports w).lookup? name with
    | some a => .ok a
    | none => .error (.symbol ⟨name, none⟩)

end Libraries

namespace Loader

/-- A loader with a configuration that remembers nothing wrong. -/
structure Coherent (w : Libraries) (config : LoaderConfig) (l : Loader) : Prop where
  configured : l.config = config
  loaded : ∀ name ∈ l.loaded, w.loads name = true
  scopes : ∀ scopes, l.scopes = some scopes → scopes = w.scopes config

namespace Coherent

variable {w : Libraries} {config : LoaderConfig} {l : Loader}

/-- A new loader remembers nothing. -/
theorem new (w : Libraries) (config : LoaderConfig) : Coherent w config { config } :=
  ⟨rfl, fun _ h => absurd h (by simp), fun _ h => absurd h (by simp)⟩

/-- Loading yields the library, whether it is remembered or not. -/
theorem load_eq (h : Coherent w config l) (name : String) :
    (l.load w name).2.2 = w.open? name := by
  rw [load]
  split
  · next hmem => exact (Libraries.open?_of_loads (h.loaded name hmem)).symm
  · rw [Libraries.open?]
    cases w.load name <;> rfl

theorem load (h : Coherent w config l) (name : String) : Coherent w config (l.load w name).1 := by
  rw [Loader.load]
  split
  · exact h
  · split
    · next lib hlib =>
      refine ⟨h.configured, fun name' hmem => ?_, h.scopes⟩
      rcases List.mem_append.mp hmem with hmem | hmem
      · exact h.loaded name' hmem
      · obtain rfl := List.mem_singleton.mp hmem
        rw [Libraries.loads, hlib]
    · exact h

/-- Loading libraries one after the other keeps the ones that load. -/
theorem loadAll_eq (h : Coherent w config l) (names : List String) :
    (l.loadAll w names).2.2 = (names.filter w.loads).map Handle.mk := by
  induction names generalizing l with
  | nil => rfl
  | cons name names ih =>
    rw [loadAll]
    simp only [h.load_eq, ih (h.load name), List.filter_cons]
    by_cases hname : w.loads name = true
    · rw [if_pos hname, Libraries.open?_of_loads hname]
      rfl
    · obtain ⟨e, he⟩ := Libraries.open?_of_not_loads hname
      rw [if_neg hname, he]
      rfl

theorem loadAll (h : Coherent w config l) (names : List String) :
    Coherent w config (l.loadAll w names).1 := by
  induction names generalizing l with
  | nil => exact h
  | cons name names ih => exact ih (h.load name)

theorem searchScopes_eq (h : Coherent w config l) :
    (l.searchScopes w).2.2 = w.scopes config := by
  rw [searchScopes]
  split
  · next scopes hscopes => exact h.scopes scopes hscopes
  · simp only [h.loadAll_eq, h.configured, Libraries.scopes, List.map_map]
    rfl

theorem searchScopes (h : Coherent w config l) : Coherent w config (l.searchScopes w).1 := by
  have heq := h.searchScopes_eq
  rw [Loader.searchScopes] at heq ⊢
  split
  · exact h
  · next hnone =>
    rw [hnone] at heq
    have hall := h.loadAll l.config.defaultLibraries
    refine ⟨hall.configured, hall.loaded, fun scopes hscopes => ?_⟩
    exact (Option.some.inj hscopes).symm.trans heq

/-- **A coherent loader finds what is to be found**, and nothing else. -/
theorem resolve_eq (h : Coherent w config l) (r : Reference) :
    (l.resolve w r).2.2 = w.resolve config r := by
  match r with
  | .address a => rfl
  | .symbol (some library) name =>
    simp only [Loader.resolve, Libraries.resolve, h.load_eq]
    cases w.open? library <;> rfl
  | .symbol none name =>
    rw [Libraries.resolve, ← h.searchScopes_eq]
    rfl

theorem resolve (h : Coherent w config l) (r : Reference) :
    Coherent w config (l.resolve w r).1 := by
  match r with
  | .address a => exact h
  | .symbol (some library) name =>
    simp only [Loader.resolve]
    split <;> exact h.load library
  | .symbol none name => exact h.searchScopes

/-- What a function operand resolves to does not depend on what is remembered. -/
theorem resolveValue_eq {l' : Loader} (h : Coherent w config l) (h' : Coherent w config l')
    (v : Value) : (l.resolveValue w v).2.2 = (l'.resolveValue w v).2.2 := by
  rw [resolveValue, resolveValue]
  cases Reference.ofValue v with
  | error e => rfl
  | ok r => exact (h.resolve_eq r).trans (h'.resolve_eq r).symm

theorem resolveValue (h : Coherent w config l) (v : Value) :
    Coherent w config (l.resolveValue w v).1 := by
  rw [Loader.resolveValue]
  split
  · exact h
  · exact h.resolve _

end Coherent

end Loader

end ForeignCall
