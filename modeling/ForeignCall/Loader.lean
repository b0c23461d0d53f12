import ForeignCall.Log.Event
import ForeignCall.Reference

/-!
# The loader

Libraries are loaded by name and kept. A bare symbol is searched in the scopes of the loader: the
process itself, if the configuration wants it, and then the default libraries that load. The scopes
are put together at the first bare symbol and kept from then on. In each scope a symbol is tried as
it stands and then with an `A` behind it.

What loads and what a library exports is data, so that the loader can be studied over every
possible system.

## Main definitions

* `Library`, `Libraries`: what one library exports, and what there is to load;
* `LoaderConfig`, `Loader`: the configuration and the state of a loader;
* `Loader.load`, `Loader.resolve`: one library, and the address of a reference;
* `LoadError`, `SymbolError`, `ResolveError`: what can go wrong.

## Main results

* `Loader.load_of_mem`: a library that is loaded is not loaded again.
-/

namespace ForeignCall

/-- What a library exports: the address of a symbol. -/
abbrev Library := String → Option UInt64

/-- What there is to load. -/
structure Libraries where
  /-- What the process itself exports, with everything it has loaded already. -/
  process : Library
  /-- The library of a name, or the reason why it does not load. -/
  load : String → Except String Library

/-- A library that does not load. -/
structure LoadError where
  name : String
  reason : String
  deriving DecidableEq, Repr

/-- The description of a library that does not load. -/
def LoadError.message (e : LoadError) : String :=
  "Failed to load library '" ++ e.name ++ "': " ++ e.reason

/-- A symbol that is nowhere to be found: in the given library, or in any scope. -/
structure SymbolError where
  symbol : String
  library : Option String
  deriving DecidableEq, Repr

/-- The description of a missing symbol. -/
def SymbolError.message (e : SymbolError) : String :=
  "Symbol '" ++ e.symbol ++ "' not found in " ++
    match e.library with
    | some l => "'" ++ l ++ "'"
    | none => "the default libraries"

/-- Why a reference has no address. -/
inductive ResolveError where
  | invalid (e : InvalidFunction)
  | load (e : LoadError)
  | symbol (e : SymbolError)
  deriving DecidableEq, Repr

/-- The description of a reference that has no address. -/
def ResolveError.message : ResolveError → String
  | .invalid e => e.message
  | .load e => e.message
  | .symbol e => e.message

/-- Where bare symbols are searched. -/
structure LoaderConfig where
  /-- The libraries that are searched, in order. -/
  defaultLibraries : List String := ["libc.so.6", "libm.so.6"]
  /-- Whether the process itself is searched first. -/
  searchProcess : Bool := true
  deriving DecidableEq, Repr

/-- A loaded library, known by the name under which it was requested. -/
structure Handle where
  name : String
  deriving DecidableEq, Repr

/-- A place in which symbols are searched. -/
inductive Scope where
  | process
  | library (h : Handle)
  deriving DecidableEq, Repr

/-- The state of a loader. -/
structure Loader where
  config : LoaderConfig := {}
  /-- The names of the loaded libraries, each once. -/
  loaded : List String := []
  /-- The scopes for bare symbols, once they are needed. -/
  scopes : Option (List Scope) := none
  deriving DecidableEq, Repr

/-- A symbol of a library. Texts with a NUL name nothing, and neither does the null address. -/
def Library.find? (l : Library) (symbol : String) : Option UInt64 :=
  if symbol.toList.contains '\x00' then none else (l symbol).filter (· ≠ 0)

/-- A symbol of a library, as it stands or else with an `A` behind it. -/
def Library.lookup? (l : Library) (symbol : String) : Option UInt64 :=
  (l.find? symbol).or (l.find? (symbol ++ "A"))

/-- What a loaded library exports. -/
def Libraries.exports (w : Libraries) (h : Handle) : Library :=
  match w.load h.name with
  | .ok l => l
  | .error _ => fun _ => none

/-- What a scope exports. -/
def Scope.exports (w : Libraries) : Scope → Library
  | .process => w.process
  | .library h => w.exports h

namespace Loader

/-- The number of libraries loaded by name. -/
def loadedCount (l : Loader) : Nat := l.loaded.length

/-- Loads a library by name, unless it is loaded already. Failures are not kept. -/
def load (w : Libraries) (l : Loader) (name : String) :
    Loader × List Event × Except LoadError Handle :=
  if name ∈ l.loaded then (l, [], .ok ⟨name⟩)
  else
    match w.load name with
    | .ok _ =>
      ({ l with loaded := l.loaded ++ [name] }, [.libraryLoad name true], .ok ⟨name⟩)
    | .error reason => (l, [.libraryLoad name false], .error ⟨name, reason⟩)

/-- Loads libraries one after the other and keeps the ones that load. -/
def loadAll (w : Libraries) (l : Loader) : List String → Loader × List Event × List Handle
  | [] => (l, [], [])
  | name :: names =>
    let (l₁, events₁, r) := l.load w name
    let (l₂, events₂, handles) := l₁.loadAll w names
    (l₂, events₁ ++ events₂, r.toOption.toList ++ handles)

/-- The scopes for bare symbols, put together when they are needed for the first time. -/
def searchScopes (w : Libraries) (l : Loader) : Loader × List Event × List Scope :=
  match l.scopes with
  | some scopes => (l, [], scopes)
  | none =>
    let (l', events, handles) := l.loadAll w l.config.defaultLibraries
    let scopes := (if l.config.searchProcess then [.process] else []) ++ handles.map .library
    ({ l' with scopes := some scopes }, events, scopes)

/-- The address of a reference. -/
def resolve (w : Libraries) (l : Loader) :
    Reference → Loader × List Event × Except ResolveError UInt64
  | .address a => (l, [], if a = 0 then .error (.invalid ⟨"0"⟩) else .ok a)
  | .symbol (some library) name =>
    let (l', events, r) := l.load w library
    match r with
    | .error e => (l', events, .error (.load e))
    | .ok h =>
      (l', events,
        match (w.exports h).lookup? name with
        | some a => .ok a
        | none => .error (.symbol ⟨name, some library⟩))
  | .symbol none name =>
    let (l', events, scopes) := l.searchScopes w
    (l', events,
      match scopes.findSome? fun s => (s.exports w).lookup? name with
      | some a => .ok a
      | none => .error (.symbol ⟨name, none⟩))

/-- The address of a function operand. -/
def resolveValue (w : Libraries) (l : Loader) (v : Value) :
    Loader × List Event × Except ResolveError UInt64 :=
  match Reference.ofValue v with
  | .error e => (l, [], .error (.invalid e))
  | .ok r => l.resolve w r

/-- A library that is loaded is not loaded again. -/
theorem load_of_mem {w : Libraries} {l : Loader} {name : String} (h : name ∈ l.loaded) :
    l.load w name = (l, [], .ok ⟨name⟩) := by
  simp [load, h]

end Loader

end ForeignCall
