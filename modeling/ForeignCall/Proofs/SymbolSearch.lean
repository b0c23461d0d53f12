import ForeignCall.Proofs.LoaderHistory

/-!
# The search for a symbol

A symbol is tried in one library after the other, and in each of them as it stands and then with an
`A` behind it, before the next library is asked. The suffixed name in an early library therefore
hides the name itself in a later one.

The search of the loader is nested: a search over scopes, with a second attempt inside each of them.
Here it is laid out flat. `tries` lists the names that are tried, each with the library in which it
is tried, and the search yields the first of them that is exported. For a bare symbol the list runs
over the scopes of the configuration, for the symbol of a library over that library alone.

What a loader was used for before has no part in this: by the invariant `Loader.Remembers` it is
coherent after any requests, and a coherent loader finds what is to be found.

## Main definitions

* `Library.Exports`, `Library.Lacks` — what a library exports
* `tries`, `FirstHit`, `NoHit` — the names that are tried, and how trying them ends
* `search` — the search through some libraries
* `Libraries.searched` — where a bare symbol is searched
* `Loader.SearchesInOrder` — how a loader searches

## Main results

* `findSome?_lookup?` — the nested search is a search through the list
* `search_eq_ok_iff`, `search_eq_error_iff` — it ends with the first hit, or there is none
* `Libraries.resolve_bare`, `Libraries.resolve_qualified` — which libraries are searched
* `Loader.searchesInOrder` — a loader searches in order, whatever it was used for
-/

namespace ForeignCall

/-! ## One library -/

namespace Library

variable {l : Library} {symbol : String} {a : UInt64}

/-- A library exports a symbol at an address. The name of a symbol has no NUL, and nothing is at the
null address. -/
def Exports (l : Library) (symbol : String) (a : UInt64) : Prop :=
  '\x00' ∉ symbol.toList ∧ a ≠ 0 ∧ l symbol = some a

/-- A library does not export a symbol. -/
def Lacks (l : Library) (symbol : String) : Prop :=
  ∀ a, ¬ l.Exports symbol a

/-- What a library exports is what is found in it. -/
theorem find?_eq_some_iff : l.find? symbol = some a ↔ l.Exports symbol a := by
  rw [find?]
  split
  · next hnul =>
    exact iff_of_false (Option.some_ne_none a).symm fun h => h.1 (List.contains_iff_mem.mp hnul)
  · next hnul =>
    rw [Option.filter_eq_some_iff, decide_eq_true_iff]
    constructor
    · rintro ⟨hsymbol, ha⟩
      exact ⟨fun hmem => hnul (List.contains_iff_mem.mpr hmem), ha, hsymbol⟩
    · rintro ⟨-, ha, hsymbol⟩
      exact ⟨hsymbol, ha⟩

theorem find?_eq_none_iff : l.find? symbol = none ↔ l.Lacks symbol := by
  simp only [Option.eq_none_iff_forall_ne_some, Lacks, ← find?_eq_some_iff, ne_eq]

/-- There is no symbol with a NUL in its name. -/
theorem lacks_of_nul (h : '\x00' ∈ symbol.toList) : l.Lacks symbol :=
  fun _ hexports => hexports.1 h

end Library

/-! ## The names that are tried -/

/-- The names that are tried for a symbol, library by library: the symbol as it stands, and then the
symbol with an `A` behind it. -/
def tries (libraries : List Library) (symbol : String) : List (Library × String) :=
  libraries.flatMap fun l => [(l, symbol), (l, symbol ++ "A")]

/-- The first of some names that is exported is exported at an address. -/
def FirstHit (names : List (Library × String)) (a : UInt64) : Prop :=
  ∃ before l name after, names = before ++ (l, name) :: after ∧
    (∀ t ∈ before, t.1.Lacks t.2) ∧ l.Exports name a

/-- None of some libraries exports a symbol, as it stands or with an `A` behind it. -/
def NoHit (libraries : List Library) (symbol : String) : Prop :=
  ∀ l ∈ libraries, l.Lacks symbol ∧ l.Lacks (symbol ++ "A")

/-- The search for a symbol through some libraries. The error names the library that the symbol was
asked from, if any. -/
def search (libraries : List Library) (library : Option String) (symbol : String) :
    Except ResolveError UInt64 :=
  match libraries.findSome? (·.lookup? symbol) with
  | some a => .ok a
  | none => .error (.symbol ⟨symbol, library⟩)

section

variable {libraries : List Library} {library : Option String} {symbol : String} {a : UInt64}

/-- **The nested search is a search through the list**: the second attempt in a library comes before
the next library. -/
theorem findSome?_lookup? (libraries : List Library) (symbol : String) :
    libraries.findSome? (·.lookup? symbol) =
      (tries libraries symbol).findSome? fun t => t.1.find? t.2 := by
  induction libraries with
  | nil => rfl
  | cons l libraries ih =>
    have htries : tries (l :: libraries) symbol =
        (l, symbol) :: (l, symbol ++ "A") :: tries libraries symbol := rfl
    rw [htries, List.findSome?_cons, List.findSome?_cons, List.findSome?_cons, Library.lookup?, ih]
    cases l.find? symbol with
    | some a => rfl
    | none => rfl

theorem findSome?_lookup?_eq_some_iff :
    libraries.findSome? (·.lookup? symbol) = some a ↔ FirstHit (tries libraries symbol) a := by
  rw [findSome?_lookup?, List.findSome?_eq_some_iff]
  constructor
  · rintro ⟨before, t, after, htries, hhit, hbefore⟩
    exact ⟨before, t.1, t.2, after, htries,
      fun t' ht' => Library.find?_eq_none_iff.mp (hbefore t' ht'),
      Library.find?_eq_some_iff.mp hhit⟩
  · rintro ⟨before, l, name, after, htries, hbefore, hhit⟩
    exact ⟨before, (l, name), after, htries, Library.find?_eq_some_iff.mpr hhit,
      fun t' ht' => Library.find?_eq_none_iff.mpr (hbefore t' ht')⟩

theorem findSome?_lookup?_eq_none_iff :
    libraries.findSome? (·.lookup? symbol) = none ↔ NoHit libraries symbol := by
  rw [List.findSome?_eq_none_iff]
  refine forall₂_congr fun l _ => ?_
  rw [Library.lookup?, Option.or_eq_none_iff, Library.find?_eq_none_iff, Library.find?_eq_none_iff]

/-- **A search finds the first hit.** -/
theorem search_eq_ok_iff :
    search libraries library symbol = .ok a ↔ FirstHit (tries libraries symbol) a := by
  rw [← findSome?_lookup?_eq_some_iff, search]
  cases libraries.findSome? (·.lookup? symbol) with
  | some b => rw [Except.ok.injEq, Option.some.injEq]
  | none => exact iff_of_false nofun nofun

/-- **A search fails if there is no hit**, and in no other way. -/
theorem search_eq_error_iff {e : ResolveError} :
    search libraries library symbol = .error e ↔
      NoHit libraries symbol ∧ e = .symbol ⟨symbol, library⟩ := by
  rw [← findSome?_lookup?_eq_none_iff, search]
  cases libraries.findSome? (·.lookup? symbol) with
  | some b => exact iff_of_false nofun fun h => Option.some_ne_none b h.1
  | none =>
    rw [Except.error.injEq]
    exact ⟨fun h => ⟨rfl, h.symm⟩, fun h => h.2.symm⟩

/-- A symbol with a NUL in its name is no hit, and an `A` behind it does not help. -/
theorem noHit_of_nul (h : '\x00' ∈ symbol.toList) : NoHit libraries symbol := by
  intro l _
  have hsuffixed : '\x00' ∈ (symbol ++ "A").toList := by
    rw [String.toList_append]
    exact List.mem_append_left _ h
  exact ⟨Library.lacks_of_nul h, Library.lacks_of_nul hsuffixed⟩

theorem search_ne_ok_of_nul (h : '\x00' ∈ symbol.toList) :
    search libraries library symbol ≠ .ok a := by
  rw [search_eq_error_iff.mpr ⟨noHit_of_nul h, rfl⟩]
  exact nofun

end

/-! ## The libraries that are searched -/

namespace Libraries

variable {w : Libraries}

/-- Where a bare symbol is searched: in the process, if the configuration asks for it, and in the
default libraries that load, in their order. -/
def searched (w : Libraries) (config : LoaderConfig) : List Library :=
  (if config.searchProcess then [w.process] else []) ++
    config.defaultLibraries.filterMap fun name => (w.load name).toOption

/-- Names that load, as libraries. -/
theorem map_exports_filter (w : Libraries) (names : List String) :
    (names.filter w.loads).map (fun name => w.exports ⟨name⟩) =
      names.filterMap fun name => (w.load name).toOption := by
  induction names with
  | nil => rfl
  | cons name names ih =>
    rw [List.filter_cons, List.filterMap_cons, ← ih, loads]
    cases hload : w.load name with
    | ok l =>
      have hexports : w.exports ⟨name⟩ = l := by rw [exports, hload]
      rw [if_pos rfl, List.map_cons, hexports]
      rfl
    | error reason => rfl

/-- The scopes of a configuration export what is searched. -/
theorem map_exports_scopes (w : Libraries) (config : LoaderConfig) :
    (w.scopes config).map (Scope.exports w) = w.searched config := by
  rw [scopes, searched, List.map_append, List.map_map, ← map_exports_filter]
  cases config.searchProcess with
  | true => rfl
  | false => rfl

/-- A bare symbol is searched there. -/
theorem resolve_bare (w : Libraries) (config : LoaderConfig) (symbol : String) :
    w.resolve config (.symbol none symbol) = search (w.searched config) none symbol := by
  rw [search, ← map_exports_scopes, List.findSome?_map]
  rfl

/-- The symbol of a library is searched in that library. -/
theorem resolve_qualified {library : String} {l : Library} (h : w.load library = .ok l)
    (config : LoaderConfig) (symbol : String) :
    w.resolve config (.symbol (some library) symbol) = search [l] (some library) symbol := by
  have hopen : w.open? library = .ok ⟨library⟩ := by rw [open?, h]
  have hexports : w.exports ⟨library⟩ = l := by rw [exports, h]
  cases hlookup : l.lookup? symbol with
  | some a => simp only [resolve, search, List.findSome?_singleton, hopen, hexports, hlookup]
  | none => simp only [resolve, search, List.findSome?_singleton, hopen, hexports, hlookup]

/-- There are no symbols of a library that does not load. -/
theorem resolve_qualified_of_error {library reason : String} (h : w.load library = .error reason)
    (config : LoaderConfig) (symbol : String) :
    w.resolve config (.symbol (some library) symbol) = .error (.load ⟨library, reason⟩) := by
  have hopen : w.open? library = .error ⟨library, reason⟩ := by rw [open?, h]
  simp only [resolve, hopen]

/-- Whatever is found is found by a search. -/
theorem exists_search_eq_ok {config : LoaderConfig} {library : Option String} {symbol : String}
    {a : UInt64} (h : w.resolve config (.symbol library symbol) = .ok a) :
    ∃ libraries, search libraries library symbol = .ok a := by
  cases library with
  | none => exact ⟨w.searched config, (resolve_bare w config symbol).symm.trans h⟩
  | some library =>
    cases hload : w.load library with
    | ok l => exact ⟨[l], (resolve_qualified hload config symbol).symm.trans h⟩
    | error reason =>
      rw [resolve_qualified_of_error hload] at h
      exact nomatch h

end Libraries

/-! ## What a loader finds -/

namespace Loader

/-- The address that a loader has for a symbol, of a library or bare. -/
def address (w : Libraries) (l : Loader) (library : Option String) (symbol : String) :
    Except ResolveError UInt64 :=
  (l.resolve w (.symbol library symbol)).2.2

/-- How a loader searches for symbols. -/
structure SearchesInOrder (w : Libraries) (config : LoaderConfig) (l : Loader) : Prop where
  /-- A bare symbol has the address of the first hit in the scopes: the process, if it is searched,
  and the default libraries that load, in their order. -/
  bare : ∀ symbol a,
    l.address w none symbol = .ok a ↔ FirstHit (tries (w.searched config) symbol) a
  /-- It is missing if there is no hit in any of them, and nothing else goes wrong. -/
  bare_missing : ∀ symbol e,
    l.address w none symbol = .error e ↔
      NoHit (w.searched config) symbol ∧ e = .symbol ⟨symbol, none⟩
  /-- The symbol of a library has the address of the first hit in that library alone. -/
  qualified : ∀ library lib, w.load library = .ok lib → ∀ symbol a,
    l.address w (some library) symbol = .ok a ↔ FirstHit (tries [lib] symbol) a
  /-- It is missing from that library if there is no hit in it. -/
  qualified_missing : ∀ library lib, w.load library = .ok lib → ∀ symbol e,
    l.address w (some library) symbol = .error e ↔
      NoHit [lib] symbol ∧ e = .symbol ⟨symbol, some library⟩
  /-- If the library does not load, that is the error. -/
  unloaded : ∀ library reason, w.load library = .error reason → ∀ symbol,
    l.address w (some library) symbol = .error (.load ⟨library, reason⟩)
  /-- Neither the process nor any other library has a say in it. -/
  apart : ∀ w' config' qs library, w'.load library = w.load library → ∀ symbol,
    (run w' { config := config' } qs).1.address w' (some library) symbol =
      l.address w (some library) symbol
  /-- A symbol with a NUL in its name is nowhere. -/
  nul : ∀ symbol, '\x00' ∈ symbol.toList → ∀ library a, l.address w library symbol ≠ .ok a

/-- After any requests a loader has the addresses that there are. -/
theorem address_run (w : Libraries) (config : LoaderConfig) (qs : List Request)
    (library : Option String) (symbol : String) :
    (run w { config } qs).1.address w library symbol =
      w.resolve config (.symbol library symbol) :=
  ((Remembers.new w config).run qs).coherent.resolve_eq _

/-- **A loader searches in order**, whatever it was used for before. -/
theorem searchesInOrder (w : Libraries) (config : LoaderConfig) (qs : List Request) :
    SearchesInOrder w config (run w { config } qs).1 := by
  refine
    { bare := ?_
      bare_missing := ?_
      qualified := ?_
      qualified_missing := ?_
      unloaded := ?_
      apart := ?_
      nul := ?_ }
  · intro symbol a
    rw [address_run, Libraries.resolve_bare]
    exact search_eq_ok_iff
  · intro symbol e
    rw [address_run, Libraries.resolve_bare]
    exact search_eq_error_iff
  · intro library lib hlib symbol a
    rw [address_run, Libraries.resolve_qualified hlib]
    exact search_eq_ok_iff
  · intro library lib hlib symbol e
    rw [address_run, Libraries.resolve_qualified hlib]
    exact search_eq_error_iff
  · intro library reason hreason symbol
    rw [address_run, Libraries.resolve_qualified_of_error hreason]
  · intro w' config' qs' library hload symbol
    rw [address_run, address_run]
    cases hlib : w.load library with
    | ok lib =>
      rw [Libraries.resolve_qualified hlib, Libraries.resolve_qualified (hload.trans hlib)]
    | error reason =>
      rw [Libraries.resolve_qualified_of_error hlib,
        Libraries.resolve_qualified_of_error (hload.trans hlib)]
  · intro symbol hnul library a hok
    rw [address_run] at hok
    obtain ⟨libraries, hsearch⟩ := Libraries.exists_search_eq_ok hok
    exact search_ne_ok_of_nul hnul hsearch

/-- The suffixed name in an early library hides the name itself in a later one. -/
example :
    let w : Libraries :=
      { process := fun _ => none
        load := fun name =>
          if name = "a" then .ok fun symbol => if symbol = "fA" then some 1 else none
          else if name = "b" then .ok fun symbol => if symbol = "f" then some 2 else none
          else .error "no such file" }
    let l : Loader := { config := { defaultLibraries := ["x", "a", "b"] } }
    l.address w none "f" = .ok 1 ∧ l.address w (some "b") "f" = .ok 2 := by
  decide

end Loader

end ForeignCall
