import ForeignCall.Number.Binary

/-!
# TOML documents

The contents of a TOML document, and the rules by which its lines build it up. A table remembers how
it came to be, for that decides what later lines may add to it: a table with a header is complete
for dotted keys, a table that dotted keys brought about takes more of them but no header, and a
table or an array written out as a value takes nothing more.

## Main definitions

* `Item`, `Entries`, `Birth`: the contents of a document;
* `Entries.update`: a change to the table at the end of a path;
* `Entries.addPair`, `Entries.openTable`, `Entries.openElement`: what the three kinds of lines do.
-/

namespace ForeignCall.Toml

/-- How a table came to be. -/
inductive Birth where
  /-- It has a header of its own, or is the document itself. -/
  | header
  /-- It lies on the path of a header. -/
  | implied
  /-- It lies on the path of a dotted key. -/
  | dotted
  /-- It was written out as a value. -/
  | literal
  deriving DecidableEq, Repr

/-- A value of a document. -/
inductive Item where
  | text (s : String)
  | integer (i : Int)
  | real (x : Number.Double)
  | boolean (b : Bool)
  /-- A date, a time, or both, as it was written. -/
  | moment (written : String)
  /-- An array written out as a value. -/
  | array (items : List Item)
  | table (birth : Birth) (entries : List (String × Item))
  /-- Tables that share a header, in order. -/
  | tables (elements : List (List (String × Item)))

/-- The entries of a table, in the order in which they were added. -/
abbrev Entries := List (String × Item)

namespace Entries

/-- What is found under a key. -/
def find? (es : Entries) (key : String) : Option Item :=
  es.lookup key

/-- Entries with an item under a key, in the place of the item that was there before if any. -/
def set : Entries → String → Item → Entries
  | [], key, item => [(key, item)]
  | e :: es, key, item => if key == e.1 then (key, item) :: es else e :: set es key item

/-- Changes the table at the end of a path. Tables on the path that do not exist yet are made, with
the given birth; a header shared by several tables leads to the last of them. -/
def update (birth : Birth) (change : Birth → Entries → Option Entries) :
    List String → Birth → Entries → Option Entries
  | [], own, es => change own es
  | key :: path, _, es =>
    match find? es key with
    | none => (update birth change path birth []).map fun sub => set es key (.table birth sub)
    | some (.table b sub) =>
      if b = .literal ∨ (birth = .dotted ∧ b = .header) then none
      else (update birth change path b sub).map fun sub => set es key (.table b sub)
    | some (.tables ts) =>
      ts.getLast?.bind fun last =>
        (update birth change path .header last).map fun last =>
          set es key (.tables (ts.dropLast ++ [last]))
    | some _ => none

/-- Adds an item under a new key. The table may be one that dotted keys brought about if and only if
the key was dotted. -/
def addNew (isDotted : Bool) (key : String) (item : Item) (own : Birth) (es : Entries) :
    Option Entries :=
  if isDotted = (own == .dotted) ∧ (find? es key).isNone then some (set es key item) else none

/-- Adds the item of a key, which may be dotted, to a table. -/
def addPair (path : List String) (key : String) (item : Item) (own : Birth) (es : Entries) :
    Option Entries :=
  update .dotted (addNew (!path.isEmpty) key item) path own es

/-- Opens a table under a key. It may exist only as a part of the paths of other headers. -/
def openTable (key : String) (es : Entries) : Option Entries :=
  match find? es key with
  | none => some (set es key (.table .header []))
  | some (.table .implied sub) => some (set es key (.table .header sub))
  | some _ => none

/-- Opens one more of the tables under a key. -/
def openElement (key : String) (es : Entries) : Option Entries :=
  match find? es key with
  | none => some (set es key (.tables [[]]))
  | some (.tables ts) => some (set es key (.tables (ts ++ [[]])))
  | some _ => none

end Entries

end ForeignCall.Toml
