/-!
# Paths

Paths are texts whose parts stand between slashes. The directories above a path are found from its
text alone, without a look at the file system: empty parts and parts `.` do not count, and a part
`..` is a part like any other.

## Main definitions

* `Path.parts`: the parts of a path;
* `Path.parent?`, `Path.ancestors`: the paths above a path;
* `Path.join`: a path below a path.
-/

namespace ForeignCall.Path

/-- Splits a list of characters at slashes. -/
def splitSlashes (cs : List Char) : List (List Char) :=
  cs.foldr
    (fun c parts =>
      if c = '/' then [] :: parts
      else
        match parts with
        | part :: parts => (c :: part) :: parts
        | [] => [[c]])
    [[]]

/-- The parts of a path, in front of, between and behind its slashes. -/
def parts (path : String) : List String :=
  (splitSlashes path.toList).map String.ofList

/-- Whether a path starts at the root. -/
def isAbsolute (path : String) : Bool :=
  path.toList.head? == some '/'

/-- Drops trailing slashes and parts `.` of a path whose characters are in reverse order. A slash
at the root and a single `.` remain. -/
def dropTrailing : List Char → List Char
  | '/' :: cs => if cs = [] then ['/'] else dropTrailing cs
  | '.' :: '/' :: cs => if cs = [] then ['/'] else dropTrailing cs
  | cs => cs

/-- The path without its last part, with the characters of both in reverse order. -/
def dropLast? (cs : List Char) : Option (List Char) :=
  match dropTrailing cs with
  | [] => none
  | ['/'] => none
  | cs => some (dropTrailing (cs.dropWhile (· ≠ '/')))

/-- The path above a path. The root and the empty path have none. -/
def parent? (path : String) : Option String :=
  (dropLast? path.toList.reverse).map fun cs => String.ofList cs.reverse

/-- A path and no more than a number of paths above it, the nearest first. -/
def ancestorsWithin : Nat → String → List String
  | 0, path => [path]
  | n + 1, path =>
    path ::
      match parent? path with
      | some up => ancestorsWithin n up
      | none => []

/-- A path and all paths above it, the nearest first. Each is shorter than the one before it. -/
def ancestors (path : String) : List String :=
  ancestorsWithin path.toList.length path

/-- A path below a path. -/
def join (path name : String) : String :=
  if isAbsolute name then name
  else if path.toList = [] ∨ path.toList.getLast? = some '/' then path ++ name
  else path ++ "/" ++ name

end ForeignCall.Path
