import ForeignCall.Files.Path

/-!
# Files

What there is to read: files and directories, each at a location, which is the list of names that
lead to it from the root. A directory exists when something lies in it, even without an entry of its
own.

A program asks for three things only, whether a path is that of a file, what is in it, and whether
lines can be added to it; `FileAccess` holds the answers.

## Main definitions

* `FileTree`, `FileTree.locate`: the files, and where a path leads to;
* `FileTree.canAppend`: whether a file is there or can be made;
* `ReadFailure`, `ReadFailure.message`: why a file is not read;
* `FileAccess`, `FileTree.access`: what a program may ask.
-/

namespace ForeignCall

/-- Why a file is not read. -/
inductive ReadFailure where
  | notFound
  | notDirectory
  | isDirectory
  | nameTooLong
  /-- The path holds a NUL. -/
  | invalidPath
  /-- The contents are not text. -/
  | invalidText
  /-- Another error of the operating system, by its description and its number. -/
  | system (text : String) (number : Nat)
  deriving DecidableEq, Repr

/-- The description of a failure. -/
def ReadFailure.message : ReadFailure → String
  | .notFound => "No such file or directory (os error 2)"
  | .notDirectory => "Not a directory (os error 20)"
  | .isDirectory => "Is a directory (os error 21)"
  | .nameTooLong => "File name too long (os error 36)"
  | .invalidPath => "file name contained an unexpected NUL byte"
  | .invalidText => "stream did not contain valid UTF-8"
  | .system text number =>
    text ++ " (os error " ++ String.ofList (Nat.toDigits 10 number) ++ ")"

/-- The names that lead from the root to a file or a directory. -/
abbrev Location := List String

/-- What lies at a location. -/
inductive FileEntry where
  | file (bytes : List UInt8)
  | directory
  deriving DecidableEq, Repr

/-- Files and directories. -/
abbrev FileTree := List (Location × FileEntry)

/-- What a program may ask about files. -/
structure FileAccess (m : Type → Type) where
  /-- Whether a path is that of a file. -/
  isFile : String → m Bool
  /-- The contents of the file of a path. -/
  read : String → m (Except ReadFailure (List UInt8))
  /-- Makes the file of a path, and the directories above it, unless they are there; tells whether
  lines can be added to the file. -/
  append : String → m Bool

namespace FileTree

/-- What lies at a location. -/
def entry? (t : FileTree) (l : Location) : Option FileEntry :=
  match t.lookup l with
  | some e => some e
  | none =>
    if l = [] ∨ t.any fun p => l.isPrefixOf p.1 then some .directory else none

/-- The location that one part of a path leads to from a location. -/
def step (t : FileTree) (l : Location) (part : String) : Except ReadFailure Location :=
  if (t.entry? l) ≠ some .directory then .error .notDirectory
  else if part = "" ∨ part = "." then .ok l
  else if part = ".." then .ok l.dropLast
  else if 255 < part.utf8ByteSize then .error .nameTooLong
  else if (t.entry? (l ++ [part])).isSome then .ok (l ++ [part])
  else .error .notFound

/-- The location that a path leads to for a program that runs in a directory. -/
def locate (t : FileTree) (current : Location) (path : String) : Except ReadFailure Location :=
  if path.toList.contains '\x00' then .error .invalidPath
  else if path = "" then .error .notFound
  else if 4096 ≤ path.utf8ByteSize then .error .nameTooLong
  else (Path.parts path).foldlM t.step (if Path.isAbsolute path then [] else current)

/-- The contents of the file of a path. -/
def read (t : FileTree) (current : Location) (path : String) :
    Except ReadFailure (List UInt8) :=
  (t.locate current path).bind fun l =>
    match t.entry? l with
    | some (.file bytes) => .ok bytes
    | some .directory => .error .isDirectory
    | none => .error .notFound

/-- Whether a path is that of a file. -/
def isFile (t : FileTree) (current : Location) (path : String) : Bool :=
  (t.read current path).isOk

/-- The location that one part of a path leads to from a location, when directories are made where
they are missing. Only a file stands in the way, or a name that is too long. -/
def stepOrMake? (t : FileTree) (l : Location) (part : String) : Option Location :=
  match t.entry? l with
  | some (.file _) => none
  | some .directory | none =>
    if part = "" ∨ part = "." then some l
    else if part = ".." then some l.dropLast
    else if 255 < part.utf8ByteSize then none
    else some (l ++ [part])

/-- Whether lines can be added to the file of a path, once the directories above it are made. The
last part of the path is the name of the file. -/
def canAppend (t : FileTree) (current : Location) (path : String) : Bool :=
  !path.toList.contains '\x00' && path.utf8ByteSize < 4096 &&
    ((Path.parts path).foldlM t.stepOrMake? (if Path.isAbsolute path then [] else current)).any
      fun l => t.entry? l ≠ some .directory

/-- What a program that runs in a directory may ask. -/
def access (t : FileTree) (current : Location) : FileAccess Id where
  isFile := t.isFile current
  read := t.read current
  append := t.canAppend current

end FileTree

/-- The path of a location. -/
def Location.path (l : Location) : String :=
  "/" ++ "/".intercalate l

/-- The location that a path leads to when all its directories are made where they are missing. -/
def Location.normalize (current : Location) (path : String) : Location :=
  (Path.parts path).foldl
    (fun l part =>
      if part = "" ∨ part = "." then l
      else if part = ".." then l.dropLast
      else l ++ [part])
    (if Path.isAbsolute path then [] else current)

end ForeignCall
