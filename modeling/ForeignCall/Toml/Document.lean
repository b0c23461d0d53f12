import ForeignCall.Toml.Bare
import ForeignCall.Toml.Quoted

/-!
# Reading TOML

A document is a list of lines: a key with its value, the header of a table, or the header of one
more of several tables. The lines are read first; then they build up the contents one by one.

Values nest to a depth of less than 80, and a key has less than 80 parts. The depth that is left is
what the reading of values recurses on.

## Main definitions

* `value?`: a value that nests no deeper than a bound;
* `Line`, `line?`: one line;
* `Contents`, `Contents.add`: what the lines of a document build up;
* `document?`: a whole document.
-/

namespace ForeignCall.Toml

/-- Takes a value from the front of a list of characters and gives back what follows it. -/
abbrev Scanner (α : Type) := List Char → Option (α × List Char)

/-- The depth and the length of keys that are refused. -/
def depthLimit : Nat := 80

/-- Drops the blanks inside a line. -/
def skipSpaces (cs : List Char) : List Char := cs.dropWhile isSpace

/-- Drops blanks, ends of lines, and comments. -/
def skipFiller (inComment : Bool) : List Char → List Char
  | [] => []
  | c :: cs =>
    if c = '\n' then skipFiller false cs
    else if c = '\r' ∧ cs.head? = some '\n' then skipFiller false cs
    else if inComment then (if isVisible c then skipFiller true cs else c :: cs)
    else if isSpace c then skipFiller false cs
    else if c = '#' then skipFiller true cs
    else c :: cs

/-- What follows the end of a line, in front of which blanks and a comment may stand. -/
def endLine? (cs : List Char) : Option (List Char) :=
  let rest := match skipSpaces cs with
    | '#' :: cs => cs.dropWhile isVisible
    | cs => cs
  if rest = [] then some [] else newline? rest

/-- Takes a given character from the front. -/
def expect? (c : Char) : List Char → Option (List Char)
  | d :: cs => if d = c then some cs else none
  | [] => none

/-! ### Keys -/

/-- The characters of keys without quotes. -/
def isKeyPart (c : Char) : Bool := c.isAlphanum || c == '_' || c == '-'

/-- Reads one part of a key. -/
def keyPart? : Scanner String
  | '\"' :: cs => quotedLine? '\"' true cs
  | '\'' :: cs => quotedLine? '\'' false cs
  | cs =>
    let name := cs.takeWhile isKeyPart
    if name = [] then none else some (String.ofList name, cs.dropWhile isKeyPart)

/-- Reads the parts of a key, no more than a bound, with points between them. -/
def keyParts? : Nat → Scanner (List String)
  | 0, _ => none
  | bound + 1, cs =>
    (keyPart? (skipSpaces cs)).bind fun (part, rest) =>
      match skipSpaces rest with
      | '.' :: rest => (keyParts? bound rest).map fun (parts, rest) => (part :: parts, rest)
      | rest => some ([part], rest)

/-- A key: the tables that it leads through, and its last part. -/
structure Key where
  path : List String
  last : String
  deriving DecidableEq, Repr

/-- Reads a key. -/
def key? : Scanner Key := fun cs =>
  (keyParts? (depthLimit - 1) cs).bind fun (parts, rest) =>
    parts.getLast?.map fun last => (⟨parts.dropLast, last⟩, rest)

/-! ### Values -/

/-- Reads the items of an array behind its opening bracket; no more of them than a bound, which the
number of characters gives. A comma may stand behind the last item. -/
def items? (item? : Scanner Item) : Nat → Scanner (List Item)
  | 0, _ => none
  | bound + 1, cs =>
    match skipFiller false cs with
    | ']' :: rest => some ([], rest)
    | cs =>
      (item? cs).bind fun (item, rest) =>
        match skipFiller false rest with
        | ']' :: rest => some ([item], rest)
        | ',' :: rest => (items? item? bound rest).map fun (items, rest) => (item :: items, rest)
        | _ => none

/-- Reads a key, its equals sign and its value. -/
def pair? (item? : Scanner Item) : Scanner (Key × Item) := fun cs =>
  (key? cs).bind fun (key, rest) =>
    (expect? '=' rest).bind fun rest =>
      (item? (skipSpaces rest)).map fun (item, rest) => ((key, item), rest)

/-- Reads the pairs of a table that is written out, at least one and no more than a bound, behind
its opening brace. No comma may stand behind the last pair. -/
def pairs? (item? : Scanner Item) : Nat → Scanner (List (Key × Item))
  | 0, _ => none
  | bound + 1, cs =>
    (pair? item? cs).bind fun (pair, rest) =>
      match skipSpaces rest with
      | '\x7d' :: rest => some ([pair], rest)
      | ',' :: rest => (pairs? item? bound rest).map fun (pairs, rest) => (pair :: pairs, rest)
      | _ => none

/-- The table that pairs make when they are written out. -/
def literalTable? (pairs : List (Key × Item)) : Option Item :=
  (pairs.foldlM (fun es p => Entries.addPair p.1.path p.1.last p.2 .literal es) []).map
    (.table .literal)

/-- Reads a table that is written out, behind its opening brace. -/
def literal? (item? : Scanner Item) : Scanner Item := fun cs =>
  match skipSpaces cs with
  | '\x7d' :: rest => some (.table .literal [], rest)
  | _ =>
    (pairs? item? (cs.length + 1) cs).bind fun (pairs, rest) =>
      (literalTable? pairs).map fun item => (item, rest)

/-- Reads a value that nests no deeper than a bound. -/
def value? : Nat → Scanner Item
  | 0, cs =>
    match quoted? cs with
    | some (s, rest) => some (.text s, rest)
    | none => Bare.read? cs
  | depth + 1, cs =>
    match cs with
    | '[' :: rest =>
      (items? (value? depth) (rest.length + 1) rest).map fun (items, rest) => (.array items, rest)
    | '\x7b' :: rest => literal? (value? depth) rest
    | _ =>
      match quoted? cs with
      | some (s, rest) => some (.text s, rest)
      | none => Bare.read? cs

/-! ### Lines -/

/-- A line of a document. -/
inductive Line where
  | pair (key : Key) (item : Item)
  | table (key : Key)
  | element (key : Key)

/-- Reads the rest of a header behind its opening brackets. -/
def header? (line : Key → Line) (brackets : Nat) : Scanner Line := fun cs =>
  (key? cs).bind fun (key, rest) =>
    if rest.take brackets = List.replicate brackets ']' then
      some (line key, rest.drop brackets)
    else none

/-- Reads what stands on one line. -/
def line? : Scanner Line
  | '[' :: '[' :: cs => header? .element 2 cs
  | '[' :: cs => header? .table 1 cs
  | cs =>
    (pair? (value? (depthLimit - 1)) cs).map fun ((key, item), rest) => (.pair key item, rest)

/-- Reads the lines of a document, no more than a bound, which the number of characters gives. -/
def lines? : Nat → List Char → Option (List Line)
  | 0, _ => none
  | bound + 1, cs =>
    match skipFiller false cs with
    | [] => some []
    | cs =>
      (line? cs).bind fun (line, rest) =>
        (endLine? rest).bind fun rest => (lines? bound rest).map (line :: ·)

/-! ### Contents -/

/-- What the lines of a document have built up so far: the entries, and the path of the table that
the next pairs go into. -/
structure Contents where
  entries : Entries := []
  current : List String := []

namespace Contents

/-- Goes on with a table or element, of which `openLast` makes the last part of the key. -/
def startTable (c : Contents) (key : Key) (openLast : String → Entries → Option Entries) :
    Option Contents :=
  (Entries.update .implied (fun _ es => openLast key.last es) key.path .header c.entries).map
    fun entries => ⟨entries, key.path ++ [key.last]⟩

/-- Adds a line. -/
def add (c : Contents) : Line → Option Contents
  | .pair key item =>
    (Entries.update .implied (fun own es => es.addPair key.path key.last item own) c.current
      .header c.entries).map fun entries => { c with entries }
  | .table key => c.startTable key fun last es => es.openTable last
  | .element key => c.startTable key fun last es => es.openElement last

end Contents

/-- Reads a document. A byte order mark in front of it does not count. -/
def document? (text : String) : Option Entries :=
  let cs := match text.toList with
    | '\uFEFF' :: cs => cs
    | cs => cs
  ((lines? (cs.length + 1) cs).bind fun lines => lines.foldlM Contents.add {}).map
    Contents.entries

end ForeignCall.Toml
