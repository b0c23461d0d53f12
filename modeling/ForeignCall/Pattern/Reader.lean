import ForeignCall.Pattern.Class

/-!
# Reading patterns

The written form of regular expressions: characters, classes and anchors, one after another; the
repetitions `*`, `+` and `?`, each of which may be marked by a further `?`; alternatives between
bars; and groups in parentheses, which may have a name or set flags. Flags that are set without a
group of their own hold up to the end of the group around them. A number of repetitions in braces is
no part of the form.

## Main definitions

* `Pattern.read?`: the pattern that a text is, if it is one.
-/

namespace ForeignCall.Pattern

/-- Structure may be nested this deep. -/
def depthLimit : Nat := 250

/-- A part of a pattern; the flag tells whether it can be repeated. -/
structure Part extends Nested Pattern where
  repeatable : Bool := true
  deriving DecidableEq, Repr

/-- A part that has no structure. -/
def Part.leaf (p : Pattern) : Part := { value := p }

/-- Parts one after another, the last of them first. -/
def concatParts (parts : List Part) : Nested Pattern :=
  match parts with
  | [] => { value := .empty }
  | [part] => part.toNested
  | _ =>
    ⟨.concat (parts.reverse.map fun p => p.value), maxDepth (parts.map Part.toNested) + 1⟩

/-- Alternatives, the last of them first. -/
def choiceParts (parts : List (Nested Pattern)) : Nested Pattern :=
  match parts with
  | [] => { value := .empty }
  | [part] => part
  | _ => ⟨.choice (parts.reverse.map fun p => p.value), maxDepth parts + 1⟩

/-- The letters of the flags, and how each is set. -/
def flagLetters : List (Char × (Bool → Flags → Flags)) :=
  [ ('i', fun b f => { f with ignoreCase := b }), ('m', fun b f => { f with multiLine := b }),
    ('s', fun b f => { f with dotAll := b }), ('u', fun b f => { f with unicode := b }),
    ('U', fun b f => { f with swapGreed := b }), ('R', fun b f => { f with crlf := b }),
    ('x', fun b f => { f with ignoreBlanks := b }) ]

/-- Sets or takes back the flag of a letter; behind a hyphen flags are taken back. -/
def Flags.setLetter? : Bool × Flags → Char → Option (Bool × Flags)
  | (_, f), '-' => some (false, f)
  | (on, f), c => (flagLetters.lookup c).map fun change => (on, change on f)

/-- Sets and takes back flags. Nothing may occur twice, and a hyphen needs a flag behind it. -/
def Flags.set? (f : Flags) (letters : List Char) : Option Flags :=
  if letters.eraseDups.length ≠ letters.length ∨ letters.getLast? = some '-' then none
  else (letters.foldlM Flags.setLetter? (true, f)).map Prod.snd

/-- Whether a character can be part of the name of a group. -/
def isNamePart (c : Char) : Bool :=
  c = '_' || c = '.' || c = '[' || c = ']' || Category.isAlphanumeric c

/-- Reads the name of a group up to and with its closing bracket. It has to be new. -/
def groupName? (names : List (List Char)) (cs : List Char) : Option (List Char × List Char) :=
  let name := cs.takeWhile (· ≠ '>')
  match cs.dropWhile (· ≠ '>'), name with
  | _ :: rest, c :: tail =>
    if (c = '_' ∨ Category.isAlphabetic c) ∧ tail.all isNamePart ∧ name ∉ names then
      some (name, rest)
    else none
  | _, _ => none

/-- What an opening parenthesis begins. -/
inductive Opening where
  /-- Flags for what follows. -/
  | flags (f : Flags)
  /-- A group with its flags, and the names of groups so far. -/
  | group (f : Flags) (names : List (List Char))

/-- Reads what follows an opening parenthesis, up to the first part of the group. -/
def opening? (f : Flags) (names : List (List Char)) (cs : List Char) :
    Option (Opening × List Char) :=
  match f.skip cs with
  | '?' :: 'P' :: '<' :: rest => named rest
  | '?' :: '<' :: rest => named rest
  | '?' :: rest =>
    let isFlag : Char → Bool := fun c => c ≠ ':' ∧ c ≠ ')'
    let letters := rest.takeWhile isFlag
    match rest.dropWhile isFlag with
    | ':' :: rest => (f.set? letters).map fun f => (.group f names, rest)
    | ')' :: rest => if letters = [] then none else (f.set? letters).map fun f => (.flags f, rest)
    | _ => none
  | rest => some (.group f names, rest)
where
  /-- A group with a name. -/
  named (rest : List Char) : Option (Opening × List Char) :=
    (groupName? names rest).map fun (name, rest) => (.group f (name :: names), rest)

/-- Repeats a part as its sign says, rather often if it is greedy. -/
def repetition (sign : Char) (greedy : Bool) (p : Part) : Part :=
  let value := match sign with
    | '*' => star greedy p.value
    | '+' => .plus greedy p.value
    | _ => .optional greedy p.value
  { value, depth := p.depth + 1 }

/-- Reads a character, a dot, an anchor or an escape. -/
def atom? (f : Flags) : List Char → Option (Pattern × List Char)
  | [] => none
  | '.' :: cs => f.dot?.map fun s => (.one s, cs)
  | '^' :: cs => some (.place f.lineStart, cs)
  | '$' :: cs => some (.place f.lineEnd, cs)
  | '\\' :: cs =>
    (escape? f cs).map fun
      | (.char c, rest) => (.one (f.character c), rest)
      | (.set s, rest) => (.one s, rest)
      | (.place p, rest) => (.place p, rest)
  | c :: cs => some (.one (f.character c), cs)

/-- Reads alternatives up to the end of the group: given the names of groups so far, the
alternatives that are complete and the parts of the one that is not. The result has the names of
groups by then and what follows, which begins with the closing parenthesis. The number bounds the
parts. -/
def alternatives? : Nat → Flags → List (List Char) → List (Nested Pattern) → List Part →
    List Char → Option (Nested Pattern × List (List Char) × List Char)
  | 0, _, _, _, _, _ => none
  | n + 1, f, names, alts, parts, cs =>
    match f.skip cs with
    | [] => some (choiceParts (concatParts parts :: alts), names, [])
    | ')' :: rest => some (choiceParts (concatParts parts :: alts), names, ')' :: rest)
    | '|' :: rest => alternatives? n f names (concatParts parts :: alts) [] rest
    | '(' :: rest =>
      match opening? f names rest with
      | none => none
      | some (.flags f, rest) =>
        alternatives? n f names alts ({ value := .empty, repeatable := false } :: parts) rest
      | some (.group g names, rest) =>
        match alternatives? n g names [] [] rest with
        | some (inner, names, ')' :: rest) =>
          let part := { value := inner.value, depth := inner.depth + 1 }
          alternatives? n f names alts (part :: parts) rest
        | _ => none
    | '[' :: rest => do
      let (s, rest) ← class? f rest
      alternatives? n f names alts ({ value := .one s.value, depth := s.depth } :: parts) rest
    | '{' :: _ => none
    | c :: rest =>
      if c = '*' ∨ c = '+' ∨ c = '?' then
        let (marked, rest) := match rest with
          | '?' :: rest => (true, rest)
          | _ => (false, rest)
        match parts with
        | [] => none
        | p :: parts =>
          if p.repeatable then
            alternatives? n f names alts (repetition c (marked == f.swapGreed) p :: parts) rest
          else none
      else do
        let (p, rest) ← atom? f (c :: rest)
        alternatives? n f names alts (.leaf p :: parts) rest

/-- Reads a text as a pattern. -/
def read? (cs : List Char) : Option Pattern :=
  match alternatives? (cs.length + 1) {} [] [] [] cs with
  | some (p, _, []) => if p.depth ≤ depthLimit then some p.value else none
  | _ => none

end ForeignCall.Pattern
