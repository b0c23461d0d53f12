import ForeignCall.Pattern.Atom

/-!
# Classes of patterns

Sets of characters in brackets. Between the brackets stand characters, ranges, escapes, classes with
a name, and further classes; `^` in front takes what is not in the set. Two sets can be joined by
`&&` for what is in both, by `--` for what is in the first alone, and by `~~` for what is in one of
them; these bind less than standing side by side, and from left to right.

## Main definitions

* `Pattern.Nested`: a set or a pattern, and how deep it is nested;
* `Pattern.namedClass?`: reads a class with a name;
* `Pattern.class?`: reads a class behind its opening bracket.
-/

namespace ForeignCall.Pattern

/-- What was read, and how many levels of structure lie inside one another in it. -/
structure Nested (α : Type) where
  value : α
  depth : Nat := 0
  deriving DecidableEq, Repr

/-- The greatest depth of some parts. -/
def maxDepth {α : Type} (parts : List (Nested α)) : Nat :=
  parts.foldl (fun n p => max n p.depth) 0

/-- The classes with a name. -/
def namedClasses : List (String × CharSet) :=
  [ ("alnum", .ofRanges [('0', '9'), ('A', 'Z'), ('a', 'z')]),
    ("alpha", .ofRanges [('A', 'Z'), ('a', 'z')]), ("ascii", .range '\x00' '\x7F'),
    ("blank", .ofRanges [('\t', '\t'), (' ', ' ')]),
    ("cntrl", .ofRanges [('\x00', '\x1F'), ('\x7F', '\x7F')]), ("digit", asciiDigits),
    ("graph", .range '!' '~'), ("lower", .range 'a' 'z'), ("print", .range ' ' '~'),
    ("punct", .ofRanges [('!', '/'), (':', '@'), ('[', '\x60'), ('\x7B', '~')]),
    ("space", asciiBlanks), ("upper", .range 'A' 'Z'), ("word", asciiWord),
    ("xdigit", .ofRanges [('0', '9'), ('A', 'F'), ('a', 'f')]) ]

/-- Reads a class with a name behind its opening bracket: whether it is negated, its set, and the
rest of the text. What has not the form of one is none. -/
def namedClass? : List Char → Option (Bool × CharSet × List Char)
  | ':' :: cs =>
    let (negated, cs) := match cs with
      | '^' :: cs => (true, cs)
      | _ => (false, cs)
    match namedClasses.lookup (String.ofList (cs.takeWhile (· ≠ ':'))), cs.dropWhile (· ≠ ':') with
    | some s, ':' :: ']' :: rest => some (negated, s, rest)
    | _, _ => none
  | _ => none

/-- Reads a character or an escape inside a class. -/
def classAtom? (f : Flags) : List Char → Option (Atom × List Char)
  | [] => none
  | '\\' :: cs => escape? f cs
  | c :: cs => some (.char c, cs)

/-- Whether a character can be in a set. -/
def isMember (f : Flags) (c : Char) : Bool :=
  f.unicode || c.toNat < 0x80

/-- The set that an atom stands for inside a class. -/
def Atom.set? (f : Flags) : Atom → Option CharSet
  | .char c => if isMember f c then some (.single c) else none
  | .set s => some s
  | .place _ => none

/-- The range between two atoms, which have to be characters in their order. -/
def range? (f : Flags) : Atom → Atom → Option CharSet
  | .char a, .char b => if isMember f a ∧ isMember f b ∧ a ≤ b then some (.range a b) else none
  | _, _ => none

/-- Reads a character, an escape or a range. A hyphen in front of the closing bracket or of another
hyphen makes no range. -/
def classRange? (f : Flags) (cs : List Char) : Option (CharSet × List Char) := do
  let (a, cs) ← classAtom? f cs
  match f.skip cs with
  | '-' :: rest =>
    let behind := f.skip rest
    if behind.head? = some ']' ∨ behind.head? = some '-' then return (← a.set? f, '-' :: rest)
    else
      let (b, cs) ← classAtom? f behind
      return (← range? f a b, cs)
  | rest => return (← a.set? f, rest)

/-- The ways to join two sets. -/
inductive SetOperator where
  | inter
  | diff
  | symmDiff
  deriving DecidableEq, Repr

/-- The set that an operator makes of two. -/
def SetOperator.apply : SetOperator → CharSet → CharSet → CharSet
  | .inter => .inter
  | .diff => CharSet.diff
  | .symmDiff => CharSet.symmDiff

/-- Sets side by side, the last of them first. -/
def unite (parts : List (Nested CharSet)) : Nested CharSet :=
  match parts with
  | [] => { value := .empty }
  | [part] => part
  | _ => ⟨parts.foldl (fun s p => .union p.value s) .empty, maxDepth parts + 1⟩

/-- What stands in front of an operator, joined with what follows it. -/
def joinSets (f : Flags) (left : Option (SetOperator × Nested CharSet)) (right : Nested CharSet) :
    Nested CharSet :=
  match left with
  | none => right
  | some (op, left) =>
    ⟨op.apply (f.fold left.value) (f.fold right.value), max left.depth right.depth + 1⟩

/-- Reads hyphens at the beginning of a class; the number bounds them. -/
def leadingHyphens (f : Flags) : Nat → List Char → List (Nested CharSet) × List Char
  | n + 1, '-' :: cs =>
    let (parts, rest) := leadingHyphens f n (f.skip cs)
    (⟨.single '-', 0⟩ :: parts, rest)
  | _, cs => ([], cs)

/-- Reads the beginning of a class behind its opening bracket: whether it is negated, and the
hyphens, or else the closing bracket, that stand for themselves there. -/
def openClass (f : Flags) (cs : List Char) : Bool × List (Nested CharSet) × List Char :=
  let cs := f.skip cs
  let (negated, cs) := match cs with
    | '^' :: cs => (true, f.skip cs)
    | _ => (false, cs)
  match leadingHyphens f cs.length cs with
  | ([], ']' :: rest) => (negated, [⟨.single ']', 0⟩], f.skip rest)
  | (parts, rest) => (negated, parts, rest)

/-- The class of what stands between brackets. -/
def closeClass? (f : Flags) (negated : Bool) (inner : Nested CharSet) :
    Option (Nested CharSet) := do
  let s := f.fold inner.value
  return ⟨← if negated then f.complement? s else some s, inner.depth + 1⟩

/-- Reads what stands between brackets, up to and with the closing one: given what stands in front
of the last operator, and the parts behind it. The number bounds the parts. -/
def classBody? (f : Flags) : Nat → Option (SetOperator × Nested CharSet) →
    List (Nested CharSet) → List Char → Option (Nested CharSet × List Char)
  | 0, _, _, _ => none
  | n + 1, left, parts, cs =>
    let joined := joinSets f left (unite parts)
    match f.skip cs with
    | [] => none
    | ']' :: rest => some (joined, rest)
    | '&' :: '&' :: rest => classBody? f n (some (.inter, joined)) [] rest
    | '-' :: '-' :: rest => classBody? f n (some (.diff, joined)) [] rest
    | '~' :: '~' :: rest => classBody? f n (some (.symmDiff, joined)) [] rest
    | '[' :: rest =>
      match namedClass? rest with
      | some (negated, s, rest) => do
        let s := f.fold s
        let s ← if negated then f.complement? s else some s
        classBody? f n left (⟨s, 0⟩ :: parts) rest
      | none => do
        let (negated, inner, rest) := openClass f rest
        let (inner, rest) ← classBody? f n none inner rest
        classBody? f n left ((← closeClass? f negated inner) :: parts) rest
    | rest => do
      let (s, rest) ← classRange? f rest
      classBody? f n left (⟨s, 0⟩ :: parts) rest

/-- Reads a class behind its opening bracket. -/
def class? (f : Flags) (cs : List Char) : Option (Nested CharSet × List Char) := do
  let (negated, parts, rest) := openClass f cs
  let (inner, rest) ← classBody? f (rest.length + 1) none parts rest
  return (← closeClass? f negated inner, rest)

end ForeignCall.Pattern
