import ForeignCall.Number.Numeral
import ForeignCall.Pattern

/-!
# Atoms of patterns

The smallest parts of a written pattern: single characters, the dot, the anchors, and whatever
begins with a backslash. What they stand for depends on the flags that are set where they stand.

Without the Unicode flag sets hold characters below 128 only, so what would match any other is
refused; with it the conditions on words are refused, because words have no ASCII ends then.

## Main definitions

* `Pattern.Flags`, `Pattern.Flags.skip`: the flags, and the blanks and comments that one of them
  makes meaningless;
* `Pattern.Atom`: what an escape stands for;
* `Pattern.escape?`: reads an escape;
* `Flags.character`, `Flags.dot?`, `Flags.lineStart`, `Flags.lineEnd`: the other atoms.
-/

namespace ForeignCall.Pattern

/-- The flags that change the meaning of what follows them. -/
structure Flags where
  /-- Case does not matter. -/
  ignoreCase : Bool := false
  /-- The anchors stand for the ends of lines, too. -/
  multiLine : Bool := false
  /-- The dot stands for a line feed, too. -/
  dotAll : Bool := false
  /-- A repetition is greedy if and only if it is marked. -/
  swapGreed : Bool := false
  /-- A carriage return ends lines, too. -/
  crlf : Bool := false
  /-- Blanks mean nothing, and comments run from `#` to the end of the line. -/
  ignoreBlanks : Bool := false
  unicode : Bool := true
  deriving DecidableEq, Repr

/-- Drops blanks and comments; the flag tells whether the text begins inside a comment. -/
def skipBlanks : Bool → List Char → List Char
  | _, [] => []
  | true, c :: cs => skipBlanks (c ≠ '\n') cs
  | false, c :: cs =>
    if Blank.isBlank c then skipBlanks false cs
    else if c = '#' then skipBlanks true cs
    else c :: cs

namespace Flags

/-- Drops what means nothing in front of the next part of a pattern. -/
def skip (f : Flags) (cs : List Char) : List Char :=
  if f.ignoreBlanks then skipBlanks false cs else cs

/-- A set, in any case if case does not matter. -/
def fold (f : Flags) (s : CharSet) : CharSet :=
  if f.ignoreCase then if f.unicode then .folded s else .asciiFolded s else s

/-- The set of a character that stands for itself. -/
def character (f : Flags) (c : Char) : CharSet :=
  f.fold (.single c)

/-- The set of the dot. -/
def dot? (f : Flags) : Option CharSet :=
  if ¬f.unicode then none
  else if f.dotAll then some .all
  else if f.crlf then some (.complement (.union (.single '\r') (.single '\n')))
  else some (.complement (.single '\n'))

/-- The condition of the anchor at the beginning. -/
def lineStart (f : Flags) : Place :=
  if f.multiLine then .lineStart f.crlf else .textStart

/-- The condition of the anchor at the end. -/
def lineEnd (f : Flags) : Place :=
  if f.multiLine then .lineEnd f.crlf else .textEnd

/-- The complement of a set, which exists within Unicode alone. -/
def complement? (f : Flags) (s : CharSet) : Option CharSet :=
  if f.unicode then some (.complement s) else none

end Flags

/-- What an escape stands for. -/
inductive Atom where
  | char (c : Char)
  | set (s : CharSet)
  | place (p : Place)
  deriving DecidableEq, Repr

/-- The decimal digits below 128. -/
def asciiDigits : CharSet := .range '0' '9'

/-- The blanks below 128. -/
def asciiBlanks : CharSet := .union (.range '\t' '\r') (.single ' ')

/-- The letters below 128, the digits and `_`. -/
def asciiWord : CharSet := .ofRanges [('0', '9'), ('A', 'Z'), ('a', 'z'), ('_', '_')]

/-- The classes with a letter of their own, for Unicode and for ASCII. -/
def letterClasses : List (Char × CharSet × CharSet) :=
  [('d', .digit, asciiDigits), ('s', .blank, asciiBlanks), ('w', .word, asciiWord)]

/-- The characters without a sign of their own. -/
def specials : List (Char × Char) :=
  [('a', '\x07'), ('f', '\x0C'), ('t', '\t'), ('n', '\n'), ('r', '\r'), ('v', '\x0B')]

/-- The conditions that hold in any text. -/
def anchors : List (Char × Place) := [('A', .textStart), ('z', .textEnd)]

/-- The conditions on words. -/
def wordPlaces : List (Char × Place) :=
  [('b', .wordEdge), ('B', .noWordEdge), ('<', .wordStart), ('>', .wordEnd)]

/-- The numbers of digits behind the letters that begin a hexadecimal escape. -/
def hexLengths : List (Char × Nat) := [('x', 2), ('u', 4), ('U', 8)]

/-- Whether a character that is no letter or digit may be escaped to stand for itself. -/
def isEscapable (c : Char) : Bool :=
  c.toNat < 0x80 && !c.isAlphanum && c != '<' && c != '>'

/-- Reads some hexadecimal digits. -/
def hexDigits? (f : Flags) : Nat → Nat → List Char → Option (Nat × List Char)
  | 0, m, cs => some (m, cs)
  | n + 1, m, cs =>
    match f.skip cs with
    | [] => none
    | c :: rest => (Number.Numeral.hexDigit? c).bind fun d => hexDigits? f n (m * 16 + d) rest

/-- The character of a number of some hexadecimal digits. Without Unicode two digits stand for a
byte, which is a character below 128 only. -/
def hexChar? (f : Flags) (length n : Nat) : Option Char :=
  if ¬f.unicode ∧ length = 2 ∧ 0x80 ≤ n then none
  else if n.isValidChar then some (Char.ofNat n)
  else none

/-- Reads the category behind `p` or `P`; the flag tells which of the two it was. -/
def category? (f : Flags) (negated : Bool) (cs : List Char) : Option (Atom × List Char) :=
  match f.skip cs with
  | [] => none
  | c :: rest => do
    let s := f.fold (.category (← Category.ofLetter? c))
    if f.unicode then some (.set (if negated then .complement s else s), rest) else none

/-- Reads what follows a backslash. -/
def escape? (f : Flags) : List Char → Option (Atom × List Char)
  | [] => none
  | c :: cs =>
    match hexLengths.lookup c with
    | some n => do
      let (m, rest) ← hexDigits? f n 0 cs
      return (.char (← hexChar? f n m), rest)
    | none =>
      if c = 'p' ∨ c = 'P' then category? f (c = 'P') cs
      else
        match letterClasses.lookup (Ascii.lower c), specials.lookup c, anchors.lookup c,
          wordPlaces.lookup c with
        | some (unicode, ascii), _, _, _ => do
          let s := if f.unicode then unicode else ascii
          return (.set (← if c.isUpper then f.complement? s else some s), cs)
        | none, some special, _, _ => some (.char special, cs)
        | none, none, some anchor, _ => some (.place anchor, cs)
        | none, none, none, some edge => if f.unicode then none else some (.place edge, cs)
        | none, none, none, none => if isEscapable c then some (.char c, cs) else none

end ForeignCall.Pattern
