import ForeignCall.Text.Blank
import ForeignCall.Text.Category
import ForeignCall.Text.Folding

/-!
# Patterns

Regular expressions over characters: what they are made of, apart from how they are written and how
a text is searched for them.

A repetition says which of its two choices, another round or none, is tried first. So does an
alternative, by the order of its two sides; the order decides which match of several counts.

## Main definitions

* `CharSet`, `CharSet.contains`: sets of characters;
* `Place`, `Place.holds`: conditions on the characters on both sides of a place in a text;
* `Pattern`, `Pattern.star`, `Pattern.size`: regular expressions.
-/

namespace ForeignCall

/-- A set of characters, by how it is put together. -/
inductive CharSet where
  | empty
  /-- The characters from one to another, both included. -/
  | range (first last : Char)
  | category (c : Category)
  /-- Parts of words. -/
  | word
  /-- Decimal digits. -/
  | digit
  | blank
  | union (s t : CharSet)
  | inter (s t : CharSet)
  | complement (s : CharSet)
  /-- The characters of a set, in any case. -/
  | folded (s : CharSet)
  /-- The characters of a set, where the case of the letters `A` to `Z` does not matter. -/
  | asciiFolded (s : CharSet)
  deriving DecidableEq, Repr

namespace CharSet

/-- Whether a set contains a character. -/
def contains : CharSet → Char → Bool
  | .empty, _ => false
  | .range first last, c => first ≤ c && c ≤ last
  | .category k, c => k.contains c
  | .word, c => Category.isWordPart c
  | .digit, c => Ranges.decimalDigits.contains c
  | .blank, c => Blank.isBlank c
  | .union s t, c => s.contains c || t.contains c
  | .inter s t, c => s.contains c && t.contains c
  | .complement s, c => !s.contains c
  | .folded s, c => (Folding.variants c).any fun d => s.contains d
  | .asciiFolded s, c => (Folding.asciiVariants c).any fun d => s.contains d

/-- A single character. -/
def single (c : Char) : CharSet := .range c c

/-- All characters. -/
def all : CharSet := .complement .empty

/-- What is in the first set and not in the second. -/
def diff (s t : CharSet) : CharSet := .inter s (.complement t)

/-- What is in one of two sets and not in the other. -/
def symmDiff (s t : CharSet) : CharSet := .union (s.diff t) (t.diff s)

/-- The union of some ranges. -/
def ofRanges (ranges : List (Char × Char)) : CharSet :=
  ranges.foldr (fun r s => .union (.range r.1 r.2) s) .empty

end CharSet

/-- A condition on a place in a text. -/
inductive Place where
  | textStart
  | textEnd
  /-- The beginning of a line; the flag tells whether a carriage return ends lines, too. -/
  | lineStart (crlf : Bool)
  | lineEnd (crlf : Bool)
  /-- The beginning or the end of a word. -/
  | wordEdge
  | noWordEdge
  | wordStart
  | wordEnd
  deriving DecidableEq, Repr

namespace Place

/-- Whether there is a character, and it is a letter, a digit or `_`. -/
def isWordChar (c : Option Char) : Bool :=
  c.any fun c => c.isAlphanum || c == '_'

/-- Whether a condition holds between two characters, either of which may be missing. A carriage
return and a line feed behind it have no line end between them. -/
def holds (before after : Option Char) : Place → Bool
  | .textStart => before.isNone
  | .textEnd => after.isNone
  | .lineStart crlf =>
    before.isNone || before == some '\n' ||
      (crlf && before == some '\r' && after != some '\n')
  | .lineEnd crlf =>
    after.isNone ||
      if crlf then after == some '\r' || (after == some '\n' && before != some '\r')
      else after == some '\n'
  | .wordEdge => isWordChar before != isWordChar after
  | .noWordEdge => isWordChar before == isWordChar after
  | .wordStart => !isWordChar before && isWordChar after
  | .wordEnd => isWordChar before && !isWordChar after

end Place

/-- A regular expression. -/
inductive Pattern where
  /-- The empty text. -/
  | empty
  /-- One character of a set. -/
  | one (s : CharSet)
  /-- The empty text, where a condition holds. -/
  | place (p : Place)
  | seq (a b : Pattern)
  /-- Either of two patterns, the first of them rather than the second. -/
  | alt (a b : Pattern)
  /-- A pattern or nothing; a greedy one is tried first. -/
  | optional (greedy : Bool) (a : Pattern)
  /-- A pattern once or several times. -/
  | plus (greedy : Bool) (a : Pattern)
  /-- What follows a round of `plus`: further rounds or none. -/
  | more (greedy : Bool) (a : Pattern)
  deriving DecidableEq, Repr

namespace Pattern

/-- A pattern any number of times. -/
def star (greedy : Bool) (a : Pattern) : Pattern := .optional greedy (.plus greedy a)

/-- The number of nodes of a pattern. -/
def size : Pattern → Nat
  | .empty | .one _ | .place _ => 1
  | .seq a b | .alt a b => a.size + b.size + 1
  | .optional _ a | .plus _ a | .more _ a => a.size + 1

/-- Patterns one after another. -/
def concat (ps : List Pattern) : Pattern :=
  match ps with
  | [] => .empty
  | [p] => p
  | p :: ps => .seq p (concat ps)

/-- One of some patterns, an earlier one rather than a later one. -/
def choice (ps : List Pattern) : Pattern :=
  match ps with
  | [] => .empty
  | [p] => p
  | p :: ps => .alt p (choice ps)

end Pattern

end ForeignCall
