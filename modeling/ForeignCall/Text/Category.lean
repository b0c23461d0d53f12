import ForeignCall.Text.Ranges

/-!
# Categories of characters

The general categories of characters, and the classes that are made of them: alphabetic characters,
alphanumeric ones, and the characters of words.

## Main definitions

* `Category`, `Category.contains`: the seven groups of general categories;
* `Category.isAlphabetic`, `Category.isAlphanumeric`, `Category.isWordPart`: classes of characters.
-/

namespace ForeignCall

/-- The groups of general categories. -/
inductive Category where
  | letter
  | mark
  | number
  | punctuation
  | symbol
  | separator
  /-- Controls, and whatever is in no other group. -/
  | other
  deriving DecidableEq, Repr

namespace Category

/-- Whether a character is a letter, or is used like one. -/
def isAlphabetic (c : Char) : Bool :=
  Ranges.letters.contains c || Ranges.letterNumbers.contains c ||
    Ranges.alphabeticMarks.contains c || Ranges.alphabeticSymbols.contains c

/-- Whether a character is a digit or another number. -/
def isNumber (c : Char) : Bool :=
  Ranges.decimalDigits.contains c || Ranges.letterNumbers.contains c ||
    Ranges.otherNumbers.contains c

/-- Whether a character is alphabetic or a number. -/
def isAlphanumeric (c : Char) : Bool :=
  isAlphabetic c || isNumber c

/-- Whether a character is one of the two that join or separate letters without being seen. -/
def isJoiner (c : Char) : Bool :=
  c.toNat == 0x200C || c.toNat == 0x200D

/-- Whether a character is a part of words: alphabetic, a mark, a decimal digit, a connector or a
joiner. -/
def isWordPart (c : Char) : Bool :=
  isAlphabetic c || Ranges.marks.contains c || Ranges.decimalDigits.contains c ||
    Ranges.connectors.contains c || isJoiner c

/-- Whether a character is in a group of categories. -/
def contains : Category → Char → Bool
  | .letter, c => Ranges.letters.contains c
  | .mark, c => Ranges.marks.contains c
  | .number, c => isNumber c
  | .punctuation, c => Ranges.punctuation.contains c
  | .symbol, c => Ranges.symbols.contains c
  | .separator, c => Ranges.separators.contains c
  | .other, c =>
    !(Ranges.letters.contains c || Ranges.marks.contains c || isNumber c ||
      Ranges.punctuation.contains c || Ranges.symbols.contains c || Ranges.separators.contains c)

/-- The group that a letter stands for, in either case. -/
def ofLetter? (c : Char) : Option Category :=
  [('c', other), ('l', letter), ('m', mark), ('n', number), ('p', punctuation), ('s', symbol),
    ('z', separator)].lookup c.toLower

end Category

end ForeignCall
