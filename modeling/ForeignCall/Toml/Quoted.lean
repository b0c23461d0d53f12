import ForeignCall.Number.Numeral

/-!
# Quoted texts of TOML

A text stands between quotes on one line, or between triple quotes on several. Between double quotes
a backslash introduces an escape; between single quotes every character stands for itself. Reading
goes in two steps: first the characters up to the closing quotes are split off, then they are
decoded.

## Main definitions

* `isVisible`: the characters that may stand in a text as they are;
* `splitLine?`, `splitLines?`: the characters up to the closing quotes;
* `unescape`: the decoding of escapes;
* `quoted?`: a text in any of the four forms.
-/

namespace ForeignCall.Toml

/-- Blanks inside a line. -/
def isSpace (c : Char) : Bool := c == ' ' || c == '\t'

/-- The characters that may stand in texts and comments: everything but control characters, the tab
excepted. -/
def isVisible (c : Char) : Bool :=
  c == '\t' || (0x20 ≤ c.toNat && c.toNat != 0x7F)

/-- What follows the end of a line. -/
def newline? : List Char → Option (List Char)
  | '\n' :: cs => some cs
  | '\r' :: '\n' :: cs => some cs
  | _ => none

/-- Splits a list of characters at the next quote. With escapes, a quote behind a backslash does not
count. -/
def splitLine? (quote : Char) (hasEscapes : Bool) : List Char → Option (List Char × List Char)
  | [] => none
  | c :: cs =>
    if c = quote then some ([], cs)
    else if hasEscapes ∧ c = '\\' then
      match cs with
      | d :: cs => (splitLine? quote hasEscapes cs).map fun (body, rest) => (c :: d :: body, rest)
      | [] => none
    else (splitLine? quote hasEscapes cs).map fun (body, rest) => (c :: body, rest)

/-- Up to two quotes in front of the closing ones belong to the text. -/
def splitFinalQuotes (quote : Char) : List Char → List Char × List Char
  | a :: b :: cs =>
    if a = quote ∧ b = quote then ([a, b], cs)
    else if a = quote then ([a], b :: cs)
    else ([], a :: b :: cs)
  | [a] => if a = quote then ([a], []) else ([], [a])
  | [] => ([], [])

/-- Splits a list of characters at the next three quotes. -/
def splitLines? (quote : Char) (hasEscapes : Bool) : List Char → Option (List Char × List Char)
  | [] => none
  | c :: cs =>
    if hasEscapes ∧ c = '\\' then
      match cs with
      | d :: cs => (splitLines? quote hasEscapes cs).map fun (body, rest) => (c :: d :: body, rest)
      | [] => none
    else if (c :: cs).take 3 = [quote, quote, quote] then
      some (splitFinalQuotes quote (cs.drop 2))
    else (splitLines? quote hasEscapes cs).map fun (body, rest) => (c :: body, rest)

/-- The character of a code point, if there is one. -/
def charOf? (n : Nat) : Option Char :=
  if h : n.isValidChar then some (Char.ofNatAux n h) else none

/-- The character that a letter stands for behind a backslash. -/
def escaped? (c : Char) : Option Char :=
  [('b', '\x08'), ('t', '\t'), ('n', '\n'), ('f', '\x0c'), ('r', '\r'), ('\"', '\"'),
    ('\\', '\\')].lookup c

/-- The state of decoding between two characters. -/
inductive Decoding where
  | plain
  /-- Behind a backslash. -/
  | escape
  /-- A number of hexadecimal digits is still missing; the others have a value. -/
  | hex (missing value : Nat)
  /-- Behind a backslash and blanks, which only the end of the line may follow. -/
  | lineEnd
  /-- Behind a backslash at the end of a line: blanks and further ends of lines do not count. -/
  | margin
  deriving DecidableEq, Repr

/-- Decodes the characters of a text. Ends of lines are allowed in texts of several lines only. -/
def unescape (isMultiline hasEscapes : Bool) : Decoding → List Char → Option (List Char)
  | .plain, [] => some []
  | .margin, [] => some []
  | _, [] => none
  | .hex n v, c :: cs =>
    (Number.Numeral.hexDigit? c).bind fun d =>
      if n ≤ 1 then
        (charOf? (v * 16 + d)).bind fun x =>
          (unescape isMultiline hasEscapes .plain cs).map (x :: ·)
      else unescape isMultiline hasEscapes (.hex (n - 1) (v * 16 + d)) cs
  | .escape, c :: cs =>
    if c = 'u' then unescape isMultiline hasEscapes (.hex 4 0) cs
    else if c = 'U' then unescape isMultiline hasEscapes (.hex 8 0) cs
    else if isMultiline ∧ c = '\n' then unescape isMultiline hasEscapes .margin cs
    else if isMultiline ∧ c = '\r' ∧ cs.head? = some '\n' then
      unescape isMultiline hasEscapes .lineEnd cs
    else if isMultiline ∧ isSpace c then unescape isMultiline hasEscapes .lineEnd cs
    else
      (escaped? c).bind fun x => (unescape isMultiline hasEscapes .plain cs).map (x :: ·)
  | .lineEnd, c :: cs =>
    if c = '\n' then unescape isMultiline hasEscapes .margin cs
    else if isSpace c ∨ (c = '\r' ∧ cs.head? = some '\n') then
      unescape isMultiline hasEscapes .lineEnd cs
    else none
  | state, c :: cs =>
    if state = .margin ∧ (isSpace c ∨ c = '\n' ∨ (c = '\r' ∧ cs.head? = some '\n')) then
      unescape isMultiline hasEscapes .margin cs
    else if hasEscapes ∧ c = '\\' then unescape isMultiline hasEscapes .escape cs
    else if isMultiline ∧ c = '\r' ∧ cs.head? = some '\n' then
      unescape isMultiline hasEscapes .plain cs
    else if isVisible c ∨ (isMultiline ∧ c = '\n') then
      (unescape isMultiline hasEscapes .plain cs).map (c :: ·)
    else none

/-- Decodes a text and passes on what follows it. -/
def decoded (isMultiline hasEscapes : Bool) (p : List Char × List Char) :
    Option (String × List Char) :=
  (unescape isMultiline hasEscapes .plain p.1).map fun body => (String.ofList body, p.2)

/-- Reads a text on one line, behind its opening quote. -/
def quotedLine? (quote : Char) (hasEscapes : Bool) (cs : List Char) : Option (String × List Char) :=
  (splitLine? quote hasEscapes cs).bind (decoded false hasEscapes)

/-- Reads a text of several lines, behind its opening quotes. The end of the first line does not
count when nothing stands in front of it. -/
def quotedLines? (quote : Char) (hasEscapes : Bool) (cs : List Char) :
    Option (String × List Char) :=
  (splitLines? quote hasEscapes ((newline? cs).getD cs)).bind (decoded true hasEscapes)

/-- Reads a text in any form. -/
def quoted? : List Char → Option (String × List Char)
  | '\"' :: '\"' :: '\"' :: cs => quotedLines? '\"' true cs
  | '\"' :: cs => quotedLine? '\"' true cs
  | '\'' :: '\'' :: '\'' :: cs => quotedLines? '\'' false cs
  | '\'' :: cs => quotedLine? '\'' false cs
  | _ => none

end ForeignCall.Toml
