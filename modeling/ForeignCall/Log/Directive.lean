import ForeignCall.Log.Level
import ForeignCall.Number.Decimal
import ForeignCall.Pattern.Reader
import ForeignCall.Pattern.Search
import ForeignCall.Text.Utf8

/-!
# Directives

One rule of a log filter. It sets a threshold for the lines of all targets that start with its own.
It may ask for lines with a certain field, and it may be about calls: about their span by its name,
or about the value of a field of the span.

A directive is written `target=level`, `target[span]=level`, `target[{field}]=level`,
`target[span{field=value}]=level`, or as a level alone; each part may be missing, and a directive
without a level lets everything through. There are no commas in it, because commas stand between
directives.

## Main definitions

* `FieldValue`, `FieldCondition`: what a directive asks of a field;
* `Directive`, `Directive.threshold?`: a directive, and the thresholds that words stand for;
* `Directive.Fault`: why a text is no directive;
* `Directive.read`: reads a directive.
-/

namespace ForeignCall

/-- A value that a field may be asked for. -/
inductive FieldValue where
  /-- A truth value or a number. The fields of spans are texts, which are equal to none of them. -/
  | constant (text : List Char)
  /-- A pattern, with its text. -/
  | pattern (text : List Char) (p : Pattern)
  deriving DecidableEq, Repr

namespace FieldValue

/-- Whether a text is a number, an infinity, or the word for what is no number. -/
def isNumber (cs : List Char) : Bool :=
  (Number.Decimal.read? cs).isSome ||
    ["inf", "infinity", "nan"].any fun word =>
      Ascii.equal word.toList (Number.splitSign cs).2

/-- Reads a value: a truth value, a number, or else a pattern. -/
def ofChars? (cs : List Char) : Option FieldValue :=
  if cs = "true".toList ∨ cs = "false".toList ∨ isNumber cs then some (.constant cs)
  else (Pattern.read? cs).map (.pattern cs)

/-- Whether a text is such a value. The match of a pattern may begin anywhere in the text, and has
to reach its end. -/
def accepts : FieldValue → List Char → Bool
  | .constant _, _ => false
  | .pattern _ p, text => p.matchesEnd text

end FieldValue

/-- A field that a directive asks for, and what its value has to be. -/
structure FieldCondition where
  name : List Char
  value : Option FieldValue := none
  deriving DecidableEq, Repr

/-- Reads a condition: the name of a field, or a name and a value with an equals sign between them.
What follows a second equals sign does not matter. -/
def FieldCondition.ofChars? (cs : List Char) : Option FieldCondition :=
  let name := cs.takeWhile (· ≠ '=')
  match cs.dropWhile (· ≠ '=') with
  | [] => some { name }
  | _ :: rest =>
    (FieldValue.ofChars? (rest.takeWhile (· ≠ '='))).map fun value => { name, value := some value }

/-- One rule of a filter. -/
structure Directive where
  /-- What the targets start with that the rule is about. -/
  target : List Char := []
  /-- The name of the span that the rule is about, if it is about a certain span. -/
  span : Option (List Char) := none
  /-- The field that the rule asks for. -/
  field : Option FieldCondition := none
  /-- The number of the least important level that is let through; zero lets nothing through. -/
  threshold : Nat
  deriving DecidableEq, Repr

/-- A text that is to be read as a directive. The blanks around it do not count where a part of it
is looked for, but they do count where the part is cut out: each blank in front moves the cut by its
own width. -/
structure Written where
  text : List Char
  deriving DecidableEq, Repr

namespace Directive

/-- Why a text is no directive. -/
inductive Fault where
  /-- It has not the form of one. -/
  | malformed
  /-- A part of it would have to be cut out inside a character. -/
  | brokenCharacter
  deriving DecidableEq, Repr

/-- The threshold that a level sets. -/
def ofLevel (l : Level) : Directive := { threshold := l.number }

/-- The threshold of a word: the name or the number of a level, or the word that lets nothing
through. -/
def threshold? (cs : List Char) : Option Nat :=
  if Ascii.equal cs "off".toList ∨ Level.numberOfChars? cs = some 0 then some 0
  else (Level.ofWord? cs).map Level.number

/-- Whether a target can begin with a character. -/
def canBegin (c : Char) : Bool :=
  c == '-' || c == ':' || c == '_' || Category.isAlphanumeric c

end Directive

namespace Written

open Directive (Fault)

/-- The text without the blanks around it. -/
def body (w : Written) : List Char := Blank.trim w.text

/-- The place where a rest of the body begins, in bytes. -/
def position (w : Written) (rest : List Char) : Nat :=
  Utf8.width w.body - Utf8.width rest

/-- Cuts a text behind a number of bytes. -/
def cut (n : Nat) (cs : List Char) : Except Fault (List Char × List Char) :=
  match Utf8.splitAt? n cs with
  | some parts => .ok parts
  | none => .error .brokenCharacter

/-- What begins where one rest of the body does, up to where another one does. -/
def between (w : Written) (first last : List Char) : Except Fault (List Char) := do
  let (_, rest) ← cut (w.position first) w.text
  let (part, _) ← cut (w.position last - w.position first) rest
  return part

/-- What begins where a rest of the body does, up to the end. -/
def onward (w : Written) (first : List Char) : Except Fault (List Char) := do
  let (_, rest) ← cut (w.position first) w.text
  return rest

/-- Reads what follows the target and the span of a directive: nothing, or the level. -/
def readThreshold (w : Written) (d : Directive) : List Char → Except Fault Directive
  | [] => .ok { d with threshold := Level.trace.number }
  | '=' :: rest => do
    let word ← w.onward rest
    if word = [] then return { d with threshold := Level.trace.number }
    match Directive.threshold? word with
    | some threshold => return { d with threshold }
    | none => throw .malformed
  | _ => .error .malformed

/-- Reads a field behind its opening brace, and what follows it. -/
def readField (w : Written) (d : Directive) (cs : List Char) : Except Fault Directive := do
  match cs.dropWhile (· ≠ '\x7D') with
  | [] => throw .malformed
  | brace :: rest =>
    let text ← w.between cs (brace :: rest)
    match if text = [] then none else FieldCondition.ofChars? text, rest with
    | some field, ']' :: rest => w.readThreshold { d with field := some field } rest
    | _, _ => throw .malformed

/-- Reads a span behind its opening bracket, and what follows it. -/
def readSpan (w : Written) (d : Directive) (cs : List Char) : Except Fault Directive := do
  match cs.dropWhile (fun c => c ≠ ']' ∧ c ≠ '\x7B') with
  | [] => throw .malformed
  | bracket :: rest =>
    let span ← w.between cs (bracket :: rest)
    if bracket = ']' then w.readThreshold { d with span := some span } rest
    else w.readField { d with span := if span = [] then none else some span } rest

/-- Reads a directive. A word alone is a level if it is the name of one, and otherwise a target. -/
def read (w : Written) : Except Fault Directive :=
  match w.body with
  | [] => .error .malformed
  | '[' :: rest => w.readSpan { threshold := 0 } rest
  | c :: rest =>
    if Directive.canBegin c then
      match (c :: rest).dropWhile (fun c => c ≠ '=' ∧ c ≠ '[') with
      | [] => do
        let word ← w.onward (c :: rest)
        match Directive.threshold? word with
        | some threshold => return { threshold }
        | none => return { target := word, threshold := Level.trace.number }
      | sign :: more => do
        let target ← w.between (c :: rest) (sign :: more)
        if sign = '[' then w.readSpan { target, threshold := 0 } more
        else w.readThreshold { target, threshold := 0 } (sign :: more)
    else .error .malformed

end Written

/-- Reads a text as a directive. -/
def Directive.read (cs : List Char) : Except Fault Directive :=
  Written.read ⟨cs⟩

end ForeignCall
