import ForeignCall.Variable

/-!
# Function references

The function operand of a call names native code by address or by symbol. A text with a backslash is
a library and a symbol, split at the last backslash. Any other text that starts like a number is an
address, and what remains is a bare symbol. The null address and fractional numbers name nothing.

## Main definitions

* `Reference`, `Reference.ofValue`: a reference and how it is read;
* `InvalidFunction`: an operand that names no function.
-/

namespace ForeignCall

/-- A reference to native code. -/
inductive Reference where
  | address (a : UInt64)
  /-- A symbol, with the library that exports it if one is given. -/
  | symbol (library : Option String) (name : String)
  deriving DecidableEq, Repr

/-- A function operand that names no function. -/
structure InvalidFunction where
  text : String
  deriving DecidableEq, Repr

/-- The description of an operand that names no function. -/
def InvalidFunction.message (e : InvalidFunction) : String :=
  "Invalid function reference: '" ++ e.text ++ "'"

namespace Reference

/-- Splits a list of characters at the last occurrence of a character. -/
def splitLast? (c : Char) (cs : List Char) : Option (List Char × List Char) :=
  match cs.reverse.dropWhile (· ≠ c) with
  | [] => none
  | _ :: front => some (front.reverse, (cs.reverse.takeWhile (· ≠ c)).reverse)

/-- Whether a text that starts with this character is meant as a number. -/
def startsNumber (c : Char) : Bool :=
  c.isDigit || c == '-' || c == '+'

/-- Reads a function reference from its characters, which have no blanks around them. -/
def ofTrimmed (cs : List Char) : Except InvalidFunction Reference :=
  let invalid : Except InvalidFunction Reference := .error ⟨String.ofList cs⟩
  match splitLast? '\\' cs, cs with
  | some (library, name), _ =>
    if library = [] ∨ name = [] then invalid
    else .ok (.symbol (some (String.ofList library)) (String.ofList name))
  | none, [] => invalid
  | none, c :: _ =>
    if startsNumber c then
      match Number.Numeral.integerOfChars? cs with
      | none => invalid
      | some 0 => invalid
      | some a => .ok (.address (UInt64.ofInt a))
    else .ok (.symbol none (String.ofList cs))

/-- Reads the function operand. -/
def ofValue (v : Value) : Except InvalidFunction Reference :=
  match v with
  | .int i => if i = 0 then .error ⟨v.toText⟩ else .ok (.address i.toUInt64)
  | .real _ => .error ⟨v.toText⟩
  | .text s => ofTrimmed (Blank.trim s.toList)

end Reference

end ForeignCall
