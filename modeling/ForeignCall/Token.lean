import ForeignCall.Kind
import ForeignCall.Text.Ascii
import ForeignCall.Text.Blank

/-!
# Type tokens

A type token declares one argument: an optional `U`, the name of a kind, and an optional mark for
passing by address. An empty name stands for `Int`. A return token may have the word `CDecl` in
front.

## Main definitions

* `Token`: what a type token declares;
* `Token.parse`: the declaration that a text makes, or the offending text;
* `Token.parseReturn`: the declaration and the convention of a return token;
* `Token.parseReturnNamed`: the same for a variable, whose name counts when its contents do not.
-/

namespace ForeignCall

/-- The declaration of an argument or of the returned value. -/
structure Token where
  kind : Kind
  isUnsigned : Bool := false
  byAddress : Bool := false
  deriving DecidableEq, Repr

/-- A text that is no type token. -/
structure InvalidToken where
  token : String
  deriving DecidableEq, Repr

/-- The description of a text that is no type token. -/
def InvalidToken.message (e : InvalidToken) : String :=
  "Invalid type token: '" ++ e.token ++ "'"

namespace Token

/-- The return type of a call that declares none. -/
def plainInt : Token := { kind := .int32 }

/-- The kind that a name declares. Case does not matter, and no name at all means `Int`. -/
def kindOfName? (name : List Char) : Option Kind :=
  if name = [] then some .int32
  else Kind.all.find? fun k => Ascii.equal k.name.toList name

/-- Splits off the mark of an unsigned type. -/
def splitUnsigned : List Char → Bool × List Char
  | c :: cs => if c = 'U' ∨ c = 'u' then (true, cs) else (false, c :: cs)
  | [] => (false, [])

/-- Whether a character, as the last one, asks for passing by address. -/
def isAddressMark (c : Char) : Bool :=
  c == '*' || c == 'p' || c == 'P'

/-- Splits off the mark of passing by address, with the blanks in front of it. -/
def splitAddress (cs : List Char) : Bool × List Char :=
  match cs.getLast? with
  | some c => if isAddressMark c then (true, Blank.trimEnd cs.dropLast) else (false, cs)
  | none => (false, cs)

/-- Reads a type token from its characters. -/
def ofChars? (cs : List Char) : Option Token :=
  let (isUnsigned, rest) := splitUnsigned (Blank.trim cs)
  let (byAddress, name) := splitAddress rest
  (kindOfName? name).map fun kind => { kind, isUnsigned, byAddress }

/-- Reads a type token. The error carries the text as it was given. -/
def parse (token : String) : Except InvalidToken Token :=
  match ofChars? token.toList with
  | some t => .ok t
  | none => .error ⟨token⟩

/-- The word in front of a return type that selects the C convention. -/
def conventionWord : List Char := "CDecl".toList

/-- Splits off the word `CDecl`, in any case, with the blanks around it. -/
def splitConvention (cs : List Char) : Convention × List Char :=
  let cs := Blank.trimStart cs
  let n := conventionWord.length
  if Ascii.equal (cs.take n) conventionWord then (.c, Blank.trimStart (cs.drop n))
  else (.standard, cs)

/-- Reads a return token. The error carries the whole text as it was given. -/
def parseReturn (token : String) : Except InvalidToken (Token × Convention) :=
  let (convention, rest) := splitConvention token.toList
  match ofChars? rest with
  | some t => .ok (t, convention)
  | none => .error ⟨token⟩

/-- Reads the return token that a variable stands for: its contents, or else its name. When neither
is a token the contents are to blame. -/
def parseReturnNamed (contents name : String) : Except InvalidToken (Token × Convention) :=
  match parseReturn contents, parseReturn name with
  | .ok r, _ => .ok r
  | .error _, .ok r => .ok r
  | .error e, .error _ => .error e

end Token

end ForeignCall
