import ForeignCall.Log.Event
import ForeignCall.Plan
import ForeignCall.Variable

/-!
# Marshaling

Operands become a call plan. After the function operand a call lists pairs of a type token and a
value, and, when the number of operands is odd, the type of the result. All conversions happen
before native code runs: the first bad token or value ends the whole plan.

## Main definitions

* `MarshalError`, with its `MarshalError.message` and `MarshalError.causes`;
* `splitResult`, `resultToken`: the pairs and the declared result of a list of operands;
* `Argument.fill`, `fillArgument`: a declared argument with a value;
* `marshalPairs`: the arguments of a list of pairs, with the conversions performed;
* `marshal`: the plan of a list of operands.
-/

namespace ForeignCall

/-- Why operands have no plan. Arguments are counted from zero. -/
inductive MarshalError where
  | invalidReturnType (source : InvalidToken)
  | invalidType (index : Nat) (source : InvalidToken)
  /-- A type token has no value behind it. -/
  | missingValue (index : Nat)
  /-- A literal number was declared a text. -/
  | notAString (index : Nat)
  | malformedNumber (index : Nat) (text : String)
  deriving DecidableEq, Repr

namespace MarshalError

/-- How an argument is named in a message; there the first one is number one. -/
def argumentLabel (index : Nat) : String :=
  "argument " ++ Value.intText (index + 1) ++ ": "

/-- The description of an error. -/
def message : MarshalError → String
  | .invalidReturnType source => "return type: " ++ source.message
  | .invalidType index source => argumentLabel index ++ source.message
  | .missingValue index => argumentLabel index ++ "missing value"
  | .notAString index => argumentLabel index ++ "Str requires a string or variable"
  | .malformedNumber index text => argumentLabel index ++ "'" ++ text ++ "' is not a number"

/-- The descriptions of the errors behind an error. -/
def causes : MarshalError → List String
  | .invalidReturnType source | .invalidType _ source => [source.message]
  | _ => []

end MarshalError

/-- Splits operands into the pairs and the type of the result. Only a list of odd length declares
a result. -/
def splitResult (operands : List Operand) : List Operand × Option Operand :=
  if operands.length % 2 = 1 then (operands.dropLast, operands.getLast?) else (operands, none)

/-- The declared result and the convention; without an operand it is an `Int`. -/
def resultToken : Option Operand → Except MarshalError (Token × Convention)
  | none => .ok (.plainInt, .standard)
  | some (.literal v) => (Token.parseReturn v.toText).mapError .invalidReturnType
  | some (.variable x) =>
    (Token.parseReturnNamed x.value.toText x.name).mapError .invalidReturnType

/-- The buffer of a text argument. A literal has to be a text; a variable always qualifies, and its
buffer has the whole capacity. -/
def textBuffer? (start : UInt64) : Operand → Option Buffer
  | .literal (.text s) => some (.ofText start s 0)
  | .literal _ => none
  | .variable x => some (.ofText start x.value.toText x.capacity)

/-- An integer of a kind of either signedness, as the bits that go into the slot. -/
def integerBits? (isUnsigned : Bool) (v : Value) : Option Int64 :=
  if isUnsigned then v.toUInt64?.map UInt64.toInt64 else v.toInt64?

/-- Fills a declared argument with a value. -/
def Argument.fill (site : Site) (index : Nat) (a : Argument) (o : Operand) :
    Except MarshalError Argument :=
  let v := o.value
  match a.token.kind with
  | .text =>
    match textBuffer? (site.buffer index) o with
    | some b => .ok (.ofBuffer a.token b)
    | none => .error (.notAString index)
  | .single | .double =>
    match v.toDouble? with
    | some x => .ok (a.storeReal x)
    | none => .error (.malformedNumber index v.toText)
  | .int8 | .int16 | .int32 | .int64 =>
    match integerBits? a.token.isUnsigned v with
    | some i => .ok (a.storeInt i)
    | none => .error (.malformedNumber index v.toText)

/-- The argument that a declaration and a value make. Its slot is empty until it is filled. -/
def fillArgument (site : Site) (index : Nat) (token : Token) (o : Operand) :
    Except MarshalError Argument :=
  Argument.fill site index { token } o

/-- The arguments of a list of pairs, the first of which has the given position, with the
conversions performed up to the first error. -/
def marshalPairs (site : Site) :
    Nat → List Operand → List Event × Except MarshalError (List Argument)
  | _, [] => ([], .ok [])
  | index, [_] => ([], .error (.missingValue index))
  | index, t :: o :: rest =>
    match Token.parse t.text with
    | .error e => ([], .error (.invalidType index e))
    | .ok token =>
      let converted := Event.typeConversion o.value.typeName token.kind
      match fillArgument site index token o with
      | .error e => ([converted], .error e)
      | .ok a =>
        let (events, r) := marshalPairs site (index + 1) rest
        (converted :: events, r.map (a :: ·))

/-- The plan of a list of operands without the function operand. The result is looked at first. -/
def marshal (site : Site) (operands : List Operand) : List Event × Except MarshalError Plan :=
  let (pairs, last) := splitResult operands
  match resultToken last with
  | .error e => ([], .error e)
  | .ok (result, convention) =>
    let (events, r) := marshalPairs site 0 pairs
    (events, r.map fun arguments => { site, arguments, convention, result })

end ForeignCall
