import ForeignCall.Log.Level
import ForeignCall.Variable

/-!
# The command line

`dllcall [OPTIONS] <function> [<type> <value>]... [<return>]`

Options stand in front of the function only, so that negative numbers can be values. A word `$name`
is a variable; `=` introduces its first contents, and `:` in front of that the size of its buffer.
Every other word is a literal text.

## Main definitions

* `Word`, `Word.parse`: one operand word;
* `CommandLine`, `CommandLine.parse`: the whole command line;
* `UsageError`, with its `UsageError.message`;
* `CommandLine.operands`: the operands of the call that a command line asks for.

## Main results

* `Word.parse_literal`: a word without a leading `$` is a literal.
-/

namespace ForeignCall

/-- The usage message. -/
def usage : String :=
  "Usage: dllcall [OPTIONS] <function> [<type> <value>]... [<return>]\n\n" ++
  "Options:\n" ++
  "  --config PATH     Read settings from PATH instead of the nearest dllcall.toml\n" ++
  "  --json            Print the outcome as JSON\n" ++
  "  --log-level LVL   Override the configured log level\n" ++
  "  --log-json        Write log lines as JSON\n" ++
  "  -h, --help        Show this message\n\n" ++
  "Values written as $name=init or $name:bytes=init are passed as variables."

/-- What is wrong with a command line. -/
inductive UsageError where
  | invalidBufferSize (word : String)
  | missingVariableName (word : String)
  | missingArgument (option : String)
  | invalidLogLevel (level : String)
  | unknownOption (option : String)
  | noFunction
  deriving DecidableEq, Repr

/-- The description of an error. -/
def UsageError.message : UsageError → String
  | .invalidBufferSize word => "Invalid buffer size in " ++ word
  | .missingVariableName word => "Missing variable name in " ++ word
  | .missingArgument option => option ++ " requires an argument"
  | .invalidLogLevel level => "Invalid value for --log-level: " ++ level
  | .unknownOption option => "Unknown option: " ++ option
  | .noFunction => "No function specified"

/-- One operand word. -/
inductive Word where
  | literal (text : String)
  | variable (name : String) (capacity : Option Nat) (init : String)
  deriving DecidableEq, Repr

namespace Word

/-- Splits a list of characters at the first occurrence of a character. -/
def splitFirst? (c : Char) (cs : List Char) : Option (List Char × List Char) :=
  match cs.dropWhile (· ≠ c) with
  | [] => none
  | _ :: rest => some (cs.takeWhile (· ≠ c), rest)

/-- A number of bytes: decimal digits after an optional plus, below `2 ^ 64`. -/
def bytes? (cs : List Char) : Option Nat :=
  let ds := Number.Numeral.dropPlus cs
  if ds ≠ [] ∧ ds.all Char.isDigit then Number.Numeral.decimal? ds else none

/-- Reads what follows the `$` of a variable. The whole word is for messages. -/
def parseVariable (word : String) (cs : List Char) : Except UsageError Word :=
  let (head, init) := (splitFirst? '=' cs).getD (cs, [])
  let named (name : List Char) (capacity : Option Nat) : Except UsageError Word :=
    if name = [] then .error (.missingVariableName word)
    else .ok (.variable (String.ofList name) capacity (String.ofList init))
  match splitFirst? ':' head with
  | none => named head none
  | some (name, size) =>
    match bytes? size with
    | none => .error (.invalidBufferSize word)
    | some n => named name (some n)

/-- Reads one operand word. -/
def parse (word : String) : Except UsageError Word :=
  match word.toList with
  | '$' :: cs => parseVariable word cs
  | _ => .ok (.literal word)

/-- A word without a leading `$` is a literal. -/
theorem parse_literal {word : String} (h : word.toList.head? ≠ some '$') :
    parse word = .ok (.literal word) := by
  unfold parse
  split
  · next hw => simp [hw] at h
  · rfl

/-- The operand that a word stands for. -/
def operand : Word → Operand
  | .literal text => .literal (.text text)
  | .variable name capacity init =>
    let x := Variable.ofValue name (.text init)
    .variable (match capacity with
      | some bytes => x.reserve bytes
      | none => x)

end Word

/-- A command line. -/
structure CommandLine where
  configPath : Option String := none
  json : Bool := false
  logLevel : Option String := none
  logJson : Bool := false
  help : Bool := false
  /-- The function and what follows it. -/
  words : List Word := []
  deriving DecidableEq, Repr

namespace CommandLine

/-- Takes the remaining arguments as operand words. -/
def withWords (c : CommandLine) (args : List String) : Except UsageError CommandLine :=
  match args.mapM Word.parse with
  | .error e => .error e
  | .ok [] => .error .noFunction
  | .ok words => .ok { c with words }

/-- Whether an argument looks like an option. -/
def isOption (arg : String) : Bool :=
  match arg.toList with
  | '-' :: '-' :: _ => true
  | _ => false

/-- Reads the arguments that follow those already taken into account. -/
def parseFrom (c : CommandLine) : List String → Except UsageError CommandLine
  | [] => .error .noFunction
  | arg :: rest =>
    if arg = "-h" ∨ arg = "--help" then .ok { c with help := true }
    else if arg = "--json" then parseFrom { c with json := true } rest
    else if arg = "--log-json" then parseFrom { c with logJson := true } rest
    else if arg = "--config" then
      match rest with
      | [] => .error (.missingArgument arg)
      | path :: rest' => parseFrom { c with configPath := some path } rest'
    else if arg = "--log-level" then
      match rest with
      | [] => .error (.missingArgument arg)
      | level :: rest' =>
        if (Level.parse? level).isNone then .error (.invalidLogLevel level)
        else parseFrom { c with logLevel := some level } rest'
    else if arg = "--" then c.withWords rest
    else if isOption arg then .error (.unknownOption arg)
    else c.withWords (arg :: rest)

/-- Reads a command line, without the name of the program. -/
def parse (args : List String) : Except UsageError CommandLine :=
  parseFrom {} args

/-- The operands of the call that a command line asks for. -/
def operands (c : CommandLine) : List Operand :=
  c.words.map Word.operand

end CommandLine

/-- The variables among operands, in order. -/
def variablesOf (operands : List Operand) : List Variable :=
  operands.filterMap fun
    | .variable x => some x
    | .literal _ => none

end ForeignCall
