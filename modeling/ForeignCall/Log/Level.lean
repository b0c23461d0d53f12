import ForeignCall.Text.Ascii
import ForeignCall.Text.Blank

/-!
# Log levels

The five levels of log lines, from the most to the least talkative, and the names they go by.

## Main definitions

* `Level`, `Level.name`;
* `Level.ofName?`: the level of a name alone, in any case;
* `Level.parse?`: the level of a name or a number, with blanks around it allowed.
-/

namespace ForeignCall

/-- The level of a log line. -/
inductive Level where
  | trace
  | debug
  | info
  | warn
  | error
  deriving DecidableEq, Repr

namespace Level

/-- The levels, the most talkative first. -/
def all : List Level := [.trace, .debug, .info, .warn, .error]

/-- The name of a level. -/
def name : Level → String
  | .trace => "TRACE"
  | .debug => "DEBUG"
  | .info => "INFO"
  | .warn => "WARN"
  | .error => "ERROR"

/-- The number of a level: the more talkative, the greater. -/
def number : Level → Nat
  | .error => 1
  | .warn => 2
  | .info => 3
  | .debug => 4
  | .trace => 5

/-- The level of a name, in any case. -/
def ofChars? (cs : List Char) : Option Level :=
  all.find? fun l => Ascii.equal l.name.toList cs

/-- The level of a name, in any case. -/
def ofName? (name : String) : Option Level :=
  ofChars? name.toList

/-- A number in decimal digits, after an optional plus. -/
def numberOfChars? (cs : List Char) : Option Nat :=
  let ds := match cs with
    | '+' :: rest => rest
    | _ => cs
  if ds ≠ [] ∧ ds.all Char.isDigit then
    some (ds.foldl (fun n c => n * 10 + (c.toNat - '0'.toNat)) 0)
  else none

/-- The level of a name or of its number. -/
def ofWord? (cs : List Char) : Option Level :=
  match numberOfChars? cs with
  | some n => all.find? fun l => l.number == n
  | none => ofChars? cs

/-- The level that a setting or an option names; blanks around the name do not matter. -/
def parse? (name : String) : Option Level :=
  ofWord? (Blank.trim name.toList)

end Level

end ForeignCall
