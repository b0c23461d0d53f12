import ForeignCall.Outcome
import ForeignCall.Report.Json

/-!
# Reports of a call

The outcome of a call and the variables after it, as lines of text or as one JSON object.

## Main definitions

* `Value.toJson`, `Outcome.toJson`: the JSON report;
* `Outcome.lines`: the report as lines of text.
-/

namespace ForeignCall

/-- A value in a JSON report. -/
def Value.toJson : Value → Json
  | .text s => .text s
  | .int i => .integer i.toInt
  | .real x => .real x

namespace Outcome

/-- The report as a JSON object, with the variables after the call. Of several variables with one
name the last one counts. -/
def toJson (o : Outcome) (after : List Variable) : Json :=
  .object
    [ ("value", o.value.toJson),
      ("status", .text o.status.text),
      ("variables", .object (after.map fun x => (x.name, x.value.toJson))) ]

/-- The report as lines of text: the value, the status, and each variable. -/
def lines (o : Outcome) (after : List Variable) : List String :=
  ("value: " ++ o.value.toText) :: ("status: " ++ o.status.text) ::
    after.map fun x => "$" ++ x.name ++ " = " ++ x.value.toText

end Outcome

end ForeignCall
