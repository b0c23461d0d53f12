import ForeignCall.Log.Event
import ForeignCall.Log.Filter
import ForeignCall.Report.Json

/-!
# Log lines

The lines that a trace leaves in a log: one for each event that the filter lets through and, if
wanted, one for the beginning and one for the end of each call.

## Main definitions

* `LogLine`, `LogLine.write`: a line and its text;
* `SpanWords`: what lines about the beginning and the end of calls say;
* `Trace.lines`: the lines of a trace.
-/

namespace ForeignCall

/-- A line of a log. -/
structure LogLine where
  level : Level
  target : String
  fields : List (String × Field)
  deriving DecidableEq, Repr

/-- The words for the beginning and the end of a call. -/
structure SpanWords where
  opened : String
  closed : String
  deriving DecidableEq, Repr

/-- The words of the command line. -/
def SpanWords.ofCommandLine : SpanWords := ⟨"new", "close"⟩

/-- The words of an engine. -/
def SpanWords.ofEngine : SpanWords := ⟨"enter", "close"⟩

namespace LogLine

/-- The line of an event. -/
def ofEvent (e : Event) : LogLine :=
  ⟨e.level, String.ofList eventTarget, e.fields⟩

/-- The line about a span. -/
def ofSpan (word : String) : LogLine :=
  ⟨.debug, String.ofList spanTarget, [("message", .text word)]⟩

/-- A field as JSON. -/
def fieldJson : Field → Json
  | .text s => .text s
  | .number i => .integer i

/-- A line as a JSON object. -/
def toJson (l : LogLine) : Json :=
  .object
    [ ("level", .text l.level.name), ("target", .text l.target),
      ("fields", .object (l.fields.map fun f => (f.1, fieldJson f.2))) ]

/-- A line as text. -/
def toText (l : LogLine) : String :=
  let field : String × Field → String
    | ("message", .text s) => " " ++ s
    | (name, f) => " " ++ name ++ "=" ++ (fieldJson f).write
  l.level.name ++ " " ++ l.target ++ ":" ++ String.join (l.fields.map field)

/-- The text of a line in a format. -/
def write (format : LogFormat) (l : LogLine) : String :=
  match format with
  | .json => l.toJson.write
  | .pretty | .compact => l.toText

end LogLine

namespace Trace

/-- The line about the beginning or the end of a call, if calls are noted and the line is wanted. -/
def spanLines (f : Filter) (word : Option String) : List LogLine :=
  if f.followsCalls then word.toList.map .ofSpan else []

/-- The lines of one entry during the calls of some functions. -/
def entryLines (f : Filter) (words : Option SpanWords) (functions : List String) :
    Entry → List LogLine
  | .event e => if f.allowsEvent functions e then [.ofEvent e] else []
  | .opened _ => spanLines f (words.map SpanWords.opened)
  | .closed _ => spanLines f (words.map SpanWords.closed)

/-- The functions whose calls go on behind an entry, the innermost first. -/
def openAfter (functions : List String) : Entry → List String
  | .event _ => functions
  | .opened function => function :: functions
  | .closed _ => functions.tail

/-- The lines of a trace that begins during the calls of some functions. -/
def linesFrom (f : Filter) (words : Option SpanWords) : List String → Trace → List LogLine
  | _, [] => []
  | functions, e :: t =>
    entryLines f words functions e ++ linesFrom f words (openAfter functions e) t

/-- The lines of a trace. -/
def lines (f : Filter) (words : Option SpanWords) (t : Trace) : List LogLine :=
  linesFrom f words [] t

end Trace

end ForeignCall
