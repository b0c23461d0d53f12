import ForeignCall.Log.Directive
import ForeignCall.Log.Event
import ForeignCall.Log.Setup

/-!
# Log filters

A filter says which log lines are written. Of its directives about lines the most specific one that
applies counts: the one with the longest target, and of several with the same target one that asks
for a field. Its directives about calls add lines: during a call, everything that one of them lets
through.

Whether calls are followed at all depends on the most talkative directive that the filter ever had,
because the span of a call has a level of its own. A filter that asks for the value of a field
follows all calls.

## Main definitions

* `Filter`, `Filter.add`, `Filter.ofDirectives`;
* `Filter.decisive?`: the directive that counts for a line;
* `Filter.followsCalls`, `Filter.allowsDuring`, `Filter.allows`: what a filter lets through;
* `LogSetup.lineFilter?`, `EngineLog.lineFilter`: the filters of the two setups.
-/

namespace ForeignCall

/-- The name of the span of a call. -/
def callSpan : List Char := "dll_call".toList

/-- The field of the span of a call; its value is the name of the function. -/
def callField : List Char := "function".toList

/-- The target of log lines about events. -/
def eventTarget : List Char := "dllcall_runtime::logging".toList

/-- The target of log lines about spans. -/
def spanTarget : List Char := "dllcall_runtime::interop".toList

namespace Directive

/-- Whether a directive asks for the value of a field. -/
def hasValue (d : Directive) : Bool :=
  d.field.any fun f => f.value.isSome

/-- Whether a directive counts for lines, wherever they are. -/
def isAboutLines (d : Directive) : Bool :=
  d.span.isNone && !d.hasValue

/-- Whether a directive asks for a span or a field, so that it can be about calls. -/
def isAboutCalls (d : Directive) : Bool :=
  d.span.isSome || d.field.isSome

/-- Whether two directives are about the same, apart from their thresholds. -/
def hasScopeOf (d e : Directive) : Bool :=
  d.target == e.target && d.span == e.span && d.field == e.field

/-- Whether a directive is about a line of a target, given which fields the line has. -/
def concerns (d : Directive) (target : List Char) (hasField : List Char → Bool) : Bool :=
  d.target.isPrefixOf target && d.field.all fun f => hasField f.name

/-- Whether a directive is about the span of calls. -/
def concernsCalls (d : Directive) : Bool :=
  d.concerns spanTarget (· == callField) && d.span.all (· == callSpan)

/-- Whether a directive is about the call of a function, given that it is about calls. -/
def accepts (d : Directive) (function : String) : Bool :=
  d.field.all fun f => f.value.all fun v => v.accepts function.toList

/-- Whether a directive is more specific than another one about the same line. Of two that ask for
different fields it is the one whose field comes later in the order of characters. -/
def outranks (d e : Directive) : Bool :=
  if d.target.length ≠ e.target.length then e.target.length < d.target.length
  else
    match e.field, d.field with
    | none, f => f.isSome
    | some f, some g => f.name < g.name
    | some _, none => false

end Directive

/-- A filter. -/
structure Filter where
  /-- The directives about lines; no two have the same scope. -/
  lineRules : List Directive := []
  /-- The directives about calls; no two have the same scope. -/
  callRules : List Directive := []
  /-- The greatest threshold that was ever added. -/
  highest : Nat := 0
  deriving DecidableEq, Repr

namespace Filter

/-- Puts a directive in the place of the one with its scope. -/
def insert (d : Directive) (ds : List Directive) : List Directive :=
  d :: ds.filter fun e => ¬d.hasScopeOf e

/-- Adds a directive. One that can be about lines is about lines alone. -/
def add (f : Filter) (d : Directive) : Filter :=
  let f := { f with highest := max f.highest d.threshold }
  if d.isAboutLines then { f with lineRules := insert d f.lineRules }
  else { f with callRules := insert d f.callRules }

/-- The filter of some directives, in which later ones replace earlier ones. One that can be about
lines and about calls is about both, and comes behind those that are about lines alone. -/
def ofDirectives (ds : List Directive) : Filter :=
  let (calls, others) := ds.partition Directive.isAboutCalls
  { lineRules :=
      (others ++ calls.filter Directive.isAboutLines).foldl (fun rules d => insert d rules) []
    callRules := calls.foldl (fun rules d => insert d rules) []
    highest := ds.foldl (fun n d => max n d.threshold) 0 }

/-- The directive that counts for a line of a target, given which fields the line has. -/
def decisive? (f : Filter) (target : List Char) (hasField : List Char → Bool) : Option Directive :=
  (f.lineRules.filter fun d => d.concerns target hasField).foldl
    (fun best d =>
      match best with
      | some b => if d.outranks b then some d else best
      | none => some d)
    none

/-- Whether a filter lets a line through, wherever it is. -/
def allowsLine (f : Filter) (target : List Char) (hasField : List Char → Bool) (l : Level) : Bool :=
  (f.decisive? target hasField).any fun d => l.number ≤ d.threshold

/-- The number of the least important level that the filter may let through. -/
def reach (f : Filter) : Nat :=
  if f.callRules.any Directive.hasValue then Level.trace.number else f.highest

/-- Whether the beginning and the end of calls are noted. No directive about lines is kept from them
by the field that it asks for. -/
def followsCalls (f : Filter) : Bool :=
  Level.debug.number ≤ f.reach &&
    (f.callRules.any Directive.concernsCalls || f.allowsLine spanTarget (fun _ => true) .debug)

/-- Whether a filter lets lines through because they occur during the call of a function. -/
def allowsDuring (f : Filter) (l : Level) (function : String) : Bool :=
  f.followsCalls &&
    f.callRules.any fun d => d.concernsCalls && d.accepts function && l.number ≤ d.threshold

/-- Whether a filter lets a line through, given the functions whose calls it lies in, its target and
which fields it has. -/
def allows (f : Filter) (functions : List String) (target : List Char)
    (hasField : List Char → Bool) (l : Level) : Bool :=
  functions.any (f.allowsDuring l) || f.allowsLine target hasField l

/-- Whether a filter lets an event through that lies in the calls of some functions. -/
def allowsEvent (f : Filter) (functions : List String) (e : Event) : Bool :=
  f.allows functions eventTarget (fun name => e.fields.any fun g => g.1.toList == name) e.level

/-- Splits a list of characters at commas. -/
def splitCommas (cs : List Char) : List (List Char) :=
  cs.foldr
    (fun c parts =>
      if c = ',' then [] :: parts
      else
        match parts with
        | part :: parts => (c :: part) :: parts
        | [] => [[c]])
    [[]]

/-- Adds the directives of a text, with commas between them. What is no directive counts as the
given level. -/
def addAll (f : Filter) (l : Level) (text : String) : Filter :=
  let words := (splitCommas text.toList).map Blank.trim
  (words.filter (· ≠ [])).foldl
    (fun f word => f.add ((Directive.read word).toOption.getD (.ofLevel l))) f

/-- The parts of a text between commas, apart from empty ones, and how each reads. -/
def readings (text : String) : List (List Char × Except Directive.Fault Directive) :=
  ((splitCommas text.toList).filter (· ≠ [])).map fun part => (part, Directive.read part)

end Filter

/-- A filter, and the parts of the environment's text that were ignored because they are no
directives. -/
structure LineFilter where
  filter : Filter
  ignored : List String := []
  deriving DecidableEq, Repr

/-- The filter of a setup and the text of the environment: the directives of that text, or errors
alone when it has none; then the level of the setup, and its exceptions. There is none when the text
would have to be cut inside a character. -/
def LogSetup.lineFilter? (s : LogSetup) (environment : String) : Option LineFilter :=
  let readings := Filter.readings environment
  if readings.any fun r => r.2 matches .error .brokenCharacter then none
  else
    let ds := readings.filterMap fun r => r.2.toOption
    let start := Filter.ofDirectives (if ds = [] then [.ofLevel .error] else ds)
    let f := start.add (.ofLevel s.level)
    let ignored := (readings.filter fun r => ¬r.2.isOk).map fun r => String.ofList r.1
    some
      { filter := match s.filter with
          | some text => f.addAll s.level text
          | none => f
        ignored }

/-- The filter of an engine: the directives of its text if all its parts are directives, and
otherwise its level, for the lines of the engine alone. -/
def EngineLog.lineFilter (s : EngineLog) : Filter :=
  match s.filter.bind fun text => (Filter.readings text).mapM fun r => r.2.toOption with
  | some ds => .ofDirectives ds
  | none => .ofDirectives [{ target := "dllcall_runtime".toList, threshold := s.level.number }]

end ForeignCall
