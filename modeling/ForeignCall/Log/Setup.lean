import ForeignCall.Files.Path
import ForeignCall.Log.Level

/-!
# Log setups

Where log lines go and what they look like. The command line reads its setup from its settings; an
engine inside another program reads a smaller one from the environment.

## Main definitions

* `LogFormat`, `LogOutput`, `LogSetup`: the setup of the command line;
* `LogOutput.file?`: where log files lie;
* `EngineLog`, `EngineLog.ofVariables`: the setup of an engine.
-/

namespace ForeignCall

/-- The variable of the environment that holds the directives of a filter. -/
def filterVariable : String := "RUST_LOG"

/-- What log lines look like. -/
inductive LogFormat where
  /-- Several lines of text for each. -/
  | pretty
  /-- One line of text for each. -/
  | compact
  /-- One JSON object for each. -/
  | json
  deriving DecidableEq, Repr, Inhabited

/-- Where log lines go. -/
inductive LogOutput where
  | stdout
  | stderr
  /-- A file for each day in a directory; the date follows the stem of its name. -/
  | file (directory stem : String)
  deriving DecidableEq, Repr

/-- The path of the log file of a date, if log lines go to files. -/
def LogOutput.file? (date : String) : LogOutput → Option String
  | .file directory stem =>
    some (Path.join directory (if stem = "" then date else stem ++ "." ++ date))
  | .stdout | .stderr => none

/-- The log setup of the command line. -/
structure LogSetup where
  /-- The level of the least important lines that are written. -/
  level : Level := .warn
  format : LogFormat := .compact
  output : LogOutput := .stderr
  /-- Whether the beginning and the end of each call are written. -/
  spanEvents : Bool := false
  /-- Exceptions from the level. -/
  filter : Option String := none
  deriving DecidableEq, Repr

/-- The log setup of an engine. -/
structure EngineLog where
  level : Level := .info
  /-- The directives of a filter that takes the place of the level. -/
  filter : Option String := none
  isJson : Bool := false
  showSpans : Bool := false
  deriving DecidableEq, Repr

namespace EngineLog

/-- The setup that environment variables ask for. A level of an unknown name is ignored; the two
flags count when they are set, to whatever value. -/
def ofVariables (lookup : String → Option String) : EngineLog where
  level := ((lookup "DLLCALL_LOG_LEVEL").bind Level.ofName?).getD .info
  filter := lookup filterVariable
  isJson := (lookup "DLLCALL_LOG_JSON").isSome
  showSpans := (lookup "DLLCALL_LOG_SPANS").isSome

/-- The setup for finding errors: everything is written. -/
def verbose : EngineLog := { level := .trace, showSpans := true }

end EngineLog

end ForeignCall
