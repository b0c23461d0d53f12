import ForeignCall.Call
import ForeignCall.CommandLine
import ForeignCall.Log.Line
import ForeignCall.Report
import ForeignCall.Settings

/-!
# The program

What the command line program does, apart from looking at files: it reads its arguments and its
settings, sets up its log, makes one call, and reports the outcome. Bad arguments and bad settings
end it before the call, and so does a log that cannot be set up.

## Main definitions

* `Surroundings`: what a run of the program finds around it;
* `Completion`: how the program ends, with its exit code and what it writes;
* `Program.settings`: the settings that a command line asks for;
* `Program.complete`: the call and its report;
* `Program.run`: the program from its arguments to its end;
* `EngineRun`: an engine that writes its own log.
-/

namespace ForeignCall

/-- What a run of the program finds around it. -/
structure Surroundings (m : Type → Type) where
  world : World
  files : FileAccess m
  /-- The directory that the program runs in. -/
  directory : String
  /-- The date of today, which is a part of the names of log files. -/
  date : String
  /-- The values of the environment's variables. -/
  environment : String → Option String

/-- A call that the program made. -/
structure CallSession where
  outcome : Outcome
  /-- The variables after the call. -/
  after : List Variable
  setup : LogSetup
  /-- The lines for the log. -/
  log : List LogLine
  /-- The parts of the environment's directives that were ignored. -/
  ignored : List String
  /-- Whether the report is a JSON object. -/
  json : Bool
  deriving DecidableEq, Repr

/-- Why the log cannot be set up. -/
inductive LogFailure where
  /-- The environment's directives would have to be cut inside a character. -/
  | brokenCharacter
  /-- No lines can be added to the file of a path. -/
  | unwritable (path : String)
  deriving DecidableEq, Repr

/-- The description of a failure. -/
def LogFailure.message : LogFailure → String
  | .brokenCharacter => filterVariable ++ " is cut inside a character"
  | .unwritable path => "Failed to create log file " ++ path

/-- How the program ends. -/
inductive Completion where
  | help
  /-- Bad arguments or settings; the message says which. -/
  | rejected (message : String)
  /-- The log could not be set up. -/
  | failed (cause : LogFailure)
  | called (session : CallSession)
  /-- Native code ended the program. -/
  | died (signal : Signal)
  deriving DecidableEq, Repr

/-- The report of a call. -/
def CallSession.report (s : CallSession) : List String :=
  if s.json then [(s.outcome.toJson s.after).write] else s.outcome.lines s.after

namespace Completion

/-- The exit code. -/
def exitCode : Completion → Nat
  | .help => 0
  | .rejected _ => 2
  | .failed _ => 101
  | .called s => if s.outcome.status.isSuccess then 0 else 1
  | .died signal => 128 + signal.toNat

/-- The lines on standard output, apart from log lines. -/
def output : Completion → List String
  | .help => [usage]
  | .called s => s.report
  | .rejected _ | .failed _ | .died _ => []

/-- The lines on standard error, apart from log lines; they come before those. -/
def complaint : Completion → List String
  | .rejected message => ["Error: " ++ message, "", usage]
  | .failed cause => [cause.message]
  | .called s => s.ignored.map fun part => "ignoring `" ++ part ++ "`: invalid filter directive"
  | .help | .died _ => []

end Completion

namespace CommandLine

/-- A call of what a command line names, through the process-wide loader of an engine. -/
def call (w : World) (c : CommandLine) (engine : Engine) : CallResult :=
  w.callShared c.operands engine

end CommandLine

namespace Program

/-- Settings with the level of the command line, if it names one. -/
def withOptions (c : CommandLine) (s : Settings) : Settings :=
  match c.logLevel with
  | some level => { s with logging := { s.logging with level } }
  | none => s

/-- The log setup of a command line and settings. -/
def logSetup (c : CommandLine) (s : Settings) : Except SettingsError LogSetup :=
  s.logging.toSetup.map fun setup => if c.logJson then { setup with format := .json } else setup

/-- The settings of a command line, for a program that runs in a directory: from the file that it
names, or else from the nearest one. -/
def settings {m : Type → Type} [Monad m] (files : FileAccess m) (directory : String)
    (c : CommandLine) : m (Except SettingsError Settings) := do
  let s ← match c.configPath with
    | some path => Settings.ofFile files path
    | none => Settings.ofNearest files directory
  return s.map (withOptions c)

/-- Makes the call of a command line under given settings, with a log that is set up. -/
def complete (w : World) (c : CommandLine) (s : Settings) (setup : LogSetup) (f : LineFilter) :
    Completion :=
  let (engine, _) := World.configure s.loader {}
  let r := c.call w engine
  match r.ending with
  | .returned report =>
    .called
      { outcome := report.outcome
        after := variablesOf report.operands
        setup
        log := r.trace.lines f.filter (if setup.spanEvents then some .ofCommandLine else none)
        ignored := f.ignored
        json := c.json }
  | .unwinding _ signal => .died signal
  | .died signal => .died signal

/-- Sets up the log: reads the environment's directives and makes the log file, if there is one. -/
def openLog {m : Type → Type} [Monad m] (a : Surroundings m) (setup : LogSetup) :
    m (Except LogFailure LineFilter) := do
  match setup.lineFilter? ((a.environment filterVariable).getD "") with
  | none => return .error .brokenCharacter
  | some f =>
    match setup.output.file? a.date with
    | none => return .ok f
    | some path => return if ← a.files.append path then .ok f else .error (.unwritable path)

/-- Runs the program. -/
def run {m : Type → Type} [Monad m] (a : Surroundings m) (args : List String) : m Completion := do
  match CommandLine.parse args with
  | .error e => return .rejected e.message
  | .ok c =>
    if c.help then return .help
    match ← settings a.files a.directory c with
    | .error e => return .rejected e.message
    | .ok s =>
      match logSetup c s with
      | .error e => return .rejected e.message
      | .ok setup =>
        match ← openLog a setup with
        | .error cause => return .failed cause
        | .ok f => return complete a.world c s setup f

end Program

/-! ### Engines with a log of their own -/

/-- An engine inside another program, with the setup of its log once it is initialized. -/
structure EngineRun where
  engine : Engine := {}
  log : Option EngineLog := none
  lines : List LogLine := []

namespace EngineRun

/-- Initializes an engine: sets up its log, if there is none yet, and configures its loader. The
flag tells whether the loader did not exist before. -/
def initialized (r : EngineRun) (setup : EngineLog) (config : LoaderConfig) : EngineRun × Bool :=
  let (engine, isNew) := World.configure config r.engine
  ({ r with engine, log := some (r.log.getD setup) }, isNew)

/-- Makes a call; its entries go to the log if there is one. -/
def call (w : World) (operands : List Operand) (r : EngineRun) : EngineRun × Ending Report :=
  let result := w.callShared operands r.engine
  let lines := match r.log with
    | some setup =>
      result.trace.lines setup.lineFilter (if setup.showSpans then some .ofEngine else none)
    | none => []
  ({ r with engine := result.engine, lines := r.lines ++ lines }, result.ending)

end EngineRun

end ForeignCall
