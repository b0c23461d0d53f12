import ForeignCall.Files.Tree
import ForeignCall.Loader
import ForeignCall.Log.Setup
import ForeignCall.Text.Utf8
import ForeignCall.Toml.Document

/-!
# Settings

The command line takes its settings from a TOML file with two sections, `logging` and `loader`. What
a file does not mention has a default, and keys that mean nothing are ignored. Without a file of its
own a program takes the nearest `dllcall.toml` in or above its directory; when there is none, all
settings have their defaults.

A section is a table, or an array of its values in the order of its keys.

## Main definitions

* `Settings`, `Settings.parse?`: the settings and how they are read from a document;
* `Settings.write`: settings as a document;
* `SettingsError`, with its `SettingsError.message`;
* `Settings.nearest`, `Settings.ofFile`: the file that settings come from, and its settings;
* `LoggingSettings.toSetup`: the log setup that settings ask for.
-/

namespace ForeignCall

/-- The destinations of log lines that settings name. -/
inductive OutputKind where
  | stdout
  | stderr
  | file
  deriving DecidableEq, Repr

/-- The section about log lines. -/
structure LoggingSettings where
  /-- The name of a level, as it was written. -/
  level : String := "warn"
  format : LogFormat := .compact
  output : OutputKind := .stderr
  directory : String := "logs"
  /-- What the names of log files start with. -/
  stem : String := "dllcall"
  spanEvents : Bool := false
  filter : Option String := none
  deriving DecidableEq, Repr

/-- All settings. -/
structure Settings where
  logging : LoggingSettings := {}
  loader : LoaderConfig := {}
  deriving DecidableEq, Repr

/-- Why there are no settings. -/
inductive SettingsError where
  | unreadable (path : String) (cause : ReadFailure)
  /-- A text, of the file of a path if there is one, is no document or has values of wrong kinds. -/
  | malformed (path : Option String)
  | invalidValue (key value : String)
  deriving DecidableEq, Repr

/-- The description of an error. -/
def SettingsError.message : SettingsError → String
  | .unreadable path cause => "Failed to read config " ++ path ++ ": " ++ cause.message
  | .malformed (some path) => "Failed to parse config " ++ path
  | .malformed none => "Failed to parse config"
  | .invalidValue key value => "Invalid value for " ++ key ++ ": '" ++ value ++ "'"

/-! ### Reading -/

namespace Settings

open Toml

/-- The entries of a section. Without keys, values stand in the order of the keys; a date has no
entries. -/
def section? (keys : List String) : Item → Option Entries
  | .table _ es => some es
  | .array items => some (keys.zip items)
  | .tables ts => some (keys.zip (ts.map (.table .header)))
  | .moment _ => some []
  | _ => none

/-- The value of a key, or the default when the key is missing. -/
def valueOr {α : Type} (es : Entries) (key : String) (read : Item → Option α) (default : α) :
    Option α :=
  match es.find? key with
  | none => some default
  | some item => read item

/-- A text. -/
def text? : Item → Option String
  | .text s => some s
  | _ => none

/-- A truth value. -/
def boolean? : Item → Option Bool
  | .boolean b => some b
  | _ => none

/-- A list of texts. -/
def texts? : Item → Option (List String)
  | .array items => items.mapM text?
  | _ => none

/-- One of several choices, by its name or by a table in which its name leads to nothing, which is
an empty table or an empty array. -/
def choice? {α : Type} (choices : List (String × α)) : Item → Option α
  | .text s => choices.lookup s
  | .table _ [(name, .table _ [])] | .table _ [(name, .array [])] => choices.lookup name
  | _ => none

/-- The format of log lines. -/
def format? : Item → Option LogFormat :=
  choice? [("pretty", .pretty), ("compact", .compact), ("json", .json)]

/-- The destination of log lines. -/
def output? : Item → Option OutputKind :=
  choice? [("stdout", .stdout), ("stderr", .stderr), ("file", .file)]

/-- The keys of the section about log lines. -/
def loggingKeys : List String :=
  ["level", "format", "output", "directory", "prefix", "span_events", "filter"]

/-- Reads the section about log lines. -/
def logging? (item : Item) : Option LoggingSettings := do
  let es ← section? loggingKeys item
  let level ← valueOr es "level" text? "warn"
  let format ← valueOr es "format" format? .compact
  let output ← valueOr es "output" output? .stderr
  let directory ← valueOr es "directory" text? "logs"
  let stem ← valueOr es "prefix" text? "dllcall"
  let spanEvents ← valueOr es "span_events" boolean? false
  let filter ← valueOr es "filter" (fun i => (text? i).map some) none
  pure { level, format, output, directory, stem, spanEvents, filter }

/-- The keys of the section about the loader. -/
def loaderKeys : List String := ["default_libraries", "search_process"]

/-- Reads the section about the loader. -/
def loader? (item : Item) : Option LoaderConfig := do
  let es ← section? loaderKeys item
  let defaultLibraries ← valueOr es "default_libraries" texts? ["libc.so.6", "libm.so.6"]
  let searchProcess ← valueOr es "search_process" boolean? true
  pure { defaultLibraries, searchProcess }

/-- Reads the settings of a document. -/
def ofEntries? (es : Entries) : Option Settings := do
  let logging ← valueOr es "logging" logging? {}
  let loader ← valueOr es "loader" loader? {}
  pure { logging, loader }

/-- Reads settings from a text. -/
def parse? (text : String) : Option Settings :=
  (document? text).bind ofEntries?

/-! ### Writing -/

/-- A text between quotes. -/
def quoted (s : String) : String :=
  "\"" ++ s.foldl
    (fun done c =>
      if c = '\"' ∨ c = '\\' then (done.push '\\').push c
      else if c = '\n' then done ++ "\\n"
      else if c = '\r' then done ++ "\\r"
      else if isVisible c then done.push c
      else done ++ "\\u" ++ String.ofList (hexDigits 4 c.toNat)) "" ++ "\""
where
  /-- The lowest hexadecimal digits of a number. -/
  hexDigits (n m : Nat) : List Char :=
    (List.range n).reverse.map fun i => Nat.digitChar (m >>> (4 * i) % 16)

/-- A list of texts: several of them on a line each. -/
def quotedList : List String → String
  | [] => "[]"
  | [s] => "[" ++ quoted s ++ "]"
  | ss => "[\n" ++ String.join (ss.map fun s => "    " ++ quoted s ++ ",\n") ++ "]"

/-- A truth value. -/
def truth (b : Bool) : String := if b then "true" else "false"

/-- The name of a format. -/
def formatName : LogFormat → String
  | .pretty => "pretty"
  | .compact => "compact"
  | .json => "json"

/-- The name of a destination. -/
def outputName : OutputKind → String
  | .stdout => "stdout"
  | .stderr => "stderr"
  | .file => "file"

/-- The lines of the section about log lines. -/
def loggingLines (s : LoggingSettings) : List String :=
  [ "level = " ++ quoted s.level, "format = " ++ quoted (formatName s.format),
    "output = " ++ quoted (outputName s.output), "directory = " ++ quoted s.directory,
    "prefix = " ++ quoted s.stem, "span_events = " ++ truth s.spanEvents ] ++
    s.filter.toList.map fun f => "filter = " ++ quoted f

/-- The lines of the section about the loader. -/
def loaderLines (s : LoaderConfig) : List String :=
  [ "default_libraries = " ++ quotedList s.defaultLibraries,
    "search_process = " ++ truth s.searchProcess ]

/-- Settings as a document. -/
def write (s : Settings) : String :=
  String.join (("[logging]" :: loggingLines s.logging ++ "" :: "[loader]" ::
    loaderLines s.loader).map (· ++ "\n"))

/-! ### Files -/

/-- The name of settings files. -/
def fileName : String := "dllcall.toml"

/-- The settings of the file of a path, from what reading it gave. -/
def ofContents (path : String) :
    Except ReadFailure (List UInt8) → Except SettingsError Settings
  | .error cause => .error (.unreadable path cause)
  | .ok bytes =>
    if Utf8.isValid bytes then
      match parse? (Utf8.toText bytes) with
      | some s => .ok s
      | none => .error (.malformed (some path))
    else .error (.unreadable path .invalidText)

variable {m : Type → Type} [Monad m]

/-- The settings of the file of a path. -/
def ofFile (files : FileAccess m) (path : String) : m (Except SettingsError Settings) := do
  return ofContents path (← files.read path)

/-- The nearest settings file in or above a directory. -/
def nearest (files : FileAccess m) (start : String) : m (Option String) :=
  ((Path.ancestors start).map (Path.join · fileName)).findM? files.isFile

/-- The settings of the nearest file in or above a directory, or the default ones. -/
def ofNearest (files : FileAccess m) (start : String) : m (Except SettingsError Settings) := do
  match ← nearest files start with
  | some path => ofFile files path
  | none => return .ok {}

end Settings

namespace LoggingSettings

/-- The log setup that the settings ask for. -/
def toSetup (s : LoggingSettings) : Except SettingsError LogSetup :=
  match Level.parse? s.level with
  | none => .error (.invalidValue "logging.level" s.level)
  | some level =>
    let output : LogOutput := match s.output with
      | .stdout => .stdout
      | .stderr => .stderr
      | .file => .file s.directory s.stem
    .ok { level, format := s.format, output, spanEvents := s.spanEvents, filter := s.filter }

end LoggingSettings

end ForeignCall
