import ForeignCall.Native.System
import ForeignCall.Program
import Std.Time

/-!
# The command

The outer layer of the command line program: it answers the questions about files, runs the program
on the system without the probes, and writes what there is to write.

## Main definitions

* `main`.
-/

namespace ForeignCall.Command

/-- The failure that an error number of the operating system stands for. -/
def failureOfNumber (number : UInt32) (text : String) : ReadFailure :=
  if number = 2 then .notFound
  else if number = 20 then .notDirectory
  else if number = 21 then .isDirectory
  else if number = 36 then .nameTooLong
  else .system text number.toNat

/-- The failure that an error stands for. -/
def failureOf : IO.Error → ReadFailure
  | .noFileOrDirectory _ number text => failureOfNumber number text
  | .interrupted _ number text => failureOfNumber number text
  | .invalidArgument _ number text => failureOfNumber number text
  | .permissionDenied _ number text => failureOfNumber number text
  | .resourceExhausted _ number text => failureOfNumber number text
  | .inappropriateType _ number text => failureOfNumber number text
  | .noSuchThing _ number text => failureOfNumber number text
  | .otherError number text => failureOfNumber number text
  | _ => .invalidPath

/-- Makes the file of a path for lines to be added, with the directories above it. -/
def makeFile (path : String) : IO Unit := do
  if let some directory := Path.parent? path then
    if directory ≠ "" then IO.FS.createDirAll directory
  discard (IO.FS.Handle.mk path .append)

/-- The files of the operating system. -/
def files : FileAccess IO where
  isFile path := return (← EIO.toBaseIO (IO.FS.readBinFile path)).isOk
  read path := do
    match ← EIO.toBaseIO (IO.FS.readBinFile path) with
    | .ok bytes => return .ok bytes.toList
    | .error e => return .error (failureOf e)
  append path := return (← EIO.toBaseIO (makeFile path)).isOk

/-- The date of today in universal time. -/
def today : IO String := do
  let now := Std.Time.DateTime.ofTimestampWithZone (← Std.Time.Timestamp.now) .UTC
  return now.format "uuuu-MM-dd"

/-- Writes the log of a call to where its setup says. -/
def writeLog (date : String) (s : CallSession) : IO Unit := do
  let text := String.join (s.log.map fun l => l.write s.setup.format ++ "\n")
  match s.setup.output with
  | .stdout => IO.print text
  | .stderr => IO.eprint text
  | .file .. =>
    if let some path := s.setup.output.file? date then
      (← IO.FS.Handle.mk path .append).putStr text

end ForeignCall.Command

/-- The command line program. -/
def main (args : List String) : IO UInt32 := do
  let date ← ForeignCall.Command.today
  let directives ← IO.getEnv ForeignCall.filterVariable
  let done ← ForeignCall.Program.run
    { world := ForeignCall.Native.system false
      files := ForeignCall.Command.files
      directory := (← IO.currentDir).toString
      date
      environment := fun name => if name = ForeignCall.filterVariable then directives else none }
    args
  for line in done.complaint do IO.eprintln line
  if let .called session := done then ForeignCall.Command.writeLog date session
  for line in done.output do IO.println line
  return UInt32.ofNat done.exitCode
