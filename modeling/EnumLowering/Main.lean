import EnumLowering.Command.Run
import Std.Time

/-!
The command line. Scripts are carried out on the file system here, and log lines
are written as they come about.
-/

namespace EnumLowering

/-- The cause behind a failure of the system, whose codes may come negated. -/
def FileError.ofSystem (error : IO.Error) : FileError :=
  let byCode (code : UInt32) : FileError :=
    match min code (0 - code) with
    | 2 => .notFound
    | 20 => .notDirectory
    | 21 => .isDirectory
    | 22 => .nulInName
    | 36 => .nameTooLong
    | _ => .other (toString error)
  match error with
  | .noFileOrDirectory _ _ _ => .notFound
  | .inappropriateType _ code _ | .invalidArgument _ code _ => byCode code
  | _ => .other (toString error)

def attempt {α : Type} (action : IO α) : IO (Except FileError α) := do
  match ← action.toBaseIO with
  | .ok value => return .ok value
  | .error error => return .error (.ofSystem error)

def readTextFile (path : String) : IO (Except FileError String) := do
  let content ← attempt (IO.FS.readBinFile path)
  return content.bind fun bytes =>
    match String.fromUTF8? bytes with
    | some text => .ok text
    | none => .error .notUtf8

def isRegularFile (path : String) : IO Bool := do
  let type ← attempt do
    let place ← IO.FS.realPath path
    return (← place.metadata).type
  return match type with
    | .ok .file => true
    | _ => false

def timestamp : IO String := do
  let now ← Std.Time.Timestamp.now
  return (Std.Time.DateTime.ofTimestamp now Std.Time.TimeZone.ZoneRules.UTC).format
    "uuuu-MM-dd'T'HH:mm:ss.SSSSSS'Z'"

def Script.perform {α : Type} (settings : Log.Settings) : Script α → IO (Except Failure α)
  | .done value => return .ok value
  | .fail failure => return .error failure
  | .readFile path next => do
      let result ← readTextFile path
      (next result).perform settings
  | .writeFile path content next => do
      let result ← attempt (IO.FS.writeFile path content)
      (next result).perform settings
  | .isFile path next => do
      let result ← isRegularFile path
      (next result).perform settings
  | .print text next => do
      IO.print text
      next.perform settings
  | .log record next => do
      for line in settings.lines (← timestamp) [record] do
        IO.eprintln line
      next.perform settings

def Invocation.perform (invocation : Invocation) : IO UInt32 := do
  let environment := Log.Settings.ofEnvironment (← IO.getEnv "JTRAN_LOG_FORMAT")
    (← IO.getEnv "JTRAN_LOG_LEVEL")
  let settings := environment.override invocation.logFormat invocation.logLevel
  let directory ← IO.currentDir
  match ← (invocation.command.script directory.toString).perform settings with
  | .ok _ => return 0
  | .error failure => do
      IO.eprintln failure.report
      return failure.exitCode

end EnumLowering

def main (arguments : List String) : IO UInt32 := do
  match EnumLowering.Arguments.parse arguments with
  | .ok invocation => invocation.perform
  | .error stop => do
      IO.print stop.printed
      if stop = .mistake then IO.eprint EnumLowering.HelpTopic.program.page.text
      return stop.exitCode
