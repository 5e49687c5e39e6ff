import EnumLowering.Command.Arguments
import EnumLowering.Command.Script
import EnumLowering.Config
import EnumLowering.Format.Declaration
import EnumLowering.Lowering.Walk
import EnumLowering.Native.Listing

/-!
The commands: what they read, what they write and in which order. A command that
fails keeps what it wrote before.
-/

namespace EnumLowering

def defaultConfig : String := "jtran.toml"

/-- A name below a directory; the empty directory is the current one. -/
def pathBelow (directory name : String) : String :=
  if directory = "" || directory.endsWith "/" then directory ++ name
  else directory ++ "/" ++ name

namespace OptionFlags

def parseConfig (text : String) : Script Options :=
  match Config.ofText? text with
  | some options => .done options
  | none => .fail .invalidConfig

/-- Options from the named configuration, else from the default one if it is
there. Messages show where in the file system that one lies. -/
def configured (flags : OptionFlags) (directory : String) : Script Options :=
  match flags.config with
  | some path => (Script.read path (.unreadableConfig path)).bind parseConfig
  | none =>
      .isFile defaultConfig fun isThere =>
        if isThere then
          let shown := pathBelow directory defaultConfig
          .log {
            level := .debug
            target := "jtranc::driver"
            message := "using config from working directory"
            fields := [("path", .plain shown)] } <|
          (Script.read defaultConfig (.unreadableConfig shown)).bind parseConfig
        else .done {}

/-- Flags win over the configuration. -/
def applyTo (flags : OptionFlags) (options : Options) : Except Failure Options := do
  let memory ←
    match flags.memory with
    | none => .ok options.memory
    | some name =>
        match MemoryManagement.ofName? name with
        | some memory => .ok memory
        | none => .error (.unknownMemory name)
  if options.indentWidth = 0 then .error .noIndent
  else .ok { options with swiftFriendly := options.swiftFriendly || flags.swiftFriendly, memory }

def resolve (flags : OptionFlags) (directory : String) : Script Options :=
  (flags.configured directory).bind fun options => .ofExcept (flags.applyTo options)

end OptionFlags

namespace UnitFiles

/-- The unit to lower. One that names no source is named after its file. -/
def readUnit (files : UnitFiles) : Script CompilationUnit :=
  (Script.read files.input (.unreadableUnit files.input)).bind fun text =>
    match Json.readText CompilationUnit.read text with
    | .ok unit => .done { unit with sourcePath := some (unit.sourcePath.getD files.input) }
    | .error _ => .fail (.invalidUnit files.input)

def summary (files : UnitFiles) (stats : Stats) : Log.Record :=
  { level := .info
    target := "jtranc::driver"
    message := "lowered enums"
    fields := ("input", .plain files.input) ::
      stats.counts.map fun (name, count) => (name, .count count) }

def writeTo (path : Option String) (content : String) : Script Unit :=
  match path with
  | some path => Script.write path content
  | none => .done ()

def writeResults (files : UnitFiles) (unit : CompilationUnit) (stats : Stats) : Script Unit := do
  let text := unit.toJson.pretty ++ "\n"
  match files.output with
  | some path => Script.write path text
  | none => .print text (.done ())
  writeTo files.native unit.nativeText
  writeTo files.stats (stats.toJson.pretty ++ "\n")

/-- Lower the unit of a file and write what was asked for. Nothing is written if
lowering fails. -/
def lower (files : UnitFiles) (options : Options) : Script Stats := do
  let unit ← files.readUnit
  let outcome := unit.lowerEnums options
  Script.logAll (outcome.work.events.map Event.record)
  match outcome.error with
  | some error => .fail (.internal error)
  | none => do
      .log (files.summary outcome.work.stats) (.done ())
      files.writeResults outcome.value outcome.work.stats
      return outcome.work.stats

end UnitFiles

def Command.script (directory : String) : Command → Script Unit
  | .lower files flags => do
      let options ← flags.resolve directory
      let _ ← files.lower options
  | .native typeName count flags => do
      let options ← flags.resolve directory
      .print (Native.supportText typeName count options) (.done ())

structure RunReport where
  exitCode : UInt32
  printed : String := ""
  /-- The lines for the error stream; a mistake in the arguments has no fixed ones. -/
  lines : Option (List String) := some []
  files : FileTree

def versionText : String := "jtranc 0.1.0\n"

namespace Stop

def exitCode : Stop → UInt32
  | .mistake => 2
  | .help _ | .version => 0

def printed : Stop → String
  | .mistake => ""
  | .help topic => topic.page.text
  | .version => versionText

end Stop

def Log.Settings.lines (settings : Log.Settings) (timestamp : String)
    (records : List Log.Record) : List String :=
  (records.filter fun record => record.level.isWithin settings.level).map
    (Log.Record.line settings.format timestamp)

/-- A whole run on a tree of files, with every record at one time. -/
def runArguments (arguments : List String) (environment : Log.Settings)
    (directory timestamp : String) (files : FileTree) : RunReport :=
  match Arguments.parse arguments with
  | .error stop =>
      { exitCode := stop.exitCode
        printed := stop.printed
        lines := if stop = .mistake then none else some []
        files }
  | .ok invocation =>
      let settings := environment.override invocation.logFormat invocation.logLevel
      let (result, world) := (invocation.command.script directory).run { files }
      let logged := settings.lines timestamp world.records
      match result with
      | .ok _ =>
          { exitCode := 0, printed := world.printed, lines := some logged, files := world.files }
      | .error failure =>
          { exitCode := failure.exitCode
            printed := world.printed
            lines := some (logged ++ [failure.report])
            files := world.files }

end EnumLowering
