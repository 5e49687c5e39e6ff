/-!
The help pages of the command line. A page says what it is about, how the command
is written, and what the parts of the command mean.
-/

namespace EnumLowering

inductive HelpTopic where
  | program
  | lower
  | native
  | help
  deriving DecidableEq, Repr

/-- Parts of a command and their meanings, in the order in which they are shown. -/
structure HelpTable where
  title : String
  rows : List (String × String)

structure HelpPage where
  about : String
  usage : String
  tables : List HelpTable

namespace HelpTable

def width (table : HelpTable) : Nat :=
  (table.rows.map fun row => row.1.length).foldl max 0

/-- The meanings start two blanks after the widest part. -/
def rowText (table : HelpTable) (row : String × String) : String :=
  let gap := table.width + 2 - row.1.length
  "  " ++ row.1 ++ String.ofList (List.replicate gap ' ') ++ row.2 ++ "\n"

def text (table : HelpTable) : String :=
  table.title ++ ":\n" ++ String.join (table.rows.map table.rowText)

end HelpTable

def HelpPage.text (page : HelpPage) : String :=
  page.about ++ "\n\nUsage: " ++ page.usage ++ "\n" ++
    String.join (page.tables.map fun table => "\n" ++ table.text)

namespace HelpTopic

def lowerAbout : String := "Lower the enums of a JSON compilation unit"

def nativeAbout : String := "Print the native support code generated for one enum"

def helpAbout : String := "Print this message or the help of the given subcommand(s)"

def logLevelRow : String × String :=
  ("    --log-level <LOG_LEVEL>", "Log level (error, warn, info, debug, trace)")

def logFormatRow : String × String :=
  ("    --log-format <LOG_FORMAT>", "Log output format (text, json)")

/-- The rows of the options that decide how code is generated. -/
def optionRows : List (String × String) := [
  ("    --config <CONFIG>", "Path to a jtran.toml config file"),
  ("    --swift-friendly", "Emit the ordinal-to-native-enum conversion for Swift callers"),
  ("    --memory <MEMORY>", "Memory management of the generated code (rc, arc)")]

def helpRow : String × String := ("-h, --help", "Print help")

/-- The options of the log may stand in front of a command and behind it, so every
command lists them, each beside the option of its own in the same place. -/
def page : HelpTopic → HelpPage
  | .program => {
      about := "The jtran enum lowering driver"
      usage := "jtranc [OPTIONS] <COMMAND>"
      tables := [
        { title := "Commands"
          rows := [("lower", lowerAbout), ("native", nativeAbout), ("help", helpAbout)] },
        { title := "Options"
          rows := [logLevelRow, logFormatRow, helpRow, ("-V, --version", "Print version")] }] }
  | .lower => {
      about := lowerAbout
      usage := "jtranc lower [OPTIONS] <INPUT>"
      tables := [
        { title := "Arguments", rows := [("<INPUT>", "Compilation unit to read (JSON)")] },
        { title := "Options"
          rows := [
            logLevelRow,
            ("-o, --output <OUTPUT>", "Where to write the rewritten unit (default: stdout)"),
            ("    --emit-native <EMIT_NATIVE>", "Also write the generated native blocks as text"),
            logFormatRow,
            ("    --stats <STATS>", "Write pass statistics as JSON")] ++ optionRows ++ [helpRow] }] }
  | .native => {
      about := nativeAbout
      usage := "jtranc native [OPTIONS] --name <NAME>"
      tables := [
        { title := "Options"
          rows := [
            logLevelRow,
            ("    --name <NAME>", "Output name of the enum type, e.g. ComExampleColor"),
            ("    --count <COUNT>", "Number of constants the enum declares [default: 0]"),
            logFormatRow] ++ optionRows ++ [helpRow] }] }
  | .help => {
      about := helpAbout
      usage := "jtranc help [COMMAND]..."
      tables := [
        { title := "Arguments"
          rows := [("[COMMAND]...", "Print help for the subcommand(s)")] }] }

end HelpTopic

end EnumLowering
