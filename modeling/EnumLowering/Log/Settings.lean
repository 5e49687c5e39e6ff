import EnumLowering.Options

/-!
How much is logged and in which form. Names are taken without regard to case;
a name that is not known changes nothing.
-/

namespace EnumLowering.Log

inductive Format where
  | text
  | json
  deriving DecidableEq, Repr

def Format.ofName? (name : String) : Option Format :=
  match name.toLower with
  | "text" | "plain" => some .text
  | "json" => some .json
  | _ => none

def Format.name : Format → String
  | .text => "text"
  | .json => "json"

inductive Level where
  | error
  | warn
  | info
  | debug
  | trace
  deriving DecidableEq, Repr

namespace Level

def ofName? (name : String) : Option Level :=
  match name.toLower with
  | "error" | "err" => some .error
  | "warn" | "warning" => some .warn
  | "info" => some .info
  | "debug" => some .debug
  | "trace" | "verbose" => some .trace
  | _ => none

def name : Level → String
  | .error => "error"
  | .warn => "warn"
  | .info => "info"
  | .debug => "debug"
  | .trace => "trace"

/-- The name as log lines show it. -/
def label : Level → String
  | .error => "ERROR"
  | .warn => "WARN"
  | .info => "INFO"
  | .debug => "DEBUG"
  | .trace => "TRACE"

/-- How talkative a level is. -/
def rank : Level → Nat
  | .error => 0
  | .warn => 1
  | .info => 2
  | .debug => 3
  | .trace => 4

/-- What is logged at `limit` includes a record of this level. -/
def isWithin (level limit : Level) : Bool := level.rank ≤ limit.rank

end Level

structure Settings where
  format : Format := .text
  level : Level := .warn
  deriving DecidableEq, Repr

namespace Settings

def override (settings : Settings) (format : Option Format) (level : Option Level) : Settings :=
  { format := format.getD settings.format, level := level.getD settings.level }

/-- The defaults with what the environment names, where it names something. -/
def ofEnvironment (format level : Option String) : Settings :=
  ({} : Settings).override (format.bind Format.ofName?) (level.bind Level.ofName?)

end Settings

end EnumLowering.Log
