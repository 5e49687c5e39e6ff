import EnumLowering.Command.Help
import EnumLowering.Log.Settings
import EnumLowering.Number.Decimal

/-!
The arguments of the command line. They are taken from left to right, and the
first thing that stands in the way of running a command decides: a mistake, or
the wish for help or for the version. A value in an argument of its own is looked
at late, when the next flag comes or the arguments end. So a command that follows
such a value is read first and may still answer with its help.
-/

namespace EnumLowering

structure OptionFlags where
  config : Option String := none
  swiftFriendly : Bool := false
  memory : Option String := none
  deriving DecidableEq, Repr

/-- The files of a lowering. Without an output file the unit is printed. -/
structure UnitFiles where
  input : String
  output : Option String := none
  native : Option String := none
  stats : Option String := none
  deriving DecidableEq, Repr

inductive Command where
  | lower (files : UnitFiles) (flags : OptionFlags)
  | native (typeName : String) (count : Nat) (flags : OptionFlags)
  deriving DecidableEq, Repr

structure Invocation where
  logFormat : Option Log.Format := none
  logLevel : Option Log.Level := none
  command : Command
  deriving DecidableEq, Repr

inductive Stop where
  | mistake
  | help (topic : HelpTopic)
  | version
  deriving DecidableEq, Repr

namespace Arguments

inductive Flag where
  | logLevel
  | logFormat
  | output
  | emitNative
  | stats
  | config
  | swiftFriendly
  | memory
  | name
  | count
  | help
  | version
  deriving DecidableEq, Repr

namespace Flag

def long : Flag → String
  | .logLevel => "log-level"
  | .logFormat => "log-format"
  | .output => "output"
  | .emitNative => "emit-native"
  | .stats => "stats"
  | .config => "config"
  | .swiftFriendly => "swift-friendly"
  | .memory => "memory"
  | .name => "name"
  | .count => "count"
  | .help => "help"
  | .version => "version"

def short? : Flag → Option Char
  | .output => some 'o'
  | .help => some 'h'
  | .version => some 'V'
  | _ => none

def takesValue : Flag → Bool
  | .swiftFriendly | .help | .version => false
  | _ => true

end Flag

/-- A count is a decimal number of 64 bits; a plus may stand in front. -/
def count? (text : String) : Option Nat :=
  let digits :=
    match text.toList with
    | '+' :: rest => rest
    | characters => characters
  if digits.isEmpty then none
  else (digits.mapM Number.digit?).map Number.digitsValue |>.filter (· < UInt64.size)

/-- Paths are not empty, and the values of closed choices have to be known. What
is only looked at when the command runs is not checked here. -/
def Flag.accepts (flag : Flag) (value : String) : Bool :=
  match flag with
  | .logLevel => (Log.Level.ofName? value).isSome
  | .logFormat => (Log.Format.ofName? value).isSome
  | .count => (count? value).isSome
  | .output | .emitNative | .stats | .config => value != ""
  | _ => true

inductive Form where
  | separator
  | long (name : String) (value : Option String)
  | short (letters : List Char)
  | operand
  deriving DecidableEq, Repr

def longForm (body : List Char) : Form :=
  let name := body.takeWhile (· != '=')
  let value :=
    match body.drop name.length with
    | _ :: value => some (String.ofList value)
    | [] => none
  .long (String.ofList name) value

/-- A dash alone is an operand. -/
def formOf (argument : String) : Form :=
  match argument.toList with
  | ['-', '-'] => .separator
  | '-' :: '-' :: body => longForm body
  | '-' :: letter :: letters => .short (letter :: letters)
  | _ => .operand

structure Grammar where
  topic : HelpTopic
  flags : List Flag
  operands : Nat

/-- The arguments read so far. The latest flag may still wait for its value, or
its value for being looked at. -/
structure Reading where
  given : List (Flag × String) := []
  operands : List String := []
  pending : Option (Flag × Option String) := none
  isSeparated : Bool := false
  deriving DecidableEq, Repr

namespace Reading

/-- Each flag is given at most once. -/
def give (reading : Reading) (flag : Flag) (value : String) : Except Stop Reading :=
  if (reading.given.lookup flag).isSome then .error .mistake
  else if flag.accepts value then
    .ok { reading with given := reading.given ++ [(flag, value)] }
  else .error .mistake

def settle (reading : Reading) : Except Stop Reading :=
  match reading.pending with
  | none => .ok reading
  | some (_, none) => .error .mistake
  | some (flag, some value) => { reading with pending := none }.give flag value

def isWaiting (reading : Reading) : Bool :=
  match reading.pending with
  | some (_, none) => true
  | _ => false

def giveSwitch (grammar : Grammar) (reading : Reading) (flag : Flag) : Except Stop Reading :=
  match flag with
  | .help => .error (.help grammar.topic)
  | .version => .error .version
  | flag => reading.give flag ""

def addLong (grammar : Grammar) (reading : Reading) (name : String) (value : Option String) :
    Except Stop Reading :=
  match grammar.flags.find? (·.long = name), value with
  | none, _ => .error .mistake
  | some flag, some value => if flag.takesValue then reading.give flag value else .error .mistake
  | some flag, none =>
      if flag.takesValue then .ok { reading with pending := some (flag, none) }
      else reading.giveSwitch grammar flag

/-- Letters behind one dash: switches, up to a flag whose value is the rest. -/
def addShort (grammar : Grammar) (reading : Reading) : List Char → Except Stop Reading
  | [] => .ok reading
  | letter :: letters =>
      match grammar.flags.find? (·.short? = some letter) with
      | none => .error .mistake
      | some flag =>
          if flag.takesValue then
            match letters with
            | [] => .ok { reading with pending := some (flag, none) }
            | '=' :: value => reading.give flag (String.ofList value)
            | value => reading.give flag (String.ofList value)
          else
            match reading.giveSwitch grammar flag with
            | .ok reading => addShort grammar reading letters
            | .error stop => .error stop

/-- Operands name files, so they are not empty. -/
def addOperand (grammar : Grammar) (reading : Reading) (operand : String) : Except Stop Reading :=
  if reading.operands.length < grammar.operands && operand != "" then
    .ok { reading with operands := reading.operands ++ [operand] }
  else .error .mistake

def add (grammar : Grammar) (reading : Reading) (argument : String) : Except Stop Reading :=
  if reading.isSeparated then reading.settle.bind (·.addOperand grammar argument)
  else
    match formOf argument, reading.pending with
    | .operand, some (flag, none) => .ok { reading with pending := some (flag, some argument) }
    | .operand, _ => reading.settle.bind (·.addOperand grammar argument)
    | .separator, _ => .ok { reading with isSeparated := true }
    | .long name value, _ => reading.settle.bind (·.addLong grammar name value)
    | .short letters, _ => reading.settle.bind (·.addShort grammar letters)

/-- All arguments of a command. No flag is left without its value. -/
def ofArguments (grammar : Grammar) (arguments : List String) : Except Stop Reading :=
  (arguments.foldlM (add grammar) {}).bind settle

def value? (reading : Reading) (flag : Flag) : Option String := reading.given.lookup flag

def optionFlags (reading : Reading) : OptionFlags :=
  { config := reading.value? .config
    swiftFriendly := (reading.value? .swiftFriendly).isSome
    memory := reading.value? .memory }

def logLevel? (reading : Reading) : Option Log.Level :=
  (reading.value? .logLevel).bind Log.Level.ofName?

def logFormat? (reading : Reading) : Option Log.Format :=
  (reading.value? .logFormat).bind Log.Format.ofName?

end Reading

def frontGrammar : Grammar :=
  { topic := .program, flags := [.logLevel, .logFormat, .help, .version], operands := 0 }

def lowerGrammar : Grammar :=
  { topic := .lower
    flags := [.output, .emitNative, .stats, .config, .swiftFriendly, .memory, .logLevel,
      .logFormat, .help]
    operands := 1 }

def nativeGrammar : Grammar :=
  { topic := .native
    flags := [.name, .count, .config, .swiftFriendly, .memory, .logLevel, .logFormat, .help]
    operands := 0 }

def lowerCommand (reading : Reading) : Except Stop Command :=
  match reading.operands with
  | [input] =>
      .ok (.lower
        { input
          output := reading.value? .output
          native := reading.value? .emitNative
          stats := reading.value? .stats }
        reading.optionFlags)
  | _ => .error .mistake

def nativeCommand (reading : Reading) : Except Stop Command :=
  match reading.value? .name with
  | some name =>
      .ok (.native name ((reading.value? .count).bind count? |>.getD 0) reading.optionFlags)
  | none => .error .mistake

/-- A command after what stood in front of it, which is settled last. What follows
the command has the last word on the log. -/
def commandCall (front : Reading) (grammar : Grammar) (make : Reading → Except Stop Command)
    (arguments : List String) : Except Stop Invocation := do
  let reading ← Reading.ofArguments grammar arguments
  let command ← make reading
  let front ← front.settle
  return {
    logFormat := reading.logFormat?.or front.logFormat?
    logLevel := reading.logLevel?.or front.logLevel?
    command }

/-- Help can be asked for one command by its name. -/
def helpCall (topics : List String) : Stop :=
  match topics with
  | [] => .help .program
  | ["lower"] => .help .lower
  | ["native"] => .help .native
  | ["help"] => .help .help
  | _ => .mistake

def call (front : Reading) (word : String) (arguments : List String) : Except Stop Invocation :=
  match word with
  | "lower" => commandCall front lowerGrammar lowerCommand arguments
  | "native" => commandCall front nativeGrammar nativeCommand arguments
  | "help" => .error (helpCall arguments)
  | _ => .error .mistake

/-- The first operand is the command and the rest belongs to it. -/
def parseFrom (front : Reading) : List String → Except Stop Invocation
  | [] => .error .mistake
  | argument :: arguments =>
      if formOf argument = .operand && !front.isWaiting && !front.isSeparated then
        call front argument arguments
      else
        match front.add frontGrammar argument with
        | .ok front => parseFrom front arguments
        | .error stop => .error stop

def parse (arguments : List String) : Except Stop Invocation := parseFrom {} arguments

end Arguments

end EnumLowering
