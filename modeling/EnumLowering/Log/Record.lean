import EnumLowering.Json.Value
import EnumLowering.Log.Settings
import EnumLowering.Lowering.Outcome
import EnumLowering.Text.Quoted

/-!
Log records and the lines they are written as.
-/

namespace EnumLowering.Log

/-- The value of a field: a text as it is, a text that lines show in quotes, or
a number. -/
inductive FieldValue where
  | plain (text : String)
  | quoted (text : String)
  | count (value : Nat)
  deriving DecidableEq, Repr

def FieldValue.text : FieldValue → String
  | .plain text => text
  | .quoted text => Text.quoted text
  | .count value => Number.decimalText value

def FieldValue.toJson : FieldValue → Json
  | .plain text | .quoted text => .string text
  | .count value => .ofNat value

structure Record where
  level : Level
  target : String
  message : String
  fields : List (String × FieldValue)
  deriving DecidableEq, Repr

namespace Record

/-- The level is set to the right of five columns. -/
def paddedLabel (level : Level) : String :=
  let label := level.label
  String.ofList (List.replicate (5 - label.length) ' ') ++ label

def textLine (timestamp : String) (record : Record) : String :=
  timestamp ++ " " ++ paddedLabel record.level ++ " " ++ record.target ++ ": " ++ record.message ++
    String.join (record.fields.map fun (name, value) => " " ++ name ++ "=" ++ value.text)

def jsonLine (timestamp : String) (record : Record) : String :=
  Json.compact (.object [
    ("timestamp", .string timestamp),
    ("level", .string record.level.label),
    ("fields", .object (("message", .string record.message) ::
      record.fields.map fun (name, value) => (name, value.toJson))),
    ("target", .string record.target)])

def line (format : Format) (timestamp : String) (record : Record) : String :=
  match format with
  | .text => record.textLine timestamp
  | .json => record.jsonLine timestamp

end Record

end EnumLowering.Log

namespace EnumLowering

namespace Event

/-- What the log shows of a change. -/
def record (event : Event) : Log.Record :=
  match event with
  | .constructorWidened signature =>
      { level := .debug
        target := "jtran::enums"
        message := "rewrote enum constructor"
        fields := [("constructor", .plain signature)] }
  | .duplicateConstant enumType constant =>
      { level := .warn
        target := "jtran::enums"
        message := "duplicate enum constant name"
        fields := [("enum_type", .plain enumType), ("constant", .quoted constant)] }
  | .enumLowered outputName constants =>
      { level := .debug
        target := "jtran::enums"
        message := "lowered enum"
        fields := [("enum_type", .plain outputName), ("constants", .count constants)] }

end Event

namespace Stats

/-- The counts by the names that reports use. -/
def counts (stats : Stats) : List (String × Nat) :=
  [("enums", stats.enums), ("constructors", stats.constructors),
    ("forwarding_calls", stats.forwardingCalls), ("constants", stats.constants)]

def toJson (stats : Stats) : Json :=
  .object (stats.counts.map fun (name, count) => (name, .ofNat count))

end Stats

end EnumLowering
