import EnumLowering.Files.Tree
import EnumLowering.Log.Record
import EnumLowering.Lowering.Error

/-!
Commands as descriptions of what they do to the world outside: read and write
files, print, and log. A description can be carried out by the system or on a
tree of files, and both follow the same steps.
-/

namespace EnumLowering

inductive Failure where
  | unreadableConfig (path : String) (error : FileError)
  | invalidConfig
  | unknownMemory (name : String)
  | noIndent
  | unreadableUnit (path : String) (error : FileError)
  | invalidUnit (path : String)
  | unwritable (path : String) (error : FileError)
  | internal (error : LoweringError)
  | other (text : String)
  deriving DecidableEq, Repr

namespace Failure

def message : Failure → String
  | .unreadableConfig path error => "Failed to read " ++ path ++ ": " ++ error.message
  | .invalidConfig => "Failed to parse config"
  | .unknownMemory name => "Unknown memory management '" ++ name ++ "' (expected rc or arc)"
  | .noIndent => "indent-width must be at least 1"
  | .unreadableUnit path error => "Failed to read '" ++ path ++ "': " ++ error.message
  | .invalidUnit path => "Invalid compilation unit '" ++ path ++ "'"
  | .unwritable path error => "Failed to write '" ++ path ++ "': " ++ error.message
  | .internal error => error.message
  | .other text => text

def isInternal : Failure → Bool
  | .internal _ => true
  | _ => false

/-- The line that ends a failed run. -/
def report : Failure → String
  | .internal error => "internal error[" ++ error.code ++ "]: " ++ error.message
  | failure => "error: " ++ failure.message

def exitCode (failure : Failure) : UInt32 := if failure.isInternal then 101 else 1

end Failure

inductive Script (α : Type) where
  | done (value : α)
  | fail (failure : Failure)
  | readFile (path : String) (next : Except FileError String → Script α)
  | writeFile (path content : String) (next : Except FileError Unit → Script α)
  | isFile (path : String) (next : Bool → Script α)
  | print (text : String) (next : Script α)
  | log (record : Log.Record) (next : Script α)

namespace Script

variable {α β : Type}

def bind (script : Script α) (next : α → Script β) : Script β :=
  match script with
  | .done value => next value
  | .fail failure => .fail failure
  | .readFile path rest => .readFile path fun result => (rest result).bind next
  | .writeFile path content rest => .writeFile path content fun result => (rest result).bind next
  | .isFile path rest => .isFile path fun result => (rest result).bind next
  | .print text rest => .print text (rest.bind next)
  | .log record rest => .log record (rest.bind next)

instance : Monad Script where
  pure := .done
  bind := bind

def ofExcept : Except Failure α → Script α
  | .ok value => .done value
  | .error failure => .fail failure

/-- Read a file or fail for a reason. -/
def read (path : String) (because : FileError → Failure) : Script String :=
  .readFile path fun result => ofExcept (result.mapError because)

def write (path content : String) : Script Unit :=
  .writeFile path content fun result => ofExcept (result.mapError (.unwritable path))

def logAll : List Log.Record → Script Unit
  | [] => .done ()
  | record :: records => .log record (logAll records)

/-- The world that a script is carried out in: files, printed text and log,
the latest record last. -/
structure World where
  files : FileTree
  printed : String := ""
  records : List Log.Record := []

/-- Carry a script out on a tree of files. -/
def run (script : Script α) (world : World) : Except Failure α × World :=
  match script with
  | .done value => (.ok value, world)
  | .fail failure => (.error failure, world)
  | .readFile path next => (next (world.files.read path)).run world
  | .writeFile path content next =>
      match world.files.write path content with
      | .ok files => (next (.ok ())).run { world with files }
      | .error error => (next (.error error)).run world
  | .isFile path next => (next (world.files.isFile path)).run world
  | .print text next => next.run { world with printed := world.printed ++ text }
  | .log record next => next.run { world with records := world.records ++ [record] }

end Script

end EnumLowering
