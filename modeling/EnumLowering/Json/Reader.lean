import EnumLowering.Json.Tree
import EnumLowering.Text.Quoted

/-!
Readers of JSON trees. A reader accepts a tree or names the first thing in the
text that it cannot accept. It is given the number of containers that may still
be opened: a text that nests deeper than that is as bad as one that is malformed.

Records are described by their fields in declaration order. The fields of an
object come in any order, so the parts of a record are read independently and of
several faults the one that stands first in the text is reported.
-/

namespace EnumLowering.Json

inductive Found where
  | null
  | boolean (value : Bool)
  | integer (value : Int)
  | float (value : Number.Binary64)
  | string (value : String)
  | sequence
  | map
  | unitVariant

inductive ReadError where
  | malformed
  | invalidType (found : Found) (expected : String)
  | invalidValue (value : Int) (expected : String)
  | invalidLength (length : Nat) (expected : String)
  | missingField (name : String)
  | duplicateField (name : String)
  | unknownVariant (name : String) (known : List String)

def Found.text : Found → String
  | .null => "null"
  | .boolean value => "boolean `" ++ (if value then "true" else "false") ++ "`"
  | .integer value => "integer `" ++ String.ofList (Number.decimalInt value) ++ "`"
  | .float value => "floating point `" ++ value.text ++ "`"
  | .string value => "string " ++ Text.quoted value
  | .sequence => "sequence"
  | .map => "map"
  | .unitVariant => "unit variant"

namespace ReadError

def ticked (name : String) : String := "`" ++ name ++ "`"

def choices : List String → String
  | [] => "there are no variants"
  | [only] => ticked only
  | [first, second] => ticked first ++ " or " ++ ticked second
  | names => "one of " ++ String.intercalate ", " (names.map ticked)

def message : ReadError → String
  | .malformed => "malformed JSON"
  | .invalidType found expected => "invalid type: " ++ found.text ++ ", expected " ++ expected
  | .invalidValue value expected =>
      "invalid value: " ++ (Found.integer value).text ++ ", expected " ++ expected
  | .invalidLength length expected =>
      "invalid length " ++ Number.decimalText length ++ ", expected " ++ expected
  | .missingField name => "missing field " ++ ticked name
  | .duplicateField name => "duplicate field " ++ ticked name
  | .unknownVariant name known =>
      "unknown variant " ++ ticked name ++ ", expected " ++ choices known

end ReadError

/-- A reader for trees in which so many containers may still be opened. -/
abbrev Reader (α : Type) := (depth : Nat) → Tree → Except ReadError α

/-- The refusal of a tree where something else was expected. What cannot be read
at all is malformed. -/
def mismatch (expected : String) : Tree → ReadError
  | .null => .invalidType .null expected
  | .boolean value => .invalidType (.boolean value) expected
  | .number (.integer value) => .invalidType (.integer value) expected
  | .number (.float value) => .invalidType (.float value) expected
  | .string (some value) => .invalidType (.string value) expected
  | .array _ _ => .invalidType .sequence expected
  | .object _ _ => .invalidType .map expected
  | .number .outOfRange | .string none | .broken => .malformed

def readUnit : Reader Unit
  | _, .null => .ok ()
  | _, tree => .error (mismatch "unit" tree)

def readBoolean : Reader Bool
  | _, .boolean value => .ok value
  | _, tree => .error (mismatch "a boolean" tree)

def readString : Reader String
  | _, .string (some value) => .ok value
  | _, tree => .error (mismatch "a string" tree)

def readUInt32 : Reader UInt32
  | _, .number (.integer value) =>
      if 0 ≤ value && value < UInt32.size then .ok (UInt32.ofNat value.toNat)
      else .error (.invalidValue value "u32")
  | _, tree => .error (mismatch "u32" tree)

def readInt64 : Reader Int64
  | _, .number (.integer value) =>
      if Int64.minValue.toInt ≤ value && value ≤ Int64.maxValue.toInt then .ok (Int64.ofInt value)
      else .error (.invalidValue value "i64")
  | _, tree => .error (mismatch "i64" tree)

def readOption {α : Type} (read : Reader α) : Reader (Option α)
  | _, .null => .ok none
  | depth, tree => (read depth tree).map some

def readItems {α : Type} (read : Tree → Except ReadError α) : List Tree → Except ReadError (List α)
  | [] => .ok []
  | item :: items =>
      match read item with
      | .error error => .error error
      | .ok value => (readItems read items).map (value :: ·)

def readList {α : Type} (read : Reader α) : Reader (List α)
  | 0, .array _ _ => .error .malformed
  | depth + 1, .array items isClosed =>
      match readItems (read depth) items with
      | .error error => .error error
      | .ok values => if isClosed then .ok values else .error .malformed
  | _, tree => .error (mismatch "a sequence" tree)

/-- A fault together with the place of the part that has it. -/
structure Fault where
  place : Nat
  error : ReadError

/-- Where a field of a record is found, or what is wrong if it has to be there. -/
inductive Slot where
  | present (place : Nat) (tree : Tree)
  | absent (place : Nat) (error : ReadError)

/-- The fields of a record in declaration order, and how to read their slots. -/
structure Fields (α : Type) where
  names : List String
  read : (depth : Nat) → List Slot → Except Fault α

namespace Fields

def field {α : Type} (name : String) (absent : Option α) (read : Reader α) : Fields α where
  names := [name]
  read depth
    | .present place tree :: _ => (read depth tree).mapError fun error => { place, error }
    | .absent place error :: _ =>
        match absent with
        | some value => .ok value
        | none => .error { place, error }
    | [] => .error { place := 0, error := .malformed }

def required {α : Type} (name : String) (read : Reader α) : Fields α := field name none read

def defaulted {α : Type} (name : String) (value : α) (read : Reader α) : Fields α :=
  field name (some value) read

def optional {α : Type} (name : String) (read : Reader α) : Fields (Option α) :=
  defaulted name none (readOption read)

/-- Both groups of fields. Of two faults the earlier one counts. -/
def and {α β : Type} (left : Fields α) (right : Fields β) : Fields (α × β) where
  names := left.names ++ right.names
  read depth slots :=
    match left.read depth (slots.take left.names.length),
        right.read depth (slots.drop left.names.length) with
    | .ok first, .ok second => .ok (first, second)
    | .error fault, .ok _ => .error fault
    | .ok _, .error fault => .error fault
    | .error fault, .error other => .error (if other.place < fault.place then other else fault)

def map {α β : Type} (make : α → β) (fields : Fields α) : Fields β where
  names := fields.names
  read depth slots := (fields.read depth slots).map make

end Fields

def entryAt? (key : String) (place : Nat) : List (Option String × Tree) → Option (Nat × Tree)
  | [] => none
  | (some name, tree) :: entries =>
      if name = key then some (place, tree) else entryAt? key (place + 1) entries
  | (none, _) :: entries => entryAt? key (place + 1) entries

/-- A missing field is noticed after the end of the object. -/
def objectSlots (names : List String) (entries : List (Option String × Tree)) : List Slot :=
  names.map fun name =>
    match entryAt? name 0 entries with
    | some (place, tree) => .present place tree
    | none => .absent (entries.length + 1) (.missingField name)

/-- The first fault of an object apart from the values of its fields: a field
given twice, a key that cannot be read, a fault in a value nobody reads, or a
missing end. -/
def objectFault? (names : List String) (isClosed : Bool) (seen : List String) (place : Nat) :
    List (Option String × Tree) → Option Fault
  | [] => if isClosed then none else some { place, error := .malformed }
  | (none, _) :: _ => some { place, error := .malformed }
  | (some key, tree) :: entries =>
      if names.contains key then
        if seen.contains key then some { place, error := .duplicateField key }
        else objectFault? names isClosed (key :: seen) (place + 1) entries
      else if tree.isSound then objectFault? names isClosed seen (place + 1) entries
      else some { place, error := .malformed }

def lengthText (description : String) (count : Nat) : String :=
  description ++ " with " ++ Number.decimalText count ++
    (if count = 1 then " element" else " elements")

def arraySlots (expected : String) (place : Nat) : List String → List Tree → List Slot
  | [], _ => []
  | _ :: names, [] =>
      .absent place (.invalidLength place expected) :: arraySlots expected (place + 1) names []
  | _ :: names, item :: items => .present place item :: arraySlots expected (place + 1) names items

/-- An array may end early but not late. -/
def arrayFault? (fieldCount itemCount : Nat) (isClosed : Bool) : Option Fault :=
  if isClosed && itemCount ≤ fieldCount then none
  else some { place := min fieldCount itemCount, error := .malformed }

def settle {α : Type} (value : Except Fault α) (fault : Option Fault) : Except ReadError α :=
  match value, fault with
  | .ok value, none => .ok value
  | .ok _, some fault => .error fault.error
  | .error fault, none => .error fault.error
  | .error inner, some outer =>
      .error (if inner.place < outer.place then inner.error else outer.error)

def readRecord {α : Type} (description : String) (fields : Fields α) : Reader α
  | 0, .object _ _ | 0, .array _ _ => .error .malformed
  | depth + 1, .object entries isClosed =>
      settle (fields.read depth (objectSlots fields.names entries))
        (objectFault? fields.names isClosed [] 0 entries)
  | depth + 1, .array items isClosed =>
      settle
        (fields.read depth
          (arraySlots (lengthText description fields.names.length) 0 fields.names items))
        (arrayFault? fields.names.length items.length isClosed)
  | _, tree => .error (mismatch description tree)

inductive Body (α : Type) where
  | bare (value : α)
  | wrapped (read : Reader α)
  | record (read : Reader α)

def variantBody? {α : Type} (variants : List (String × Body α)) (tag : String) :
    Except ReadError (Body α) :=
  match variants.lookup tag with
  | some body => .ok body
  | none => .error (.unknownVariant tag (variants.map Prod.fst))

def Body.readBare {α : Type} : Body α → Except ReadError α
  | .bare value => .ok value
  | .wrapped _ => .error (.invalidType .unitVariant "newtype variant")
  | .record _ => .error (.invalidType .unitVariant "struct variant")

def Body.read {α : Type} : Body α → Reader α
  | .bare value, depth, tree => (readUnit depth tree).map fun _ => value
  | .wrapped read, depth, tree => read depth tree
  | .record read, depth, tree => read depth tree

/-- One of several variants: its name alone, or an object with the name as its
only key. -/
def readVariant {α : Type} (variants : List (String × Body α)) : Reader α
  | _, .string (some tag) => (variantBody? variants tag).bind Body.readBare
  | depth + 1, .object ((some tag, tree) :: entries) isClosed =>
      match (variantBody? variants tag).bind fun body => body.read depth tree with
      | .error error => .error error
      | .ok value => if entries.isEmpty && isClosed then .ok value else .error .malformed
  | _, _ => .error .malformed

def nestingLimit : Nat := 127

/-- Read a whole text: nothing but blanks may follow the value. -/
def readText {α : Type} (read : Reader α) (text : String) : Except ReadError α :=
  let (tree, isAlone) := treeOfText text
  match read nestingLimit tree with
  | .error error => .error error
  | .ok value => if isAlone then .ok value else .error .malformed

end EnumLowering.Json
