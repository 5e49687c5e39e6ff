import EnumLowering.Options
import EnumLowering.Toml.Document

/-!
Options from a configuration file: the table `translate` of a TOML document.
Keys that are absent keep their defaults and unknown keys are skipped. The table
may also be an array of its values in order; a point in time counts as a table
without known keys.
-/

namespace EnumLowering.Config

open Toml

def readBoolean? : Item → Option Bool
  | .boolean value => some value
  | _ => none

def readWidth? : Item → Option Nat
  | .integer value => if 0 ≤ value then some value.toNat else none
  | _ => none

def memoryOfTag? (tag : String) : Option MemoryManagement :=
  match tag with
  | "reference-counting" | "rc" => some .referenceCounting
  | "arc" => some .automatic
  | _ => none

def isEmptyContainer : Item → Bool
  | .array items => items.isEmpty
  | .table _ entries => entries.isEmpty
  | _ => false

/-- The name of a choice, alone or as the only key of a table. -/
def readMemory? : Item → Option MemoryManagement
  | .string tag => memoryOfTag? tag
  | .table _ [(tag, item)] => if isEmptyContainer item then memoryOfTag? tag else none
  | _ => none

/-- The value of an absent item is the default. -/
def readOr {α : Type} (default : α) (read? : Item → Option α) : Option Item → Option α
  | none => some default
  | some item => read? item

def options? (swiftFriendly memory indentWidth : Option Item) : Option Options := do
  let defaults : Options := {}
  let swiftFriendly ← readOr defaults.swiftFriendly readBoolean? swiftFriendly
  let memory ← readOr defaults.memory readMemory? memory
  let indentWidth ← readOr defaults.indentWidth readWidth? indentWidth
  some { swiftFriendly, memory, indentWidth }

def ofItem? : Item → Option Options
  | .table _ entries =>
      options? (entries.lookup "swift-friendly") (entries.lookup "memory")
        (entries.lookup "indent-width")
  | .time => some {}
  | .array items => options? items[0]? items[1]? items[2]?
  | _ => none

/-- The options that a configuration text gives, none if it cannot be read. -/
def ofText? (text : String) : Option Options :=
  (document? text).bind fun entries => readOr {} ofItem? (entries.lookup "translate")

end EnumLowering.Config
