import EnumLowering.Binding.Method
import EnumLowering.Binding.Variable
import EnumLowering.Json.Reader

/-!
The JSON form of bindings. A writer gives every field in declaration order and
leaves out the optional ones that are absent; the reader beside it takes the
fields in any order, or as an array in declaration order.

A reader of a recursive type takes the number of levels it may go down. Each
level opens at least one container, so the wrapper that allows one level more
than there are containers left never runs out.
-/

namespace EnumLowering

open Json

/-- A name for each value, in declaration order. -/
abbrev NameTable (α : Type) := List (String × α)

def NameTable.variants {α : Type} (table : NameTable α) : List (String × Body α) :=
  table.map fun (name, value) => (name, .bare value)

namespace TypeKind

def name : TypeKind → String
  | .classType => "class"
  | .enumType => "enum"
  | .interfaceType => "interface"
  | .primitive => "primitive"
  | .foundation => "foundation"

def read : Reader TypeKind :=
  readVariant <| NameTable.variants <|
    [TypeKind.classType, .enumType, .interfaceType, .primitive, .foundation].map
      fun kind => (kind.name, kind)

end TypeKind

namespace TypeBinding

mutual

def toJson : TypeBinding → Json
  | ⟨package, name, outer, kind, superclass⟩ =>
      .object (optionalEntry "package" .string package ++
        [("name", .string name)] ++
        entryOf "outer" outer ++
        [("kind", .string kind.name)] ++
        entryOf "superclass" superclass)

def entryOf (key : String) : Option TypeBinding → List (String × Json)
  | none => []
  | some binding => [(key, toJson binding)]

end

def readLevels : Nat → Reader TypeBinding
  | 0 => fun _ _ => .error .malformed
  | levels + 1 =>
      readRecord "struct TypeBinding" <|
        Fields.map (fun (package, name, outer, kind, superclass) =>
          { package, name, outer, kind, superclass }) <|
        (Fields.optional "package" readString).and <|
        (Fields.required "name" readString).and <|
        (Fields.optional "outer" (readLevels levels)).and <|
        (Fields.required "kind" TypeKind.read).and <|
        Fields.optional "superclass" (readLevels levels)

def read : Reader TypeBinding := fun depth => readLevels (depth + 1) depth

end TypeBinding

namespace Visibility

def name : Visibility → String
  | .publicAccess => "public"
  | .protectedAccess => "protected"
  | .packageAccess => "package"
  | .privateAccess => "private"

def read : Reader Visibility :=
  readVariant <| NameTable.variants <|
    [Visibility.publicAccess, .protectedAccess, .packageAccess, .privateAccess].map
      fun visibility => (visibility.name, visibility)

end Visibility

namespace Modifiers

def toJson (modifiers : Modifiers) : Json :=
  .object [
    ("visibility", .string modifiers.visibility.name),
    ("is_static", .boolean modifiers.isStatic),
    ("is_synthetic", .boolean modifiers.isSynthetic)]

def read : Reader Modifiers :=
  readRecord "struct Modifiers" <|
    Fields.map (fun (visibility, isStatic, isSynthetic) =>
      { visibility, isStatic, isSynthetic }) <|
    (Fields.defaulted "visibility" .packageAccess Visibility.read).and <|
    (Fields.defaulted "is_static" false readBoolean).and <|
    Fields.defaulted "is_synthetic" false readBoolean

end Modifiers

namespace VarId

def toJson (id : VarId) : Json := .ofNat id.number.toNat

def read : Reader VarId := fun depth tree => (readUInt32 depth tree).map VarId.mk

end VarId

namespace VariableBinding

def toJson (binding : VariableBinding) : Json :=
  .object ([
    ("id", binding.id.toJson),
    ("name", .string binding.name),
    ("ty", binding.type.toJson),
    ("is_parameter", .boolean binding.isParameter),
    ("is_field", .boolean binding.isField)] ++
    optionalEntry "declaring_type" TypeBinding.toJson binding.declaringType)

def read : Reader VariableBinding :=
  readRecord "struct VariableBinding" <|
    Fields.map (fun (id, name, type, isParameter, isField, declaringType) =>
      { id, name, type, isParameter, isField, declaringType }) <|
    (Fields.required "id" VarId.read).and <|
    (Fields.required "name" readString).and <|
    (Fields.required "ty" TypeBinding.read).and <|
    (Fields.defaulted "is_parameter" false readBoolean).and <|
    (Fields.defaulted "is_field" false readBoolean).and <|
    Fields.optional "declaring_type" TypeBinding.read

end VariableBinding

namespace MethodBinding

def toJson (binding : MethodBinding) : Json :=
  .object ([
    ("name", .string binding.name),
    ("declaring_type", binding.declaringType.toJson),
    ("parameter_types", .array (binding.parameterTypes.map TypeBinding.toJson))] ++
    optionalEntry "return_type" TypeBinding.toJson binding.returnType ++ [
    ("is_constructor", .boolean binding.isConstructor),
    ("modifiers", binding.modifiers.toJson)])

def read : Reader MethodBinding :=
  readRecord "struct MethodBinding" <|
    Fields.map (fun (name, declaringType, parameterTypes, returnType, isConstructor, modifiers) =>
      { name, declaringType, parameterTypes, returnType, isConstructor, modifiers }) <|
    (Fields.required "name" readString).and <|
    (Fields.required "declaring_type" TypeBinding.read).and <|
    (Fields.defaulted "parameter_types" [] (readList TypeBinding.read)).and <|
    (Fields.optional "return_type" TypeBinding.read).and <|
    (Fields.defaulted "is_constructor" false readBoolean).and <|
    Fields.defaulted "modifiers" {} Modifiers.read

end MethodBinding

end EnumLowering
