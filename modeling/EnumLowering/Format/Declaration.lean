import EnumLowering.Format.Expression
import EnumLowering.Syntax.Declaration

/-!
The JSON form of statements, declarations and compilation units.
-/

namespace EnumLowering

open Json

namespace Placement

def name : Placement → String
  | .inner => "inner"
  | .outer => "outer"

def read : Reader Placement :=
  readVariant <| NameTable.variants <|
    [Placement.inner, .outer].map fun placement => (placement.name, placement)

end Placement

namespace NativeBlock

def toJson (block : NativeBlock) : Json :=
  .object [
    ("placement", .string block.placement.name),
    ("header", .string block.header),
    ("implementation", .string block.implementation)]

def read : Reader NativeBlock :=
  readRecord "struct NativeDeclaration" <|
    Fields.map (fun (placement, header, implementation) =>
      { placement, header, implementation }) <|
    (Fields.required "placement" Placement.read).and <|
    (Fields.required "header" readString).and <|
    Fields.required "implementation" readString

end NativeBlock

namespace ConstructorCall

def toJson (call : ConstructorCall) : Json :=
  .object [
    ("method", call.method.toJson),
    ("arguments", .array (Expression.listToJson call.arguments))]

def read (description : String) : Reader ConstructorCall :=
  readRecord description <|
    Fields.map (fun (method, arguments) => { method, arguments }) <|
    (Fields.required "method" MethodBinding.read).and <|
    Fields.defaulted "arguments" [] (readList Expression.read)

end ConstructorCall

namespace EnumConstant

def toJson (constant : EnumConstant) : Json :=
  .object [
    ("variable", constant.binding.toJson),
    ("constructor", constant.constructor.toJson),
    ("arguments", .array (Expression.listToJson constant.arguments))]

def read : Reader EnumConstant :=
  readRecord "struct EnumConstantDeclaration" <|
    Fields.map (fun (binding, constructor, arguments) =>
      { binding, constructor, arguments }) <|
    (Fields.required "variable" VariableBinding.read).and <|
    (Fields.required "constructor" MethodBinding.read).and <|
    Fields.defaulted "arguments" [] (readList Expression.read)

end EnumConstant

namespace FieldDeclaration

def toJson (field : FieldDeclaration) : Json :=
  .object ([("variable", field.binding.toJson)] ++
    optionalEntry "initializer" Expression.toJson field.initializer ++
    [("modifiers", field.modifiers.toJson)])

def read : Reader FieldDeclaration :=
  readRecord "struct FieldDeclaration" <|
    Fields.map (fun (binding, initializer, modifiers) =>
      { binding, initializer, modifiers }) <|
    (Fields.required "variable" VariableBinding.read).and <|
    (Fields.optional "initializer" Expression.read).and <|
    Fields.defaulted "modifiers" {} Modifiers.read

end FieldDeclaration

/-- A parameter is a record of its own, with the variable as its only field. -/
def parameterToJson (binding : VariableBinding) : Json :=
  .object [("variable", binding.toJson)]

def readParameter : Reader VariableBinding :=
  readRecord "struct SingleVariableDeclaration" (Fields.required "variable" VariableBinding.read)

mutual

def Statement.toJson : Statement → Json
  | .expression value => .object [("Expression", value.toJson)]
  | .block statements =>
      .object [("Block", .object [("statements", .array (Statement.listToJson statements))])]
  | .conditional condition thenBranch none =>
      .object [("If", .object [
        ("condition", condition.toJson),
        ("then_branch", thenBranch.toJson)])]
  | .conditional condition thenBranch (some elseBranch) =>
      .object [("If", .object [
        ("condition", condition.toJson),
        ("then_branch", thenBranch.toJson),
        ("else_branch", elseBranch.toJson)])]
  | .result value => .object [("Return", ofOption Expression.toJson value)]
  | .localVariable binding initializer =>
      .object [("VariableDeclaration", .object ([("variable", binding.toJson)] ++
        optionalEntry "initializer" Expression.toJson initializer))]
  | .localType declaration => .object [("TypeDeclaration", declaration.toJson)]
  | .thisCall call => .object [("ConstructorInvocation", call.toJson)]
  | .superCall call => .object [("SuperConstructorInvocation", call.toJson)]

def Statement.listToJson : List Statement → List Json
  | [] => []
  | statement :: statements => statement.toJson :: Statement.listToJson statements

def MethodDeclaration.toJson : MethodDeclaration → Json
  | ⟨binding, modifiers, parameters, none⟩ =>
      .object [
        ("binding", binding.toJson),
        ("modifiers", modifiers.toJson),
        ("parameters", .array (parameters.map parameterToJson))]
  | ⟨binding, modifiers, parameters, some body⟩ =>
      .object [
        ("binding", binding.toJson),
        ("modifiers", modifiers.toJson),
        ("parameters", .array (parameters.map parameterToJson)),
        ("body", .object [("statements", .array (Statement.listToJson body))])]

def Member.toJson : Member → Json
  | .method declaration => .object [("Method", declaration.toJson)]
  | .field declaration => .object [("Field", declaration.toJson)]
  | .type declaration => .object [("Type", declaration.toJson)]
  | .native block => .object [("Native", block.toJson)]

def Member.listToJson : List Member → List Json
  | [] => []
  | member :: members => member.toJson :: Member.listToJson members

def ClassDeclaration.toJson : ClassDeclaration → Json
  | ⟨binding, members, initializers⟩ =>
      .object [
        ("binding", binding.toJson),
        ("body_declarations", .array (Member.listToJson members)),
        ("class_init_statements", .array (Statement.listToJson initializers))]

def EnumDeclaration.toJson : EnumDeclaration → Json
  | ⟨binding, constants, members, initializers⟩ =>
      .object [
        ("binding", binding.toJson),
        ("constants", .array (constants.map EnumConstant.toJson)),
        ("body_declarations", .array (Member.listToJson members)),
        ("class_init_statements", .array (Statement.listToJson initializers))]

def TypeDeclaration.toJson : TypeDeclaration → Json
  | .ofClass declaration => .object [("Class", declaration.toJson)]
  | .ofEnum declaration => .object [("Enum", declaration.toJson)]

end

/-- A block, given a reader for the statements in it. -/
def readBlock (statement : Reader Statement) : Reader (List Statement) :=
  readRecord "struct Block" (Fields.defaulted "statements" [] (readList statement))

def MethodDeclaration.readWith (statement : Reader Statement) : Reader MethodDeclaration :=
  readRecord "struct MethodDeclaration" <|
    Fields.map (fun (binding, modifiers, parameters, body) =>
      { binding, modifiers, parameters, body }) <|
    (Fields.required "binding" MethodBinding.read).and <|
    (Fields.defaulted "modifiers" {} Modifiers.read).and <|
    (Fields.defaulted "parameters" [] (readList readParameter)).and <|
    Fields.optional "body" (readBlock statement)

def Member.readWith (statement : Reader Statement) (type : Reader TypeDeclaration) :
    Reader Member :=
  readVariant [
    ("Method", .wrapped fun depth tree =>
      (MethodDeclaration.readWith statement depth tree).map .method),
    ("Field", .wrapped fun depth tree => (FieldDeclaration.read depth tree).map .field),
    ("Type", .wrapped fun depth tree => (type depth tree).map .type),
    ("Native", .wrapped fun depth tree => (NativeBlock.read depth tree).map .native)]

def ClassDeclaration.readWith (statement : Reader Statement) (type : Reader TypeDeclaration) :
    Reader ClassDeclaration :=
  readRecord "struct ClassDeclaration" <|
    Fields.map (fun (binding, members, initializers) => { binding, members, initializers }) <|
    (Fields.required "binding" TypeBinding.read).and <|
    (Fields.defaulted "body_declarations" [] (readList (Member.readWith statement type))).and <|
    Fields.defaulted "class_init_statements" [] (readList statement)

def EnumDeclaration.readWith (statement : Reader Statement) (type : Reader TypeDeclaration) :
    Reader EnumDeclaration :=
  readRecord "struct EnumDeclaration" <|
    Fields.map (fun (binding, constants, members, initializers) =>
      { binding, constants, members, initializers }) <|
    (Fields.required "binding" TypeBinding.read).and <|
    (Fields.defaulted "constants" [] (readList EnumConstant.read)).and <|
    (Fields.defaulted "body_declarations" [] (readList (Member.readWith statement type))).and <|
    Fields.defaulted "class_init_statements" [] (readList statement)

mutual

def Statement.readLevels : Nat → Reader Statement
  | 0 => fun _ _ => .error .malformed
  | levels + 1 =>
      readVariant [
        ("Expression", .wrapped fun depth tree => (Expression.read depth tree).map .expression),
        ("Block", .wrapped fun depth tree =>
          (readBlock (Statement.readLevels levels) depth tree).map .block),
        ("If", .record <| readRecord "struct variant Statement::If" <|
          Fields.map (fun (condition, thenBranch, elseBranch) =>
            .conditional condition thenBranch elseBranch) <|
          (Fields.required "condition" Expression.read).and <|
          (Fields.required "then_branch" (Statement.readLevels levels)).and <|
          Fields.optional "else_branch" (Statement.readLevels levels)),
        ("Return", .wrapped fun depth tree =>
          (readOption Expression.read depth tree).map .result),
        ("VariableDeclaration", .record <|
          readRecord "struct variant Statement::VariableDeclaration" <|
          Fields.map (fun (binding, initializer) => .localVariable binding initializer) <|
          (Fields.required "variable" VariableBinding.read).and <|
          Fields.optional "initializer" Expression.read),
        ("TypeDeclaration", .wrapped fun depth tree =>
          (TypeDeclaration.readLevels levels depth tree).map .localType),
        ("ConstructorInvocation", .wrapped fun depth tree =>
          (ConstructorCall.read "struct ConstructorInvocation" depth tree).map .thisCall),
        ("SuperConstructorInvocation", .wrapped fun depth tree =>
          (ConstructorCall.read "struct SuperConstructorInvocation" depth tree).map .superCall)]

def TypeDeclaration.readLevels : Nat → Reader TypeDeclaration
  | 0 => fun _ _ => .error .malformed
  | levels + 1 =>
      readVariant [
        ("Class", .wrapped fun depth tree =>
          (ClassDeclaration.readWith (Statement.readLevels levels)
            (TypeDeclaration.readLevels levels) depth tree).map .ofClass),
        ("Enum", .wrapped fun depth tree =>
          (EnumDeclaration.readWith (Statement.readLevels levels)
            (TypeDeclaration.readLevels levels) depth tree).map .ofEnum)]

end

def Statement.read : Reader Statement := fun depth => Statement.readLevels (depth + 1) depth

def TypeDeclaration.read : Reader TypeDeclaration :=
  fun depth => TypeDeclaration.readLevels (depth + 1) depth

def MethodDeclaration.read : Reader MethodDeclaration := MethodDeclaration.readWith Statement.read

def EnumDeclaration.read : Reader EnumDeclaration :=
  EnumDeclaration.readWith Statement.read TypeDeclaration.read

namespace CompilationUnit

def toJson (compilationUnit : CompilationUnit) : Json :=
  .object (optionalEntry "source_path" .string compilationUnit.sourcePath ++ [
    ("types", .array (compilationUnit.types.map TypeDeclaration.toJson)),
    ("next_var_id", .ofNat compilationUnit.nextVarId.toNat)])

def read : Reader CompilationUnit :=
  readRecord "struct CompilationUnit" <|
    Fields.map (fun (sourcePath, types, nextVarId) => { sourcePath, types, nextVarId }) <|
    (Fields.optional "source_path" readString).and <|
    (Fields.defaulted "types" [] (readList TypeDeclaration.read)).and <|
    Fields.defaulted "next_var_id" 0 readUInt32

end CompilationUnit

end EnumLowering
