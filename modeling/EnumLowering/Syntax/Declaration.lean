import EnumLowering.Syntax.Expression

/-!
Statements and declarations. They refer to each other: a body holds statements,
a statement may declare a local type, and a type holds methods with bodies.
-/

namespace EnumLowering

/-- A call of a sibling or a superclass constructor from inside a constructor. -/
structure ConstructorCall where
  method : MethodBinding
  arguments : List Expression

structure EnumConstant where
  binding : VariableBinding
  constructor : MethodBinding
  arguments : List Expression

def EnumConstant.name (constant : EnumConstant) : String := constant.binding.name

structure FieldDeclaration where
  binding : VariableBinding
  initializer : Option Expression
  modifiers : Modifiers

/-- Whether a native block stands inside its type or at file scope. -/
inductive Placement where
  | inner
  | outer
  deriving DecidableEq, Repr

/-- Target text attached to a type: what its header and its implementation hold. -/
structure NativeBlock where
  placement : Placement
  header : String
  implementation : String
  deriving DecidableEq, Repr

mutual

inductive Statement where
  | expression (value : Expression)
  | block (statements : List Statement)
  | conditional (condition : Expression) (thenBranch : Statement) (elseBranch : Option Statement)
  | result (value : Option Expression)
  | localVariable (binding : VariableBinding) (initializer : Option Expression)
  | localType (declaration : TypeDeclaration)
  | thisCall (call : ConstructorCall)
  | superCall (call : ConstructorCall)

/-- A method or constructor; one without a body is abstract or native. -/
structure MethodDeclaration where
  binding : MethodBinding
  modifiers : Modifiers
  parameters : List VariableBinding
  body : Option (List Statement)

inductive Member where
  | method (declaration : MethodDeclaration)
  | field (declaration : FieldDeclaration)
  | type (declaration : TypeDeclaration)
  | native (block : NativeBlock)

structure ClassDeclaration where
  binding : TypeBinding
  members : List Member
  initializers : List Statement

structure EnumDeclaration where
  binding : TypeBinding
  constants : List EnumConstant
  members : List Member
  initializers : List Statement

inductive TypeDeclaration where
  | ofClass (declaration : ClassDeclaration)
  | ofEnum (declaration : EnumDeclaration)

end

namespace MethodDeclaration

def ofBinding (binding : MethodBinding) (parameters : List VariableBinding)
    (body : List Statement) : MethodDeclaration :=
  { binding, modifiers := binding.modifiers, parameters, body := some body }

end MethodDeclaration

namespace EnumDeclaration

/-- An enum of which nothing but the name is known yet. -/
def empty (binding : TypeBinding) : EnumDeclaration :=
  { binding, constants := [], members := [], initializers := [] }

def constructors (declaration : EnumDeclaration) : List MethodDeclaration :=
  declaration.members.filterMap fun
    | .method method => if method.binding.isConstructor then some method else none
    | .field _ | .type _ | .native _ => none

def nativeMembers (declaration : EnumDeclaration) : List NativeBlock :=
  declaration.members.filterMap fun
    | .native block => some block
    | .method _ | .field _ | .type _ => none

end EnumDeclaration

namespace TypeDeclaration

def binding : TypeDeclaration → TypeBinding
  | .ofClass declaration => declaration.binding
  | .ofEnum declaration => declaration.binding

def members : TypeDeclaration → List Member
  | .ofClass declaration => declaration.members
  | .ofEnum declaration => declaration.members

end TypeDeclaration

/-- One source file: its types, and the first variable identity it left unused. -/
structure CompilationUnit where
  sourcePath : Option String
  types : List TypeDeclaration
  nextVarId : UInt32

def CompilationUnit.ofTypes (types : List TypeDeclaration) (nextVarId : UInt32) :
    CompilationUnit :=
  { sourcePath := none, types, nextVarId }

end EnumLowering
