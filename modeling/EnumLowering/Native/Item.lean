import EnumLowering.Native.Expr

/-!
Generated methods and functions. An item is a signature with a body; a header
shows the signature alone and an implementation the signature with the body.
-/

namespace EnumLowering.Native

/-- Whether a method is sent to the class or to its instances. -/
inductive MethodKind where
  | ofClass
  | ofInstance
  deriving DecidableEq, Repr

/-- A method with at most one argument. -/
structure Method where
  kind : MethodKind
  returnType : CType
  selector : String
  param : Option Param
  body : List Stmt

structure Function where
  returnType : CType
  name : String
  params : List Param
  body : List Stmt

inductive Item where
  | ofMethod (method : Method)
  | ofFunction (function : Function)

def MethodKind.sign : MethodKind → String
  | .ofClass => "+"
  | .ofInstance => "-"

def Method.signature (method : Method) : String :=
  let head := method.kind.sign ++ " (" ++ method.returnType.spelled ++ ")" ++ method.selector
  match method.param with
  | none => head
  | some param => head ++ ":(" ++ param.type.spelled ++ ")" ++ param.name

def Function.signature (function : Function) : String :=
  function.returnType.declare (function.name ++ "(" ++
    String.intercalate ", " (function.params.map fun param => param.type.declare param.name) ++ ")")

namespace Item

def name : Item → String
  | .ofMethod method => method.selector
  | .ofFunction function => function.name

def signature : Item → String
  | .ofMethod method => method.signature
  | .ofFunction function => function.signature

def body : Item → List Stmt
  | .ofMethod method => method.body
  | .ofFunction function => function.body

/-- The form in a header, where functions are exported. -/
def declaration : Item → Doc
  | .ofMethod method => .text (method.signature ++ ";")
  | .ofFunction function => .text ("FOUNDATION_EXPORT " ++ function.signature ++ ";")

def definition (item : Item) : Doc := .braced item.signature (Stmt.toDocs item.body)

end Item

end EnumLowering.Native
