import EnumLowering.Layout.Doc
import EnumLowering.Number.Decimal

/-!
Expressions and statements of generated code. They carry no parentheses of their
own: whoever builds them keeps to shapes that need none.
-/

namespace EnumLowering.Native

/-- A type as generated code spells it. -/
structure CType where
  name : String
  isPointer : Bool
  deriving DecidableEq, Repr

namespace CType

/-- A reference to objects of a class. -/
def object (name : String) : CType := { name, isPointer := true }

def value (name : String) : CType := { name, isPointer := false }

/-- The spelling in a cast or in a method signature. -/
def spelled (type : CType) : String := if type.isPointer then type.name ++ " *" else type.name

/-- The spelling in front of a declared name. -/
def declare (type : CType) (declarator : String) : String :=
  if type.isPointer then type.name ++ " *" ++ declarator else type.name ++ " " ++ declarator

end CType

structure Param where
  type : CType
  name : String
  deriving DecidableEq, Repr

inductive Comparison where
  | less
  | greaterEq
  deriving DecidableEq, Repr

def Comparison.symbol : Comparison → String
  | .less => "<"
  | .greaterEq => ">="

inductive Expr where
  | ident (name : String)
  | int (value : Nat)
  | nil
  | call (function : String) (arguments : List Expr)
  /-- A message: each part is a label with its argument, or a label alone. -/
  | send (receiver : Expr) (parts : List (String × Option Expr))
  | index (base : Expr) (position : Expr)
  | cast (type : CType) (operand : Expr)
  | compare (comparison : Comparison) (left right : Expr)

namespace Expr

/-- A message without arguments. -/
def unarySend (receiver : Expr) (selector : String) : Expr := .send receiver [(selector, none)]

/-- A message with an argument for each label. -/
def keywordSend (receiver : Expr) (parts : List (String × Expr)) : Expr :=
  .send receiver (parts.map fun (label, argument) => (label, some argument))

mutual

def render : Expr → String
  | .ident name => name
  | .int value => Number.decimalText value
  | .nil => "nil"
  | .call function arguments =>
      function ++ "(" ++ String.intercalate ", " (renderAll arguments) ++ ")"
  | .send receiver parts =>
      "[" ++ render receiver ++ " " ++ String.intercalate " " (renderParts parts) ++ "]"
  | .index base position => render base ++ "[" ++ render position ++ "]"
  | .cast type operand => "(" ++ type.spelled ++ ")" ++ render operand
  | .compare comparison left right =>
      render left ++ " " ++ comparison.symbol ++ " " ++ render right

def renderAll : List Expr → List String
  | [] => []
  | expr :: exprs => render expr :: renderAll exprs

def renderParts : List (String × Option Expr) → List String
  | [] => []
  | (label, none) :: parts => label :: renderParts parts
  | (label, some argument) :: parts => (label ++ ":" ++ render argument) :: renderParts parts

end

end Expr

inductive Stmt where
  | expr (value : Expr)
  | result (value : Expr)
  | throw (value : Expr)
  | localVariable (type : CType) (name : String) (initial : Expr)
  | conditional (condition : Expr) (body : List Stmt)
  /-- A loop over `0, 1, …` below a bound. -/
  | countedFor (counter : String) (bound : Nat) (body : List Stmt)

namespace Stmt

/-- The head of a loop, which counts up from zero. -/
def loopHeader (counter : String) (bound : Nat) : String :=
  "for (int " ++ counter ++ " = 0; " ++
    (Expr.compare .less (.ident counter) (.int bound)).render ++ "; " ++ counter ++ "++)"

mutual

def toDoc : Stmt → Doc
  | .expr value => .text (value.render ++ ";")
  | .result value => .text ("return " ++ value.render ++ ";")
  | .throw value => .text ("@throw " ++ value.render ++ ";")
  | .localVariable type name initial =>
      .text (type.declare name ++ " = " ++ initial.render ++ ";")
  | .conditional condition body => .braced ("if (" ++ condition.render ++ ")") (toDocs body)
  | .countedFor counter bound body => .braced (loopHeader counter bound) (toDocs body)

def toDocs : List Stmt → List Doc
  | [] => []
  | stmt :: stmts => toDoc stmt :: toDocs stmts

end

end Stmt

end EnumLowering.Native
