import EnumLowering.Binding.Method
import EnumLowering.Binding.Variable

/-!
Expressions of the source tree. Every name, call and creation carries the
binding it was resolved to.
-/

namespace EnumLowering

inductive Operator where
  | plus
  | minus
  | times
  | equals
  | notEquals
  | less
  | greater
  | and
  | or
  deriving DecidableEq, Repr

mutual

inductive Expression where
  | name (binding : VariableBinding)
  | string (value : String)
  | number (value : Int64)
  | boolean (value : Bool)
  | null
  | assignment (target value : Expression)
  | creation (creation : Creation)
  | invocation (method : MethodBinding) (receiver : Option Expression)
      (arguments : List Expression)
  | binary (operator : Operator) (left right : Expression)

/-- A new instance. It is retained when it outlives the expression that makes it. -/
structure Creation where
  method : MethodBinding
  arguments : List Expression
  isRetained : Bool

end

/-- A creation whose result belongs to nobody yet. -/
def Creation.ofCall (method : MethodBinding) (arguments : List Expression) : Creation :=
  { method, arguments, isRetained := false }

end EnumLowering
