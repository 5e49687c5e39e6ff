import EnumLowering.Lowering.Error
import EnumLowering.Syntax.Declaration

/-!
The implicit parameters of the constructor being lowered. They are the name and
the ordinal of the constant under construction, and exist together or not at
all. A context holds them while the body of their constructor is lowered; it is
a single slot and cannot be entered twice.
-/

namespace EnumLowering

/-- The two parameters that one enum constructor gains. -/
structure ImplicitVars where
  name : VariableBinding
  ordinal : VariableBinding
  /-- The signature of the constructor they belong to. -/
  owner : String
  deriving DecidableEq

namespace ImplicitVars

def nameVariable : String := "__name"

def ordinalVariable : String := "__ordinal"

def ofIds (declaringType : TypeBinding) (owner : String) (name ordinal : VarId) : ImplicitVars :=
  { name := .parameter name nameVariable Known.stringType declaringType
    ordinal := .parameter ordinal ordinalVariable Known.intType declaringType
    owner }

/-- New parameters for a constructor of `declaringType`. Identities drawn by a
failing attempt stay drawn. -/
def fresh (declaringType : TypeBinding) (owner : String) (ids : IdSupply) :
    Except LoweringError ImplicitVars × IdSupply :=
  let (name, afterName) := ids.fresh
  let (ordinal, afterOrdinal) := afterName.fresh
  match name, ordinal with
  | some name, some ordinal => (.ok (ofIds declaringType owner name ordinal), afterOrdinal)
  | _, _ => (.error (.idsExhausted owner), afterOrdinal)

/-- The parameters in the order in which they are declared. -/
def parameters (vars : ImplicitVars) : List VariableBinding := [vars.name, vars.ordinal]

/-- The parameters as arguments of a call. -/
def arguments (vars : ImplicitVars) : List Expression := [.name vars.name, .name vars.ordinal]

end ImplicitVars

structure Context where
  active : Option ImplicitVars := none
  deriving DecidableEq

namespace Context

def inactive : Context := {}

def enter (context : Context) (vars : ImplicitVars) : Except LoweringError Context :=
  match context.active with
  | some held => .error (.contextAlreadyActive vars.owner held.owner)
  | none => .ok { active := some vars }

def leave (context : Context) : Option ImplicitVars × Context := (context.active, inactive)

def isActive (context : Context) : Bool := context.active.isSome

theorem leave_enter {context entered : Context} {vars : ImplicitVars}
    (enters : context.enter vars = .ok entered) : entered.leave = (some vars, context) := by
  obtain ⟨active⟩ := context
  cases active with
  | none => cases enters; rfl
  | some held => cases enters

end Context

namespace ConstructorCall

/-- Hand the caller's own implicit parameters on to the called constructor. -/
def forward (context : Context) (call : ConstructorCall) : Except LoweringError ConstructorCall :=
  match context.active with
  | none => .error (.contextInactive call.method.signature)
  | some vars =>
      .ok { method := call.method.widen, arguments := call.arguments ++ vars.arguments }

end ConstructorCall

end EnumLowering
