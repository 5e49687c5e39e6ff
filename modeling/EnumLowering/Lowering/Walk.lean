import EnumLowering.Lowering.Constants
import EnumLowering.Lowering.Context

/-!
Lowering of enums. The target has no enums, so each becomes a class whose
instances are made once by the class initializer:

* every enum constructor gains the implicit parameters and becomes private and
  synthetic;
* calls of sibling and superclass constructors in its body hand them on;
* the constants are made in the initializer;
* the support blocks are attached.

The walk reaches member types of a type and local types in the bodies of enum
constructors. Each type has a context of its own. Bodies of other methods are
left alone.
-/

namespace EnumLowering

def openConstructor (context : Context) (binding : MethodBinding) (ids : IdSupply) :
    Except LoweringError (ImplicitVars × Context) × IdSupply :=
  if binding.isEnumConstructor then
    match ImplicitVars.fresh binding.declaringType binding.signature ids with
    | (.error error, ids) => (.error error, ids)
    | (.ok vars, ids) => ((context.enter vars).map fun entered => (vars, entered), ids)
  else (.error (.notAnEnumConstructor binding.signature), ids)

/-- The binding of a lowered constructor. Only generated code may call it. -/
def MethodBinding.lowered (binding : MethodBinding) : MethodBinding :=
  { binding.widen with modifiers := binding.modifiers.makePrivateSynthetic }

def constructorWork (binding : MethodBinding) : Work :=
  { stats := { constructors := 1 }, events := [.constructorWidened binding.lowered.signature] }

def lowerCall (context : Context) (call : ConstructorCall) (ids : IdSupply) :
    Outcome ConstructorCall :=
  match call.forward context with
  | .ok forwarded =>
      { value := forwarded, ids, work := { stats := { forwardingCalls := 1 } }, error := none }
  | .error error => .failed call ids error

mutual

def lowerStatement (options : Options) (context : Context) :
    Statement → IdSupply → Outcome Statement
  | .thisCall call, ids => (lowerCall context call ids).map .thisCall
  | .superCall call, ids => (lowerCall context call ids).map .superCall
  | .block statements, ids => (lowerStatements options context statements ids).map .block
  | .conditional condition thenBranch none, ids =>
      (lowerStatement options context thenBranch ids).map
        fun thenBranch => .conditional condition thenBranch none
  | .conditional condition thenBranch (some elseBranch), ids =>
      (lowerStatement options context thenBranch ids).andThen
        (fun thenBranch => .conditional condition thenBranch (some elseBranch))
        fun thenBranch ids =>
          (lowerStatement options context elseBranch ids).map
            fun elseBranch => .conditional condition thenBranch (some elseBranch)
  | .localType declaration, ids => (lowerType options declaration ids).map .localType
  | .expression value, ids => .unchanged (.expression value) ids
  | .result value, ids => .unchanged (.result value) ids
  | .localVariable binding initializer, ids => .unchanged (.localVariable binding initializer) ids

def lowerStatements (options : Options) (context : Context) :
    List Statement → IdSupply → Outcome (List Statement)
  | [], ids => .unchanged [] ids
  | statement :: statements, ids =>
      (lowerStatement options context statement ids).andThen (· :: statements)
        fun statement ids =>
          (lowerStatements options context statements ids).map (statement :: ·)

/-- Lower an enum constructor. The context is left again even when the body
fails. -/
def lowerConstructor (options : Options) (context : Context) :
    MethodDeclaration → IdSupply → Outcome (MethodDeclaration × Context)
  | ⟨binding, modifiers, parameters, body⟩, ids =>
      match openConstructor context binding ids with
      | (.error error, ids) => .failed (⟨binding, modifiers, parameters, body⟩, context) ids error
      | (.ok (vars, entered), ids) =>
          ((lowerBody options entered body ids).map fun body =>
            ({ binding := binding.lowered
               modifiers := modifiers.makePrivateSynthetic
               parameters := parameters ++ vars.parameters
               body }, entered.leave.2)).after (constructorWork binding)

def lowerBody (options : Options) (context : Context) :
    Option (List Statement) → IdSupply → Outcome (Option (List Statement))
  | none, ids => .unchanged none ids
  | some statements, ids => (lowerStatements options context statements ids).map some

def lowerMember (options : Options) (context : Context) :
    Member → IdSupply → Outcome (Member × Context)
  | .method method, ids =>
      if method.binding.isEnumConstructor then
        (lowerConstructor options context method ids).map
          fun (method, context) => (.method method, context)
      else .unchanged (.method method, context) ids
  | .type declaration, ids =>
      (lowerType options declaration ids).map fun declaration => (.type declaration, context)
  | .field declaration, ids => .unchanged (.field declaration, context) ids
  | .native block, ids => .unchanged (.native block, context) ids

def lowerMembers (options : Options) (context : Context) :
    List Member → IdSupply → Outcome (List Member × Context)
  | [], ids => .unchanged ([], context) ids
  | member :: members, ids =>
      (lowerMember options context member ids).andThen
        (fun (member, context) => (member :: members, context))
        fun (member, context) ids =>
          (lowerMembers options context members ids).map
            fun (members, context) => (member :: members, context)

def lowerType (options : Options) : TypeDeclaration → IdSupply → Outcome TypeDeclaration
  | .ofClass ⟨binding, members, initializers⟩, ids =>
      (lowerMembers options .inactive members ids).map
        fun (members, _) => .ofClass { binding, members, initializers }
  | .ofEnum ⟨binding, constants, members, initializers⟩, ids =>
      (lowerMembers options .inactive members ids).andThen
        (fun (members, _) => .ofEnum { binding, constants, members, initializers })
        fun (members, _) ids =>
          let (declaration, work) :=
            EnumDeclaration.finish options { binding, constants, members, initializers }
          (Outcome.unchanged (.ofEnum declaration) ids).after work

end

def lowerTypes (options : Options) :
    List TypeDeclaration → IdSupply → Outcome (List TypeDeclaration)
  | [], ids => .unchanged [] ids
  | declaration :: declarations, ids =>
      (lowerType options declaration ids).andThen (· :: declarations)
        fun declaration ids => (lowerTypes options declarations ids).map (declaration :: ·)

def lowerMethod (options : Options) (context : Context) (method : MethodDeclaration)
    (ids : IdSupply) : Outcome (Bool × MethodDeclaration × Context) :=
  if method.binding.isEnumConstructor then
    (lowerConstructor options context method ids).map (Prod.mk true)
  else .unchanged (false, method, context) ids

namespace CompilationUnit

/-- Lower every enum of a unit. New variables take their identities from
`nextVarId` on, which moves past them whether or not lowering succeeds. -/
def lowerEnums (options : Options) (compilationUnit : CompilationUnit) : Outcome CompilationUnit :=
  let outcome := lowerTypes options compilationUnit.types { next := compilationUnit.nextVarId }
  outcome.map fun types => { compilationUnit with types, nextVarId := outcome.ids.next }

end CompilationUnit

end EnumLowering
