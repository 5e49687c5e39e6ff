import EnumLowering.Binding.OutputName
import EnumLowering.Lowering.Outcome
import EnumLowering.Native.Support
import EnumLowering.Syntax.Declaration

/-!
Constants of an enum as statements of its class initializer. The constant at
position `i` becomes `CONST = new T(arguments, "CONST", i)`. These statements run
before all others of the initializer.
-/

namespace EnumLowering

def Member.constructorBinding? (declaringType : TypeBinding) (parameterTypes : List TypeBinding) :
    Member → Option MethodBinding
  | .method ⟨binding, _, _, _⟩ =>
      if binding.isConstructor && binding.declaringType = declaringType &&
          binding.parameterTypes = parameterTypes then
        some binding
      else none
  | .field _ | .type _ | .native _ => none

/-- The constructor that a constant is made with: the lowered declaration, whose
modifiers it then shares, or the constant's own binding if none is declared. -/
def resolveConstructor (members : List Member) (declared : MethodBinding) : MethodBinding :=
  let widened := declared.widen
  (members.findSome?
    (Member.constructorBinding? widened.declaringType widened.parameterTypes)).getD widened

namespace EnumConstant

def instantiate (members : List Member) (ordinal : Nat) (constant : EnumConstant) : Creation :=
  { method := resolveConstructor members constant.constructor
    arguments := constant.arguments ++
      [.string constant.name, .number (Int64.ofNat ordinal)]
    -- Constants are never given up.
    isRetained := true }

def assignment (members : List Member) (ordinal : Nat) (constant : EnumConstant) : Statement :=
  .expression (.assignment (.name constant.binding)
    (.creation (constant.instantiate members ordinal)))

end EnumConstant

namespace EnumDeclaration

def lowerConstants (declaration : EnumDeclaration) : EnumDeclaration :=
  { declaration with
    initializers :=
      declaration.constants.mapIdx (EnumConstant.assignment declaration.members) ++
        declaration.initializers }

/-- A warning for each name that stood earlier in the list. -/
def repeatedNames (enumType : String) (seen : List String) : List EnumConstant → List Event
  | [] => []
  | constant :: constants =>
      if seen.contains constant.name then
        .duplicateConstant enumType constant.name :: repeatedNames enumType seen constants
      else repeatedNames enumType (constant.name :: seen) constants

def duplicateWarnings (declaration : EnumDeclaration) : List Event :=
  repeatedNames declaration.binding.qualifiedName [] declaration.constants

/-- Turn an enum whose constructors are lowered into a class: make its constants
in the initializer and attach the support blocks. -/
def finish (options : Options) (declaration : EnumDeclaration) : EnumDeclaration × Work :=
  let count := declaration.constants.length
  let outputName := declaration.binding.outputName
  let support := Native.enumSupport outputName count options
  let lowered := declaration.lowerConstants
  ({ lowered with members := lowered.members ++ [.native support.inner, .native support.outer] },
    { stats := { enums := 1, constants := count }
      events := declaration.duplicateWarnings ++ [.enumLowered outputName count] })

end EnumDeclaration

end EnumLowering
