import EnumLowering.Binding.Known

/-!
Methods and constructors as resolved signatures. A signature is carried by the
declaration and by every call of it, so a change of signature has to reach all
of them in the same way.
-/

namespace EnumLowering

inductive Visibility where
  | publicAccess
  | protectedAccess
  | packageAccess
  | privateAccess
  deriving DecidableEq, Repr

structure Modifiers where
  visibility : Visibility := .packageAccess
  isStatic : Bool := false
  isSynthetic : Bool := false
  deriving DecidableEq, Repr

namespace Modifiers

/-- Generated and out of reach for other callers; the rest is kept. -/
def makePrivateSynthetic (modifiers : Modifiers) : Modifiers :=
  { modifiers with visibility := .privateAccess, isSynthetic := true }

end Modifiers

structure MethodBinding where
  name : String
  declaringType : TypeBinding
  parameterTypes : List TypeBinding
  returnType : Option TypeBinding
  isConstructor : Bool
  modifiers : Modifiers
  deriving DecidableEq

namespace MethodBinding

/-- The name of every constructor. -/
def constructorName : String := "<init>"

def constructorOf (declaringType : TypeBinding) (parameterTypes : List TypeBinding) :
    MethodBinding :=
  { name := constructorName, declaringType, parameterTypes, returnType := none,
    isConstructor := true, modifiers := {} }

def methodOf (declaringType : TypeBinding) (name : String) (parameterTypes : List TypeBinding)
    (returnType : Option TypeBinding) : MethodBinding :=
  { name, declaringType, parameterTypes, returnType, isConstructor := false, modifiers := {} }

def arity (binding : MethodBinding) : Nat := binding.parameterTypes.length

def isEnumConstructor (binding : MethodBinding) : Bool :=
  binding.isConstructor && binding.declaringType.isEnum

/-- The source form: declaring type, name and parameter types. -/
def signature (binding : MethodBinding) : String :=
  binding.declaringType.qualifiedName ++ "." ++ binding.name ++ "(" ++
    String.intercalate ", " (binding.parameterTypes.map TypeBinding.qualifiedName) ++ ")"

/-- The types of the name and the ordinal that every enum constant is created with. -/
def implicitTypes : List TypeBinding := [Known.stringType, Known.intType]

/-- The signature with the implicit parameters at its end. -/
def widen (binding : MethodBinding) : MethodBinding :=
  { binding with parameterTypes := binding.parameterTypes ++ implicitTypes }

@[simp] theorem arity_widen (binding : MethodBinding) :
    binding.widen.arity = binding.arity + 2 := by
  simp [arity, widen, implicitTypes]

end MethodBinding

end EnumLowering
