/-!
Types as the front end resolves them. A member type names the type around it, so
a type carries its whole enclosing chain. The package of a member type is its
own field: it agrees with the package of the outer type only when the type was
built by `nestedIn`.
-/

namespace EnumLowering

/-- What sort of type a binding names. A primitive belongs to the source
language, a foundation type to the target runtime. -/
inductive TypeKind where
  | classType
  | enumType
  | interfaceType
  | primitive
  | foundation
  deriving DecidableEq, Repr

structure TypeBinding where
  package : Option String
  name : String
  outer : Option TypeBinding
  kind : TypeKind
  superclass : Option TypeBinding

namespace TypeBinding

mutual

def decEq : (left right : TypeBinding) → Decidable (left = right)
  | ⟨package, name, outer, kind, superclass⟩, ⟨package', name', outer', kind', superclass'⟩ =>
      match decEqOption outer outer', decEqOption superclass superclass' with
      | .isTrue outerEq, .isTrue superclassEq =>
          if flat : package = package' ∧ name = name' ∧ kind = kind' then
            .isTrue (by simp [flat, outerEq, superclassEq])
          else .isFalse (by simp_all)
      | .isFalse outerNe, _ => .isFalse (by simp_all)
      | _, .isFalse superclassNe => .isFalse (by simp_all)

def decEqOption : (left right : Option TypeBinding) → Decidable (left = right)
  | none, none => .isTrue rfl
  | none, some _ => .isFalse (by simp)
  | some _, none => .isFalse (by simp)
  | some left, some right =>
      match decEq left right with
      | .isTrue same => .isTrue (by simp [same])
      | .isFalse differ => .isFalse (by simp [differ])

end

instance : DecidableEq TypeBinding := decEq

def topLevel (kind : TypeKind) (package : Option String) (name : String) : TypeBinding :=
  { package, name, outer := none, kind, superclass := none }

def primitive (name : String) : TypeBinding := topLevel .primitive none name

def foundation (name : String) : TypeBinding := topLevel .foundation none name

/-- Make a type a member of `outer`, whose package it takes over. -/
def nestedIn (member outer : TypeBinding) : TypeBinding :=
  { member with package := outer.package, outer := some outer }

def withSuperclass (binding superclass : TypeBinding) : TypeBinding :=
  { binding with superclass := some superclass }

def isEnum (binding : TypeBinding) : Bool := binding.kind == .enumType

/-- The types around a type, outermost first, and the type itself last. -/
def enclosingChain : TypeBinding → List TypeBinding
  | ⟨package, name, none, kind, superclass⟩ => [⟨package, name, none, kind, superclass⟩]
  | ⟨package, name, some outer, kind, superclass⟩ =>
      outer.enclosingChain ++ [⟨package, name, some outer, kind, superclass⟩]

def chainNames (binding : TypeBinding) : List String :=
  binding.enclosingChain.map TypeBinding.name

/-- The dotted source form. A package that is present but empty still puts its
dot in front. -/
def qualifiedName (binding : TypeBinding) : String :=
  let names := String.intercalate "." binding.chainNames
  match binding.package with
  | some package => package ++ "." ++ names
  | none => names

end TypeBinding

end EnumLowering
