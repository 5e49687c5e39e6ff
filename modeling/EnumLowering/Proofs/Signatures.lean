import EnumLowering.Proofs.Hygiene
import EnumLowering.Proofs.Overloads
import Mathlib.Tactic.FinCases

/-!
Signatures stay in agreement. A constructor declaration, the calls that hand on its
variables and the creations of constants are widened at three places, and a constant
may be made with another binding than its own. If declarations, calls and constants
agree with their signatures before, then declarations, calls and creations do after,
and the two values that each call and creation gains stand where the signature asks
for a string and an int.
-/

namespace EnumLowering

/-- The parameters have the types of the signature, position by position. -/
def MethodDeclaration.Agrees (method : MethodDeclaration) : Prop :=
  method.parameters.map VariableBinding.type = method.binding.parameterTypes

def ConstructorCall.Agrees (call : ConstructorCall) : Prop :=
  call.arguments.length = call.method.arity

def EnumConstant.Agrees (constant : EnumConstant) : Prop :=
  constant.arguments.length = constant.constructor.arity

def Creation.Agrees (creation : Creation) : Prop :=
  creation.arguments.length = creation.method.arity

/-- The last two arguments stand for the parameters that a string and an int are
handed to, and there are as many arguments in front of them as parameters. -/
def EndsWithImplicit (arguments : List Expression) (method : MethodBinding)
    (name ordinal : Expression) : Prop :=
  ∃ (own : List Expression) (ownTypes : List TypeBinding),
    own.length = ownTypes.length ∧ arguments = own ++ [name, ordinal] ∧
      method.parameterTypes = ownTypes ++ [Known.stringType, Known.intType]

namespace CompilationUnit

def DeclarationsAgree (compilationUnit : CompilationUnit) : Prop :=
  ∀ method ∈ compilationUnit.visitedConstructors, method.item.Agrees

def CallsAgree (compilationUnit : CompilationUnit) : Prop :=
  ∀ method ∈ compilationUnit.visitedConstructors, ∀ call ∈ method.item.calls method.place,
    call.item.call.Agrees

def ConstantsAgree (compilationUnit : CompilationUnit) : Prop :=
  ∀ declaration ∈ compilationUnit.visitedTypes, ∀ source, declaration.item = .ofEnum source →
    ∀ constant ∈ source.constants, constant.Agrees

structure SignaturesAgree (compilationUnit : CompilationUnit) : Prop where
  declarations : compilationUnit.DeclarationsAgree
  calls : compilationUnit.CallsAgree
  constants : compilationUnit.ConstantsAgree

end CompilationUnit

theorem agrees_lowered_constructor (options : Options) (first : Nat) (method : MethodDeclaration)
    (agrees : method.Agrees) : (loweredConstructor options first method).Agrees := by
  obtain ⟨binding, modifiers, parameters, body⟩ := method
  have sameTypes : parameters.map VariableBinding.type = binding.parameterTypes := agrees
  change (parameters ++ (ImplicitVars.numbered binding first).parameters).map
    VariableBinding.type = binding.parameterTypes ++ MethodBinding.implicitTypes
  rw [List.map_append, sameTypes]
  rfl

theorem ConstructorCall.agrees_hand_on (vars : ImplicitVars) (call : ConstructorCall)
    (agrees : call.Agrees) : (call.handOn vars).Agrees := by
  have lengths : call.arguments.length = call.method.arity := agrees
  change (call.arguments ++ vars.arguments).length = call.method.widen.arity
  rw [List.length_append, lengths, MethodBinding.arity_widen]
  rfl

theorem ConstructorCall.ends_with_implicit_hand_on (vars : ImplicitVars) (call : ConstructorCall)
    (agrees : call.Agrees) :
    EndsWithImplicit (call.handOn vars).arguments (call.handOn vars).method
      (.name vars.name) (.name vars.ordinal) :=
  ⟨call.arguments, call.method.parameterTypes, agrees, rfl, rfl⟩

/-- However the constructor of a constant is found, it has the types of the constant's
own constructor, widened. -/
theorem parameter_types_resolve_constructor (members : List Member) (declared : MethodBinding) :
    (resolveConstructor members declared).parameterTypes =
      declared.parameterTypes ++ [Known.stringType, Known.intType] := by
  rcases resolve_constructor_cases members declared with
    ⟨_, unresolved⟩ | ⟨position, method, there, found, resolved⟩
  · rw [unresolved]
    rfl
  · obtain ⟨declaration, sameFound, _, sameTypes⟩ := constructor_position_some there
    rw [found] at sameFound
    cases sameFound
    rw [resolved, sameTypes]
    rfl

theorem EnumConstant.ends_with_implicit_instantiate (members : List Member) (ordinal : Nat)
    (constant : EnumConstant) (agrees : constant.Agrees) :
    EndsWithImplicit (constant.instantiate members ordinal).arguments
      (constant.instantiate members ordinal).method
      (.string constant.name) (.number (Int64.ofNat ordinal)) :=
  ⟨constant.arguments, constant.constructor.parameterTypes, agrees, rfl,
    parameter_types_resolve_constructor members constant.constructor⟩

/-- As many arguments as parameters follows from how both end. -/
theorem EndsWithImplicit.length_eq_arity {arguments : List Expression} {method : MethodBinding}
    {name ordinal : Expression} (ends : EndsWithImplicit arguments method name ordinal) :
    arguments.length = method.arity := by
  obtain ⟨own, ownTypes, sameLength, sameArguments, sameTypes⟩ := ends
  rw [MethodBinding.arity, sameArguments, sameTypes, List.length_append, List.length_append,
    sameLength]
  rfl

namespace CompilationUnit

variable {options : Options} {source : CompilationUnit}
  (succeeds : (source.lowerEnums options).error = none)
include succeeds

theorem declarations_agree_lower_enums (agree : source.DeclarationsAgree) :
    (source.lowerEnums options).value.DeclarationsAgree := by
  intro method visited
  obtain ⟨index, before, found, rfl⟩ := visited_lower_enums options source succeeds visited
  have agrees := agree before (List.mem_of_getElem? found)
  exact agrees_lowered_constructor options _ before.item agrees

/-- A call in a lowered constructor comes from a call of the source, and hands on a
string and an int. -/
theorem calls_lower_enums {method : Located MethodDeclaration}
    (visited : method ∈ (source.lowerEnums options).value.visitedConstructors)
    {call : Located ForwardingCall} (called : call ∈ method.item.calls method.place) :
    ∃ (vars : ImplicitVars), ∃ before ∈ source.visitedConstructors,
      ∃ original ∈ before.item.calls before.place,
        call.item.call = original.item.call.handOn vars ∧
          vars.name.type = Known.stringType ∧ vars.ordinal.type = Known.intType := by
  obtain ⟨index, before, found, rfl⟩ := visited_lower_enums options source succeeds visited
  rw [calls_lowered_constructor] at called
  obtain ⟨original, member, rfl⟩ := List.mem_map.mp called
  exact ⟨_, before, List.mem_of_getElem? found, original, member, rfl, rfl, rfl⟩

theorem calls_agree_lower_enums (agree : source.CallsAgree) :
    (source.lowerEnums options).value.CallsAgree := by
  intro method visited call called
  obtain ⟨vars, before, beforeVisited, original, member, same, _⟩ :=
    calls_lower_enums succeeds visited called
  have agrees := agree before beforeVisited original member
  rw [same]
  exact original.item.call.agrees_hand_on vars agrees

/-- In a unit whose declarations, calls and constants agree with their signatures,
the lowered declarations and calls agree again, and so does the creation of every
constant. The two arguments at the end of a call or a creation are for the string and
the int at the end of its signature. -/
theorem signatures_stay_in_agreement (agree : source.SignaturesAgree) :
    (source.lowerEnums options).value.DeclarationsAgree ∧
    (source.lowerEnums options).value.CallsAgree ∧
    (∀ method ∈ (source.lowerEnums options).value.visitedConstructors,
      ∀ call ∈ method.item.calls method.place,
        ∃ name ordinal : VariableBinding,
          name.type = Known.stringType ∧ ordinal.type = Known.intType ∧
            EndsWithImplicit call.item.call.arguments call.item.call.method
              (.name name) (.name ordinal)) ∧
    ∀ (index : Nat) (place : Place) (before : EnumDeclaration),
      source.visitedTypes[index]? = some ⟨place, .ofEnum before⟩ →
        ∃ after : EnumDeclaration,
          (source.lowerEnums options).value.visitedTypes[index]? =
              some ⟨place, .ofEnum after⟩ ∧
            ∀ (ordinal : Nat) (constant : EnumConstant),
              before.constants[ordinal]? = some constant →
                ∃ creation : Creation,
                  after.initializers[ordinal]? =
                      some (.expression (.assignment (.name constant.binding)
                        (.creation creation))) ∧
                    creation.Agrees ∧
                    EndsWithImplicit creation.arguments creation.method
                      (.string constant.name) (.number (Int64.ofNat ordinal)) := by
  refine ⟨declarations_agree_lower_enums succeeds agree.declarations,
    calls_agree_lower_enums succeeds agree.calls, ?_, ?_⟩
  · intro method visited call called
    obtain ⟨vars, before, beforeVisited, original, member, same, nameType, ordinalType⟩ :=
      calls_lower_enums succeeds visited called
    have agrees := agree.calls before beforeVisited original member
    refine ⟨vars.name, vars.ordinal, nameType, ordinalType, ?_⟩
    rw [same]
    exact original.item.call.ends_with_implicit_hand_on vars agrees
  · intro index place before visited
    obtain ⟨start, loweredVisited⟩ :=
      visited_types_lower_enums_getElem? options source succeeds index _ visited
    rw [lowered_type_of_enum] at loweredVisited
    refine ⟨loweredEnum options start before, loweredVisited, ?_⟩
    intro ordinal constant found
    have agrees := agree.constants _ (List.mem_of_getElem? visited) before rfl constant
      (List.mem_of_getElem? found)
    have ends := constant.ends_with_implicit_instantiate
      (loweredMembers options start before.members) ordinal agrees
    exact ⟨_, initializers_lowered_enum_getElem? options start before ordinal constant found,
      ends.length_eq_arity, ends⟩

end CompilationUnit

namespace Sample

theorem visited_constructors_palette :
    (palette 3).visitedConstructors =
      [⟨[.member 0, .type 0], plainConstructor⟩,
        ⟨[.member 0, .thenBranch, .statement 0, .member 0, .type 0],
          .ofBinding (.constructorOf shade []) [] [superCall]⟩,
        ⟨[.member 1, .type 0], levelConstructor⟩] := rfl

theorem visited_types_palette :
    (palette 3).visitedTypes =
      [⟨[.type 0], .ofEnum colorEnum⟩,
        ⟨[.thenBranch, .statement 0, .member 0, .type 0], shadeEnum⟩] := rfl

theorem signatures_agree_palette : (palette 3).SignaturesAgree where
  declarations := by
    intro method visited
    rw [visited_constructors_palette] at visited
    fin_cases visited <;> rfl
  calls := by
    intro method visited call called
    rw [visited_constructors_palette] at visited
    fin_cases visited <;> fin_cases called <;> rfl
  constants := by
    intro declaration visited source same constant member
    rw [visited_types_palette] at visited
    fin_cases visited <;> cases same <;> fin_cases member <;> rfl

/-- `RED` is made with the widened `Color()`, which asks for a string and an int. -/
theorem palette_stays_in_agreement :
    ((palette 3).lowerEnums {}).error = none ∧ (palette 3).SignaturesAgree ∧
      ((palette 3).lowerEnums {}).value.CallsAgree ∧
      ∃ (after : EnumDeclaration) (creation : Creation),
        ((palette 3).lowerEnums {}).value.visitedTypes[0]? = some ⟨[.type 0], .ofEnum after⟩ ∧
        after.initializers[0]? =
          some (.expression (.assignment (.name (.field ⟨0⟩ "RED" color color))
            (.creation creation))) ∧
        EndsWithImplicit creation.arguments creation.method (.string "RED") (.number 0) := by
  have succeeds : ((palette 3).lowerEnums {}).error = none := rfl
  obtain ⟨_, calls, _, creations⟩ :=
    CompilationUnit.signatures_stay_in_agreement succeeds signatures_agree_palette
  obtain ⟨after, there, constants⟩ := creations 0 [.type 0] colorEnum rfl
  obtain ⟨creation, assigned, _, ends⟩ := constants 0 _ rfl
  exact ⟨succeeds, signatures_agree_palette, calls, after, creation, there, assigned, ends⟩

end Sample

end EnumLowering
