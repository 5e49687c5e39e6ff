import EnumLowering.Proofs.Exhaustion

/-!
What lowering adds to a visited constructor: the two implicit parameters at the end
of its signature and of its parameters, and the same two variables at the end of
every call of a sibling or superclass constructor in its body. The calls of a local
type belong to the constructors of that type and hand on other variables.
-/

namespace EnumLowering

/-- The parameters at the end: in a lowered constructor, the name and the ordinal. -/
def MethodDeclaration.lastTwoParameters (method : MethodDeclaration) : List VariableBinding :=
  method.parameters.drop (method.parameters.length - 2)

theorem MethodDeclaration.last_two_parameters_eq {method : MethodDeclaration}
    {parameters : List VariableBinding} {name ordinal : VariableBinding}
    (appended : method.parameters = parameters ++ [name, ordinal]) :
    method.lastTwoParameters = [name, ordinal] := by
  have before : (parameters ++ [name, ordinal]).length - 2 = parameters.length := by
    rw [List.length_append]
    rfl
  rw [lastTwoParameters, appended, before, List.drop_left]

/-- The signature with the types of a name and an ordinal at its end. -/
def MethodBinding.WidenedTo (before after : MethodBinding) : Prop :=
  after.parameterTypes = before.parameterTypes ++ [Known.stringType, Known.intType] ∧
    after.name = before.name ∧ after.declaringType = before.declaringType ∧
      after.returnType = before.returnType ∧ after.isConstructor = before.isConstructor

def Modifiers.PrivateSynthetic (modifiers : Modifiers) : Prop :=
  modifiers.visibility = .privateAccess ∧ modifiers.isSynthetic = true

/-- A call at the same place whose callee is widened and whose arguments end with
the two variables. -/
structure Located.Forwards (before after : Located ForwardingCall)
    (name ordinal : VariableBinding) : Prop where
  place : after.place = before.place
  callee : after.item.callee = before.item.callee
  method : before.item.call.method.WidenedTo after.item.call.method
  modifiers : after.item.call.method.modifiers = before.item.call.method.modifiers
  arguments : after.item.call.arguments =
    before.item.call.arguments ++ [.name name, .name ordinal]

/-- A lowered constructor beside its source. -/
structure MethodDeclaration.WidenedTo (place : Place) (before after : MethodDeclaration)
    (name ordinal : VariableBinding) : Prop where
  binding : before.binding.WidenedTo after.binding
  parameters : after.parameters = before.parameters ++ [name, ordinal]
  modifiers : after.modifiers.PrivateSynthetic
  bindingModifiers : after.binding.modifiers.PrivateSynthetic
  callCount : (after.calls place).length = (before.calls place).length
  calls : ∀ (index : Nat) (call : Located ForwardingCall),
    (before.calls place)[index]? = some call →
      ∃ forwarded, (after.calls place)[index]? = some forwarded ∧
        call.Forwards forwarded name ordinal

/-- The implicit parameters of a constructor of `declaringType`. -/
structure ImplicitPair (declaringType : TypeBinding) (name ordinal : VariableBinding) : Prop where
  nameText : name.name = "__name"
  nameType : name.type = Known.stringType
  nameOwner : name.isParameter = true ∧ name.declaringType = some declaringType
  ordinalText : ordinal.name = "__ordinal"
  ordinalType : ordinal.type = Known.intType
  ordinalOwner : ordinal.isParameter = true ∧ ordinal.declaringType = some declaringType

theorem implicit_pair_numbered (binding : MethodBinding) (first : Nat) :
    ImplicitPair binding.declaringType (ImplicitVars.numbered binding first).name
      (ImplicitVars.numbered binding first).ordinal where
  nameText := rfl
  nameType := rfl
  nameOwner := ⟨rfl, rfl⟩
  ordinalText := rfl
  ordinalType := rfl
  ordinalOwner := ⟨rfl, rfl⟩

theorem widened_to_lowered_constructor (options : Options) (first : Nat) (place : Place)
    (method : MethodDeclaration) :
    method.WidenedTo place (loweredConstructor options first method)
      (ImplicitVars.numbered method.binding first).name
      (ImplicitVars.numbered method.binding first).ordinal := by
  have calls := calls_lowered_constructor options first place method
  obtain ⟨binding, modifiers, parameters, body⟩ := method
  constructor
  case binding => exact ⟨rfl, rfl, rfl, rfl, rfl⟩
  case parameters => rfl
  case modifiers => exact ⟨rfl, rfl⟩
  case bindingModifiers => exact ⟨rfl, rfl⟩
  case callCount => rw [calls, List.length_map]
  case calls =>
    intro index call found
    refine ⟨call.handOn (.numbered binding first), ?_, ?_⟩
    · rw [calls, List.getElem?_map, found]
      rfl
    · exact ⟨rfl, rfl, ⟨rfl, rfl, rfl, rfl, rfl⟩, rfl, rfl⟩

theorem last_two_parameters_lowered_constructor (options : Options) (first : Nat)
    (method : MethodDeclaration) :
    (loweredConstructor options first method).lastTwoParameters =
      (ImplicitVars.numbered method.binding first).parameters :=
  MethodDeclaration.last_two_parameters_eq
    (widened_to_lowered_constructor options first [] method).parameters

namespace CompilationUnit

theorem visits_lower_enums (options : Options) (source : CompilationUnit)
    (succeeds : (source.lowerEnums options).error = none) :
    (source.lowerEnums options).value.visits =
      Visit.lowered options source.nextVarId.toNat source.visits := by
  rw [visits, types_lower_enums options source succeeds, visits_lowered_types]
  rfl

theorem visited_constructors_lower_enums_getElem? (options : Options) (source : CompilationUnit)
    (succeeds : (source.lowerEnums options).error = none) (index : Nat) :
    (source.lowerEnums options).value.visitedConstructors[index]? =
      source.visitedConstructors[index]?.map fun method =>
        ⟨method.place,
          loweredConstructor options (source.nextVarId.toNat + 2 * index) method.item⟩ := by
  rw [visitedConstructors, visits_lower_enums options source succeeds,
    Visit.constructors_lowered_getElem?]
  rfl

theorem length_visited_constructors_lower_enums (options : Options) (source : CompilationUnit)
    (succeeds : (source.lowerEnums options).error = none) :
    (source.lowerEnums options).value.visitedConstructors.length =
      source.visitedConstructors.length := by
  rw [visitedConstructors, visits_lower_enums options source succeeds,
    Visit.length_constructors_lowered]
  rfl

/-- All numbers that a run hands out are in range. -/
theorem count_fits (options : Options) (source : CompilationUnit)
    (succeeds : (source.lowerEnums options).error = none) :
    source.nextVarId.toNat + 2 * source.visitedConstructors.length ≤ 2 ^ 32 :=
  Nat.le_trans ((lower_enums_error_eq_none_iff options source).mp succeeds) (by decide)

theorem numbers_fit (options : Options) (source : CompilationUnit)
    (succeeds : (source.lowerEnums options).error = none) {index : Nat}
    {method : Located MethodDeclaration}
    (visited : source.visitedConstructors[index]? = some method) :
    source.nextVarId.toNat + 2 * index + 2 ≤ 2 ^ 32 := by
  have fits := count_fits options source succeeds
  have bounded := (List.getElem?_eq_some_iff.mp visited).1
  omega

theorem last_two_parameters_lower_enums (options : Options) (source : CompilationUnit)
    (succeeds : (source.lowerEnums options).error = none) (index : Nat)
    (method : Located MethodDeclaration)
    (visited : (source.lowerEnums options).value.visitedConstructors[index]? = some method) :
    ∃ name ordinal, method.item.lastTwoParameters = [name, ordinal] ∧
      name.id.number.toNat = source.nextVarId.toNat + 2 * index ∧
      ordinal.id.number.toNat = source.nextVarId.toNat + 2 * index + 1 := by
  rw [visited_constructors_lower_enums_getElem? options source succeeds] at visited
  obtain ⟨before, found, rfl⟩ := Option.map_eq_some_iff.mp visited
  have fits := numbers_fit options source succeeds found
  exact ⟨_, _, last_two_parameters_lowered_constructor options _ before.item,
    ImplicitVars.toNat_numbered fits before.item.binding⟩

/-- Every enum constructor of a visited type is visited, stays at its place, and is
widened there by a name and an ordinal of its own: the calls in its body hand on
these two variables, which belong to no other visited constructor. -/
theorem visited_constructors_take_name_and_ordinal (options : Options) (source : CompilationUnit)
    (succeeds : (source.lowerEnums options).error = none) :
    (∀ declaration ∈ source.visitedTypes, ∀ position method,
      declaration.item.members[position]? = some (.method method) →
        method.binding.isEnumConstructor →
          ⟨.member position :: declaration.place, method⟩ ∈ source.visitedConstructors) ∧
    (source.lowerEnums options).value.visitedConstructors.length =
      source.visitedConstructors.length ∧
    ∀ index place before, source.visitedConstructors[index]? = some ⟨place, before⟩ →
      ∃ after name ordinal,
        (source.lowerEnums options).value.visitedConstructors[index]? = some ⟨place, after⟩ ∧
        before.WidenedTo place after name ordinal ∧
        ImplicitPair before.binding.declaringType name ordinal ∧
        name.id.number.toNat = source.nextVarId.toNat + 2 * index ∧
        ordinal.id.number.toNat = source.nextVarId.toNat + 2 * index + 1 ∧
        ∀ other method, other ≠ index →
          (source.lowerEnums options).value.visitedConstructors[other]? = some method →
            ∀ parameter ∈ method.item.lastTwoParameters,
              parameter.id ≠ name.id ∧ parameter.id ≠ ordinal.id := by
  refine ⟨?_, ?_, ?_⟩
  · intro declaration visited position method member constructor
    exact (source.mem_visited_constructors _).mpr
      ⟨declaration, visited, position, member, constructor, rfl⟩
  · exact length_visited_constructors_lower_enums options source succeeds
  · intro index place before visited
    obtain ⟨nameNumber, ordinalNumber⟩ :=
      ImplicitVars.toNat_numbered (numbers_fit options source succeeds visited) before.binding
    refine ⟨loweredConstructor options (source.nextVarId.toNat + 2 * index) before, _, _, ?_,
      widened_to_lowered_constructor options _ place before,
      implicit_pair_numbered before.binding _,
      nameNumber, ordinalNumber, ?_⟩
    · rw [visited_constructors_lower_enums_getElem? options source succeeds, visited]
      rfl
    · intro other method different otherVisited parameter member
      obtain ⟨otherName, otherOrdinal, lastTwo, otherNameNumber, otherOrdinalNumber⟩ :=
        last_two_parameters_lower_enums options source succeeds other method otherVisited
      -- the numbers of two constructors are at least two apart
      have apart : parameter.id.number.toNat ≠ source.nextVarId.toNat + 2 * index ∧
          parameter.id.number.toNat ≠ source.nextVarId.toNat + 2 * index + 1 := by
        simp only [lastTwo, List.mem_cons, List.not_mem_nil, or_false] at member
        rcases member with rfl | rfl <;> omega
      constructor
      · intro same
        exact apart.1 (by rw [same]; exact nameNumber)
      · intro same
        exact apart.2 (by rw [same]; exact ordinalNumber)

end CompilationUnit

/-- In `palette`, `Color()` calls its sibling with its own two variables, although
the local enum in its body is lowered before that call. -/
theorem Sample.palette_hands_on :
    ((Sample.palette 3).lowerEnums {}).error = none ∧
      ∃ after name ordinal,
        ((Sample.palette 3).lowerEnums {}).value.visitedConstructors[0]? =
            some ⟨[.member 0, .type 0], after⟩ ∧
          Sample.plainConstructor.WidenedTo [.member 0, .type 0] after name ordinal ∧
          (Sample.plainConstructor.calls [.member 0, .type 0]).length = 1 ∧
          name.id.number.toNat = 3 ∧ ordinal.id.number.toNat = 4 := by
  have succeeds : ((Sample.palette 3).lowerEnums {}).error = none := rfl
  obtain ⟨_, _, widened⟩ :=
    (Sample.palette 3).visited_constructors_take_name_and_ordinal {} succeeds
  obtain ⟨after, name, ordinal, there, source, _, nameNumber, ordinalNumber, _⟩ :=
    widened 0 [.member 0, .type 0] Sample.plainConstructor rfl
  exact ⟨succeeds, after, name, ordinal, there, source, rfl, nameNumber, ordinalNumber⟩

end EnumLowering
