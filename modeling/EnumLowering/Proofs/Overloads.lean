import EnumLowering.Proofs.ImplicitParameters

/-!
Overloads keep their meaning. A constant and a call of a constructor name
the constructor they mean by its declaring type and parameter types. Lowering
widens declarations, calls and constants at three separate places, and an overload
whose own types end with a string and an int looks like a widened one. All the
same, the first declaration that fits stands at the same position before and after:
every declaration of an enum type is widened exactly once, and widening is
injective.
-/

namespace EnumLowering

/-- A constructor declaration with the declaring type and parameter types of
`binding`. -/
def Member.fits (binding : MethodBinding) : Member → Bool
  | .method declaration =>
      declaration.binding.isConstructor &&
        declaration.binding.declaringType = binding.declaringType &&
          declaration.binding.parameterTypes = binding.parameterTypes
  | .field _ | .type _ | .native _ => false

theorem Member.fits_method_iff (binding : MethodBinding) (declaration : MethodDeclaration) :
    (Member.method declaration).fits binding = true ↔
      declaration.binding.isConstructor = true ∧
        declaration.binding.declaringType = binding.declaringType ∧
          declaration.binding.parameterTypes = binding.parameterTypes := by
  simp only [Member.fits, Bool.and_eq_true, decide_eq_true_eq, and_assoc]

/-- The position of the first constructor declaration that fits. -/
def constructorPosition (members : List Member) (binding : MethodBinding) : Option Nat :=
  members.findIdx? (Member.fits binding)

theorem constructor_position_some {members : List Member} {binding : MethodBinding}
    {position : Nat} (there : constructorPosition members binding = some position) :
    ∃ declaration, members[position]? = some (.method declaration) ∧
      declaration.binding.declaringType = binding.declaringType ∧
        declaration.binding.parameterTypes = binding.parameterTypes := by
  obtain ⟨bounded, fits, _⟩ := List.findIdx?_eq_some_iff_getElem.mp there
  have found := List.getElem?_eq_getElem bounded
  cases member : members[position] with
  | method declaration =>
      rw [member] at fits found
      exact ⟨declaration, found, ((Member.fits_method_iff binding declaration).mp fits).2⟩
  | field declaration =>
      rw [member] at fits
      cases fits
  | type declaration =>
      rw [member] at fits
      cases fits
  | native block =>
      rw [member] at fits
      cases fits

theorem fits_congr {left right : MethodBinding}
    (sameType : left.declaringType = right.declaringType)
    (sameTypes : left.parameterTypes = right.parameterTypes) :
    Member.fits left = Member.fits right := by
  funext member
  cases member with
  | method method => simp only [Member.fits, sameType, sameTypes]
  | field declaration => rfl
  | type declaration => rfl
  | native block => rfl

/-- A constructor of an enum type is widened with its declaration; any other member
of the lowered list fits as little as its source does. -/
theorem fits_lowered_member (options : Options) (first : Nat) (member : Member)
    (binding : MethodBinding) (isEnum : binding.declaringType.isEnum) :
    (loweredMember options first member).fits binding.widen = member.fits binding := by
  cases member with
  | method method =>
      by_cases constructor : method.binding.isEnumConstructor
      · rw [loweredMember, if_pos constructor]
        obtain ⟨source, modifiers, parameters, body⟩ := method
        rw [Bool.eq_iff_iff, Member.fits_method_iff, Member.fits_method_iff]
        simp only [loweredConstructor, MethodBinding.lowered, MethodBinding.widen,
          List.append_left_inj]
      · rw [loweredMember, if_neg constructor]
        -- it would be an enum constructor if its declaring type were that of `binding`
        have foreign (isConstructor : method.binding.isConstructor = true)
            (same : method.binding.declaringType = binding.declaringType) : False := by
          apply constructor
          rw [MethodBinding.isEnumConstructor, isConstructor, same, isEnum]
          rfl
        rw [Bool.eq_iff_iff, Member.fits_method_iff, Member.fits_method_iff]
        apply iff_of_false
        · exact fun fits => foreign fits.1 fits.2.1
        · exact fun fits => foreign fits.1 fits.2.1
  | type declaration => rfl
  | field declaration => rfl
  | native block => rfl

theorem constructor_position_lowered_members (options : Options) (first : Nat)
    (members : List Member) (binding : MethodBinding) (isEnum : binding.declaringType.isEnum) :
    constructorPosition (loweredMembers options first members) binding.widen =
      constructorPosition members binding := by
  induction members generalizing first with
  | nil => rfl
  | cons member members induction =>
      have tail := induction (first + 2 * member.constructorCount)
      rw [constructorPosition, constructorPosition] at tail
      rw [constructorPosition, constructorPosition, loweredMembers, List.findIdx?_cons,
        List.findIdx?_cons, fits_lowered_member options first member binding isEnum, tail]

theorem constructor_position_append_native (members : List Member) (inner outer : NativeBlock)
    (binding : MethodBinding) :
    constructorPosition (members ++ [.native inner, .native outer]) binding =
      constructorPosition members binding := by
  have blocks :
      [Member.native inner, Member.native outer].findIdx? (Member.fits binding) = none := by
    simp only [List.findIdx?_cons, List.findIdx?_nil, Member.fits, Bool.false_eq_true, if_false,
      Option.map_none]
  rw [constructorPosition, constructorPosition, List.findIdx?_append, blocks, Option.map_none,
    Option.or_none]

theorem constructor_binding?_of_fits {binding : MethodBinding} {member : Member}
    (fits : member.fits binding = true) :
    ∃ method, member = .method method ∧
      member.constructorBinding? binding.declaringType binding.parameterTypes =
        some method.binding := by
  cases member with
  | method method =>
      refine ⟨method, rfl, ?_⟩
      obtain ⟨source, modifiers, parameters, body⟩ := method
      exact if_pos fits
  | field declaration => cases fits
  | type declaration => cases fits
  | native block => cases fits

theorem constructor_binding?_of_not_fits {binding : MethodBinding} {member : Member}
    (unfit : ¬ member.fits binding = true) :
    member.constructorBinding? binding.declaringType binding.parameterTypes = none := by
  cases member with
  | method method =>
      obtain ⟨source, modifiers, parameters, body⟩ := method
      exact if_neg unfit
  | field declaration => rfl
  | type declaration => rfl
  | native block => rfl

theorem findSome?_constructor_binding? (members : List Member) (binding : MethodBinding) :
    (constructorPosition members binding = none ∧
      members.findSome?
        (Member.constructorBinding? binding.declaringType binding.parameterTypes) = none) ∨
    ∃ position method, constructorPosition members binding = some position ∧
      members[position]? = some (.method method) ∧
        members.findSome?
          (Member.constructorBinding? binding.declaringType binding.parameterTypes) =
            some method.binding := by
  induction members with
  | nil => exact Or.inl ⟨rfl, rfl⟩
  | cons member members induction =>
      rw [constructorPosition, List.findIdx?_cons, List.findSome?_cons]
      by_cases fits : member.fits binding = true
      · obtain ⟨method, rfl, found⟩ := constructor_binding?_of_fits fits
        rw [if_pos fits, found]
        exact Or.inr ⟨0, method, rfl, rfl, rfl⟩
      · rw [if_neg fits, constructor_binding?_of_not_fits fits]
        rcases induction with ⟨absent, unresolved⟩ | ⟨position, method, there, declared, resolved⟩
        · rw [constructorPosition] at absent
          rw [absent]
          exact Or.inl ⟨rfl, unresolved⟩
        · rw [constructorPosition] at there
          rw [there]
          exact Or.inr ⟨position + 1, method, rfl, declared, resolved⟩

/-- What a constant is made with: the binding at the position that is found, or the
widened binding of the constant if there is none. -/
theorem resolve_constructor_cases (members : List Member) (declared : MethodBinding) :
    (constructorPosition members declared.widen = none ∧
      resolveConstructor members declared = declared.widen) ∨
    ∃ position method, constructorPosition members declared.widen = some position ∧
      members[position]? = some (.method method) ∧
        resolveConstructor members declared = method.binding := by
  rcases findSome?_constructor_binding? members declared.widen with
    ⟨absent, unresolved⟩ | ⟨position, method, there, found, resolved⟩
  · refine Or.inl ⟨absent, ?_⟩
    rw [resolveConstructor, unresolved]
    rfl
  · refine Or.inr ⟨position, method, there, found, ?_⟩
    rw [resolveConstructor, resolved]
    rfl

/-- A lowered member keeps its position in front of the support blocks. -/
theorem lowered_enum_member_getElem? (options : Options) (first : Nat)
    (declaration : EnumDeclaration) (position : Nat) (member : Member)
    (found : declaration.members[position]? = some member) :
    ∃ start, (loweredEnum options first declaration).members[position]? =
      some (loweredMember options start member) := by
  obtain ⟨start, lowered⟩ :=
    lowered_members_getElem? options first declaration.members position member found
  obtain ⟨inner, outer, members⟩ := members_lowered_enum options first declaration
  refine ⟨start, ?_⟩
  rw [members, List.getElem?_append_left (List.getElem?_eq_some_iff.mp lowered).1, lowered]

theorem constructor_position_lowered_enum (options : Options) (first : Nat)
    (declaration : EnumDeclaration) (binding : MethodBinding)
    (isEnum : binding.declaringType.isEnum) :
    constructorPosition (loweredEnum options first declaration).members binding.widen =
      constructorPosition declaration.members binding := by
  obtain ⟨inner, outer, members⟩ := members_lowered_enum options first declaration
  rw [members, constructor_position_append_native,
    constructor_position_lowered_members options first declaration.members binding isEnum]

/-- The binding that a constant is made with stands for the same declaration as the
constant's own, and is the lowered binding of that declaration if there is one. -/
structure ResolvesAlike (before after : EnumDeclaration) (declared resolved : MethodBinding) :
    Prop where
  position : constructorPosition after.members resolved =
    constructorPosition before.members declared
  absent : constructorPosition before.members declared = none →
    resolved = { declared with
      parameterTypes := declared.parameterTypes ++ [Known.stringType, Known.intType] }
  found : ∀ position, constructorPosition before.members declared = some position →
    ∃ source lowered, before.members[position]? = some (.method source) ∧
      after.members[position]? = some (.method lowered) ∧ resolved = lowered.binding

theorem resolves_alike_resolve_constructor (options : Options) (first : Nat)
    (declaration : EnumDeclaration) (declared : MethodBinding)
    (isEnum : declared.declaringType.isEnum) :
    ResolvesAlike declaration (loweredEnum options first declaration) declared
      (resolveConstructor (loweredMembers options first declaration.members) declared) := by
  have before := constructor_position_lowered_members options first declaration.members
    declared isEnum
  have after := constructor_position_lowered_enum options first declaration declared isEnum
  rcases resolve_constructor_cases (loweredMembers options first declaration.members) declared with
    ⟨absent, unresolved⟩ | ⟨position, method, there, found, resolved⟩
  · rw [before] at absent
    rw [unresolved]
    refine ⟨after, fun _ => rfl, ?_⟩
    intro position contradiction
    rw [absent] at contradiction
    cases contradiction
  · have sameMember : Member.fits method.binding = Member.fits declared.widen := by
      obtain ⟨declaration, sameFound, sameType, sameTypes⟩ := constructor_position_some there
      rw [found] at sameFound
      cases sameFound
      exact fits_congr sameType sameTypes
    rw [before] at there
    rw [resolved]
    refine ⟨?_, ?_, ?_⟩
    · rw [constructorPosition, sameMember]
      exact after
    · intro contradiction
      rw [there] at contradiction
      cases contradiction
    · intro other same
      rw [there] at same
      cases same
      obtain ⟨source, sourceFound, _, _⟩ := constructor_position_some there
      obtain ⟨inner, outer, members⟩ := members_lowered_enum options first declaration
      refine ⟨source, method, sourceFound, ?_, rfl⟩
      rw [members, List.getElem?_append_left (List.getElem?_eq_some_iff.mp found).1, found]

/-- The assignment of the constant at `ordinal` in a lowered initializer. -/
theorem initializers_lowered_enum_getElem? (options : Options) (first : Nat)
    (declaration : EnumDeclaration) (ordinal : Nat) (constant : EnumConstant)
    (found : declaration.constants[ordinal]? = some constant) :
    (loweredEnum options first declaration).initializers[ordinal]? =
      some (.expression (.assignment (.name constant.binding) (.creation
        (constant.instantiate (loweredMembers options first declaration.members) ordinal)))) := by
  have bounded := (List.getElem?_eq_some_iff.mp found).1
  rw [initializers_lowered_enum, List.getElem?_append_left, List.getElem?_mapIdx, found]
  · rfl
  · rw [List.length_mapIdx]
    exact bounded

theorem CompilationUnit.visited_types_lower_enums_getElem? (options : Options)
    (source : CompilationUnit) (succeeds : (source.lowerEnums options).error = none)
    (index : Nat) (declaration : Located TypeDeclaration)
    (visited : source.visitedTypes[index]? = some declaration) :
    ∃ start, (source.lowerEnums options).value.visitedTypes[index]? =
      some ⟨declaration.place, loweredType options start declaration.item⟩ := by
  rw [visitedTypes, visits_lower_enums options source succeeds]
  exact Visit.types_lowered_getElem? options _ source.visits index declaration visited

/-- Each constant whose constructor belongs to an enum type is made with a binding
that stands for the same declaration. -/
def ConstantsResolveAlike (before after : EnumDeclaration) : Prop :=
  ∀ (ordinal : Nat) (constant : EnumConstant), before.constants[ordinal]? = some constant →
    constant.constructor.declaringType.isEnum →
      ∃ creation : Creation,
        after.initializers[ordinal]? =
            some (.expression (.assignment (.name constant.binding) (.creation creation))) ∧
          ResolvesAlike before after constant.constructor creation.method

/-- Each call in the body of an enum constructor, if its callee belongs to an enum
type, stands for the same declaration. -/
def CallsResolveAlike (place : Place) (before after : EnumDeclaration) : Prop :=
  ∀ (position : Nat) (method : MethodDeclaration),
    before.members[position]? = some (.method method) → method.binding.isEnumConstructor →
      ∃ lowered : MethodDeclaration, after.members[position]? = some (.method lowered) ∧
        ∀ (index : Nat) (callPlace : Place) (callee : Callee) (call : ConstructorCall),
          (method.calls (.member position :: place))[index]? = some ⟨callPlace, callee, call⟩ →
            call.method.declaringType.isEnum →
              ∃ forwarded : ConstructorCall,
                (lowered.calls (.member position :: place))[index]? =
                    some ⟨callPlace, callee, forwarded⟩ ∧
                  constructorPosition after.members forwarded.method =
                    constructorPosition before.members call.method

theorem constants_resolve_alike_lowered_enum (options : Options) (first : Nat)
    (declaration : EnumDeclaration) :
    ConstantsResolveAlike declaration (loweredEnum options first declaration) := by
  intro ordinal constant found isEnum
  exact ⟨_, initializers_lowered_enum_getElem? options first declaration ordinal constant found,
    resolves_alike_resolve_constructor options first declaration constant.constructor isEnum⟩

theorem calls_resolve_alike_lowered_enum (options : Options) (first : Nat) (place : Place)
    (declaration : EnumDeclaration) :
    CallsResolveAlike place declaration (loweredEnum options first declaration) := by
  intro position method found constructor
  obtain ⟨start, lowered⟩ :=
    lowered_enum_member_getElem? options first declaration position (.method method) found
  rw [loweredMember, if_pos constructor] at lowered
  refine ⟨loweredConstructor options start method, lowered, ?_⟩
  intro index callPlace callee call calls isEnum
  refine ⟨call.handOn (.numbered method.binding start), ?_, ?_⟩
  · rw [calls_lowered_constructor, List.getElem?_map, calls]
    rfl
  · exact constructor_position_lowered_enum options first declaration call.method isEnum

/-- In every visited enum, the constants and the calls of its constructors stand for
the declarations they stood for before. A constant is made with the
lowered binding of its declaration, modifiers included, or with its own binding
widened if it has none. -/
theorem CompilationUnit.overloads_resolve_alike (options : Options) (source : CompilationUnit)
    (succeeds : (source.lowerEnums options).error = none) (index : Nat) (place : Place)
    (before : EnumDeclaration)
    (visited : source.visitedTypes[index]? = some ⟨place, .ofEnum before⟩) :
    ∃ after, (source.lowerEnums options).value.visitedTypes[index]? =
        some ⟨place, .ofEnum after⟩ ∧
      ConstantsResolveAlike before after ∧ CallsResolveAlike place before after := by
  obtain ⟨start, loweredVisited⟩ :=
    visited_types_lower_enums_getElem? options source succeeds index _ visited
  rw [lowered_type_of_enum] at loweredVisited
  exact ⟨loweredEnum options start before, loweredVisited,
    constants_resolve_alike_lowered_enum options start before,
    calls_resolve_alike_lowered_enum options start place before⟩

namespace Sample

/-- `enum Color { RED; Color(String, int) { this(); } Color() { super(); } }`: the
second constructor, once widened, has the types that the first one has in the source. -/
def overloaded : EnumDeclaration :=
  { colorEnum with
    members :=
      [.method (.ofBinding (.constructorOf color [Known.stringType, Known.intType]) []
        [.thisCall ⟨.constructorOf color [], []⟩]),
       .method (.ofBinding (.constructorOf color []) [] [superCall])] }

def overloadedUnit : CompilationUnit := .ofTypes [.ofEnum overloaded] 3

/-- The constant of `overloaded` means its second constructor, before and after. -/
theorem overloaded_keeps_position :
    (overloadedUnit.lowerEnums {}).error = none ∧
      ∃ (after : EnumDeclaration) (creation : Creation),
        (overloadedUnit.lowerEnums {}).value.visitedTypes[0]? =
          some ⟨[.type 0], .ofEnum after⟩ ∧
        after.initializers[0]? =
          some (.expression (.assignment (.name (.field ⟨0⟩ "RED" color color))
            (.creation creation))) ∧
        constructorPosition overloaded.members (.constructorOf color []) = some 1 ∧
        constructorPosition after.members creation.method = some 1 ∧
        CallsResolveAlike [.type 0] overloaded after := by
  have succeeds : (overloadedUnit.lowerEnums {}).error = none := rfl
  obtain ⟨after, there, constants, calls⟩ :=
    overloadedUnit.overloads_resolve_alike {} succeeds 0 [.type 0] overloaded rfl
  have before : constructorPosition overloaded.members (.constructorOf color []) = some 1 := by
    decide
  obtain ⟨creation, assigned, resolves⟩ := constants 0 _ rfl rfl
  exact ⟨succeeds, after, creation, there, assigned, before, resolves.position.trans before, calls⟩

end Sample

end EnumLowering
