import EnumLowering.Proofs.AuditTrail
import Mathlib.Data.List.Forall2

/-!
Two runs over the same types. Neither the options nor the first unused identity reach
further than to the texts of the support blocks and to the identities of the implicit
parameters. A relation between lowered trees says so: it follows both trees at once, and
where a constructor declares its implicit parameters or hands them on, those of the
second tree have identities that are higher by one and the same offset.
-/

namespace EnumLowering

/-- The same variable under an identity that is higher by `offset`. -/
structure VariableBinding.ShiftedTo (offset : Int) (left right : VariableBinding) : Prop where
  number : (right.id.number.toNat : Int) = left.id.number.toNat + offset
  same : right = { left with id := right.id }

/-- The implicit parameters of one constructor in two lowered trees. -/
structure ImplicitVars.ShiftedTo (offset : Int) (left right : ImplicitVars) : Prop where
  name : left.name.ShiftedTo offset right.name
  ordinal : left.ordinal.ShiftedTo offset right.ordinal
  names : left.name.name = "__name" ∧ left.ordinal.name = "__ordinal"

section Shifted

variable (offset : Int) (Alike : NativeBlock → NativeBlock → Prop)

-- The two variables that a statement stands under are those of the constructor around it, in the
-- left and in the right tree. `Alike` says how far the support blocks agree.
mutual

inductive ShiftedStatement : ImplicitVars → ImplicitVars → Statement → Statement → Prop
  | thisCall {vars moved : ImplicitVars} {method : MethodBinding} {arguments : List Expression} :
      ShiftedStatement vars moved (.thisCall ⟨method, arguments ++ vars.arguments⟩)
        (.thisCall ⟨method, arguments ++ moved.arguments⟩)
  | superCall {vars moved : ImplicitVars} {method : MethodBinding} {arguments : List Expression} :
      ShiftedStatement vars moved (.superCall ⟨method, arguments ++ vars.arguments⟩)
        (.superCall ⟨method, arguments ++ moved.arguments⟩)
  | block {vars moved : ImplicitVars} {left right : List Statement} :
      ShiftedStatements vars moved left right →
        ShiftedStatement vars moved (.block left) (.block right)
  | thenOnly {vars moved : ImplicitVars} {condition : Expression} {left right : Statement} :
      ShiftedStatement vars moved left right →
        ShiftedStatement vars moved (.conditional condition left none)
          (.conditional condition right none)
  | thenElse {vars moved : ImplicitVars} {condition : Expression}
      {left right leftElse rightElse : Statement} :
      ShiftedStatement vars moved left right →
        ShiftedStatement vars moved leftElse rightElse →
          ShiftedStatement vars moved (.conditional condition left (some leftElse))
            (.conditional condition right (some rightElse))
  | localType {vars moved : ImplicitVars} {left right : TypeDeclaration} :
      ShiftedType left right →
        ShiftedStatement vars moved (.localType left) (.localType right)
  | expression {vars moved : ImplicitVars} {value : Expression} :
      ShiftedStatement vars moved (.expression value) (.expression value)
  | result {vars moved : ImplicitVars} {value : Option Expression} :
      ShiftedStatement vars moved (.result value) (.result value)
  | localVariable {vars moved : ImplicitVars} {binding : VariableBinding}
      {initializer : Option Expression} :
      ShiftedStatement vars moved (.localVariable binding initializer)
        (.localVariable binding initializer)

inductive ShiftedStatements : ImplicitVars → ImplicitVars → List Statement → List Statement → Prop
  | nil {vars moved : ImplicitVars} : ShiftedStatements vars moved [] []
  | cons {vars moved : ImplicitVars} {left right : Statement} {lefts rights : List Statement} :
      ShiftedStatement vars moved left right → ShiftedStatements vars moved lefts rights →
        ShiftedStatements vars moved (left :: lefts) (right :: rights)

inductive ShiftedMember : Member → Member → Prop
  /-- An enum constructor without a body. -/
  | signature {vars moved : ImplicitVars} {binding : MethodBinding} {modifiers : Modifiers}
      {parameters : List VariableBinding} :
      binding.isEnumConstructor → vars.ShiftedTo offset moved →
        ShiftedMember (.method ⟨binding, modifiers, parameters ++ vars.parameters, none⟩)
          (.method ⟨binding, modifiers, parameters ++ moved.parameters, none⟩)
  | constructor {vars moved : ImplicitVars} {binding : MethodBinding} {modifiers : Modifiers}
      {parameters : List VariableBinding} {left right : List Statement} :
      binding.isEnumConstructor → vars.ShiftedTo offset moved →
        ShiftedStatements vars moved left right →
          ShiftedMember (.method ⟨binding, modifiers, parameters ++ vars.parameters, some left⟩)
            (.method ⟨binding, modifiers, parameters ++ moved.parameters, some right⟩)
  | method {declaration : MethodDeclaration} :
      ¬ declaration.binding.isEnumConstructor →
        ShiftedMember (.method declaration) (.method declaration)
  | type {left right : TypeDeclaration} :
      ShiftedType left right → ShiftedMember (.type left) (.type right)
  | field {declaration : FieldDeclaration} : ShiftedMember (.field declaration) (.field declaration)
  | native {block : NativeBlock} : ShiftedMember (.native block) (.native block)

inductive ShiftedMembers : List Member → List Member → Prop
  | nil : ShiftedMembers [] []
  | cons {left right : Member} {lefts rights : List Member} :
      ShiftedMember left right → ShiftedMembers lefts rights →
        ShiftedMembers (left :: lefts) (right :: rights)

inductive ShiftedType : TypeDeclaration → TypeDeclaration → Prop
  | ofClass {binding : TypeBinding} {left right : List Member} {initializers : List Statement} :
      ShiftedMembers left right →
        ShiftedType (.ofClass ⟨binding, left, initializers⟩) (.ofClass ⟨binding, right, initializers⟩)
  /-- The support blocks of an enum are its last two members. -/
  | ofEnum {binding : TypeBinding} {constants : List EnumConstant} {left right : List Member}
      {leftInner leftOuter rightInner rightOuter : NativeBlock} {initializers : List Statement} :
      ShiftedMembers left right → Alike leftInner rightInner → Alike leftOuter rightOuter →
        ShiftedType
          (.ofEnum ⟨binding, constants, left ++ [.native leftInner, .native leftOuter],
            initializers⟩)
          (.ofEnum ⟨binding, constants, right ++ [.native rightInner, .native rightOuter],
            initializers⟩)

end

end Shifted

/-- Two lowered units, in the same relation. -/
structure CompilationUnit.ShiftedTo (offset : Int) (Alike : NativeBlock → NativeBlock → Prop)
    (left right : CompilationUnit) : Prop where
  sourcePath : right.sourcePath = left.sourcePath
  types : List.Forall₂ (ShiftedType offset Alike) left.types right.types
  nextVarId : (right.nextVarId.toNat : Int) = left.nextVarId.toNat + offset

/-! Constructors are resolved alike in both trees. -/

section Resolution

variable {offset : Int} {Alike : NativeBlock → NativeBlock → Prop}

theorem ShiftedMember.constructor_binding {left right : Member}
    (shifted : ShiftedMember offset Alike left right) (declaringType : TypeBinding)
    (parameterTypes : List TypeBinding) :
    right.constructorBinding? declaringType parameterTypes =
      left.constructorBinding? declaringType parameterTypes := by
  cases shifted <;> rfl

theorem ShiftedMembers.resolve_constructor {left right : List Member}
    (shifted : ShiftedMembers offset Alike left right) (declared : MethodBinding) :
    resolveConstructor right declared = resolveConstructor left declared := by
  have sameSearch : right.findSome? (Member.constructorBinding? declared.widen.declaringType
      declared.widen.parameterTypes) = left.findSome? (Member.constructorBinding?
        declared.widen.declaringType declared.widen.parameterTypes) := by
    induction left generalizing right with
    | nil =>
        cases shifted
        rfl
    | cons member left induction =>
        cases shifted with
        | cons head tail =>
            rw [List.findSome?_cons, List.findSome?_cons, head.constructor_binding, induction tail]
  rw [resolveConstructor, resolveConstructor, sameSearch]

theorem ShiftedMembers.assignment {left right : List Member}
    (shifted : ShiftedMembers offset Alike left right) :
    EnumConstant.assignment right = EnumConstant.assignment left := by
  funext ordinal constant
  rw [EnumConstant.assignment, EnumConstant.assignment, EnumConstant.instantiate,
    EnumConstant.instantiate, shifted.resolve_constructor]

end Resolution

/-! Two lowered forms of one tree, counted off from two first numbers. -/

theorem ImplicitVars.shifted_to_numbered {offset : Int} {first second : Nat}
    (moved : (second : Int) = first + offset) (fits : first + 2 ≤ 2 ^ 32)
    (otherFits : second + 2 ≤ 2 ^ 32) (binding : MethodBinding) :
    (numbered binding first).ShiftedTo offset (numbered binding second) := by
  obtain ⟨name, ordinal⟩ := toNat_numbered fits binding
  obtain ⟨otherName, otherOrdinal⟩ := toNat_numbered otherFits binding
  constructor
  · exact ⟨by rw [name, otherName, moved], rfl⟩
  · exact ⟨by rw [ordinal, otherOrdinal]; omega, rfl⟩
  · exact ⟨rfl, rfl⟩

/-- The support blocks that two options give agree as far as `Alike` says. -/
def SupportAlike (Alike : NativeBlock → NativeBlock → Prop) (options other : Options) : Prop :=
  ∀ (typeName : String) (count : Nat),
    Alike (Native.enumSupport typeName count options).inner
        (Native.enumSupport typeName count other).inner ∧
      Alike (Native.enumSupport typeName count options).outer
        (Native.enumSupport typeName count other).outer

section LoweredTwice

variable {offset : Int} {Alike : NativeBlock → NativeBlock → Prop} {options other : Options}

theorem shifted_type_lowered_enum (alike : SupportAlike Alike options other) (first second : Nat)
    (declaration : EnumDeclaration)
    (members : ShiftedMembers offset Alike (loweredMembers options first declaration.members)
      (loweredMembers other second declaration.members)) :
    ShiftedType offset Alike (.ofEnum (loweredEnum options first declaration))
      (.ofEnum (loweredEnum other second declaration)) := by
  obtain ⟨inner, outer⟩ := alike declaration.binding.outputName declaration.constants.length
  have initializers : (loweredEnum other second declaration).initializers =
      (loweredEnum options first declaration).initializers := by
    rw [initializers_lowered_enum, initializers_lowered_enum, members.assignment]
  have finished : loweredEnum other second declaration =
      { loweredEnum other second declaration with
        initializers := (loweredEnum options first declaration).initializers } := by
    rw [← initializers]
    rfl
  rw [finished]
  exact .ofEnum members inner outer

mutual

theorem shifted_lowered_statement (alike : SupportAlike Alike options other)
    (vars moved : ImplicitVars) (first second : Nat) (statement : Statement)
    (apart : (second : Int) = first + offset)
    (fits : first + 2 * statement.constructorCount ≤ 2 ^ 32)
    (otherFits : second + 2 * statement.constructorCount ≤ 2 ^ 32) :
    ShiftedStatement offset Alike vars moved (loweredStatement options vars first statement)
      (loweredStatement other moved second statement) := by
  cases statement with
  | thisCall call => exact .thisCall
  | superCall call => exact .superCall
  | block statements =>
      rw [Statement.constructorCount] at fits otherFits
      rw [loweredStatement, loweredStatement]
      exact .block (shifted_lowered_statements alike vars moved first second statements apart fits
        otherFits)
  | conditional condition thenBranch elseBranch =>
      cases elseBranch with
      | none =>
          rw [Statement.constructorCount] at fits otherFits
          rw [loweredStatement, loweredStatement]
          exact .thenOnly (shifted_lowered_statement alike vars moved first second thenBranch apart
            fits otherFits)
      | some elseBranch =>
          rw [Statement.constructorCount] at fits otherFits
          have inThen := shifted_lowered_statement alike vars moved first second thenBranch apart
            (by omega) (by omega)
          have inElse := shifted_lowered_statement alike vars moved
            (first + 2 * thenBranch.constructorCount) (second + 2 * thenBranch.constructorCount)
            elseBranch (by omega) (by omega) (by omega)
          rw [loweredStatement, loweredStatement]
          exact .thenElse inThen inElse
  | localType declaration =>
      rw [Statement.constructorCount] at fits otherFits
      rw [loweredStatement, loweredStatement]
      exact .localType (shifted_lowered_type alike first second declaration apart fits otherFits)
  | expression value => exact .expression
  | result value => exact .result
  | localVariable binding initializer => exact .localVariable

theorem shifted_lowered_statements (alike : SupportAlike Alike options other)
    (vars moved : ImplicitVars) (first second : Nat) (statements : List Statement)
    (apart : (second : Int) = first + offset)
    (fits : first + 2 * Statement.constructorCounts statements ≤ 2 ^ 32)
    (otherFits : second + 2 * Statement.constructorCounts statements ≤ 2 ^ 32) :
    ShiftedStatements offset Alike vars moved (loweredStatements options vars first statements)
      (loweredStatements other moved second statements) := by
  cases statements with
  | nil => exact .nil
  | cons statement statements =>
      rw [Statement.constructorCounts] at fits otherFits
      have inHead := shifted_lowered_statement alike vars moved first second statement apart
        (by omega) (by omega)
      have inTail := shifted_lowered_statements alike vars moved
        (first + 2 * statement.constructorCount) (second + 2 * statement.constructorCount)
        statements (by omega) (by omega) (by omega)
      rw [loweredStatements, loweredStatements]
      exact .cons inHead inTail

theorem shifted_lowered_constructor (alike : SupportAlike Alike options other)
    (first second : Nat) (method : MethodDeclaration)
    (constructor : method.binding.isEnumConstructor) (apart : (second : Int) = first + offset)
    (fits : first + 2 * method.constructorCount ≤ 2 ^ 32)
    (otherFits : second + 2 * method.constructorCount ≤ 2 ^ 32) :
    ShiftedMember offset Alike (.method (loweredConstructor options first method))
      (.method (loweredConstructor other second method)) := by
  obtain ⟨binding, modifiers, parameters, body⟩ := method
  rw [MethodDeclaration.constructorCount] at fits otherFits
  have vars := ImplicitVars.shifted_to_numbered apart (by omega) (by omega) binding
  have stays : binding.lowered.isEnumConstructor := constructor
  cases body with
  | none => exact .signature stays vars
  | some statements =>
      rw [Statement.constructorCountBody] at fits otherFits
      have inBody := shifted_lowered_statements alike (.numbered binding first)
        (.numbered binding second) (first + 2) (second + 2) statements (by omega) (by omega)
        (by omega)
      rw [loweredConstructor, loweredConstructor, loweredBody, loweredBody]
      exact .constructor stays vars inBody

theorem shifted_lowered_member (alike : SupportAlike Alike options other) (first second : Nat)
    (member : Member) (apart : (second : Int) = first + offset)
    (fits : first + 2 * member.constructorCount ≤ 2 ^ 32)
    (otherFits : second + 2 * member.constructorCount ≤ 2 ^ 32) :
    ShiftedMember offset Alike (loweredMember options first member)
      (loweredMember other second member) := by
  cases member with
  | method method =>
      by_cases constructor : method.binding.isEnumConstructor
      · rw [Member.constructorCount, if_pos constructor] at fits otherFits
        rw [loweredMember, loweredMember, if_pos constructor, if_pos constructor]
        exact shifted_lowered_constructor alike first second method constructor apart fits otherFits
      · rw [loweredMember, loweredMember, if_neg constructor, if_neg constructor]
        exact .method constructor
  | type declaration =>
      rw [Member.constructorCount] at fits otherFits
      rw [loweredMember, loweredMember]
      exact .type (shifted_lowered_type alike first second declaration apart fits otherFits)
  | field declaration => exact .field
  | native block => exact .native

theorem shifted_lowered_members (alike : SupportAlike Alike options other) (first second : Nat)
    (members : List Member) (apart : (second : Int) = first + offset)
    (fits : first + 2 * Member.constructorCounts members ≤ 2 ^ 32)
    (otherFits : second + 2 * Member.constructorCounts members ≤ 2 ^ 32) :
    ShiftedMembers offset Alike (loweredMembers options first members)
      (loweredMembers other second members) := by
  cases members with
  | nil => exact .nil
  | cons member members =>
      rw [Member.constructorCounts] at fits otherFits
      have inHead := shifted_lowered_member alike first second member apart (by omega) (by omega)
      have inTail := shifted_lowered_members alike (first + 2 * member.constructorCount)
        (second + 2 * member.constructorCount) members (by omega) (by omega) (by omega)
      rw [loweredMembers, loweredMembers]
      exact .cons inHead inTail

theorem shifted_lowered_type (alike : SupportAlike Alike options other) (first second : Nat)
    (declaration : TypeDeclaration) (apart : (second : Int) = first + offset)
    (fits : first + 2 * declaration.constructorCount ≤ 2 ^ 32)
    (otherFits : second + 2 * declaration.constructorCount ≤ 2 ^ 32) :
    ShiftedType offset Alike (loweredType options first declaration)
      (loweredType other second declaration) := by
  rcases declaration with ⟨⟨binding, members, initializers⟩⟩ |
    ⟨⟨binding, constants, members, initializers⟩⟩
  all_goals
    rw [TypeDeclaration.constructorCount] at fits otherFits
    have inMembers := shifted_lowered_members alike first second members apart fits otherFits
  · rw [loweredType, loweredType]
    exact .ofClass inMembers
  · rw [lowered_type_of_enum, lowered_type_of_enum]
    exact shifted_type_lowered_enum alike first second _ inMembers

end

theorem shifted_lowered_types (alike : SupportAlike Alike options other) (first second : Nat)
    (index : Nat) (declarations : List TypeDeclaration) (apart : (second : Int) = first + offset)
    (fits : first + 2 * (Visit.constructors
      (TypeDeclaration.visitsFrom index declarations)).length ≤ 2 ^ 32)
    (otherFits : second + 2 * (Visit.constructors
      (TypeDeclaration.visitsFrom index declarations)).length ≤ 2 ^ 32) :
    List.Forall₂ (ShiftedType offset Alike) (loweredTypes options first declarations)
      (loweredTypes other second declarations) := by
  induction declarations generalizing first second index with
  | nil => exact .nil
  | cons declaration declarations induction =>
      rw [TypeDeclaration.visitsFrom, Visit.constructors_append, List.length_append,
        declaration.length_constructors_visits] at fits otherFits
      rw [loweredTypes, loweredTypes]
      refine .cons ?_ ?_
      · exact shifted_lowered_type alike first second declaration apart (by omega) (by omega)
      · exact induction _ _ (index + 1) (by omega) (by omega) (by omega)

end LoweredTwice

/-- Blocks that may differ in their texts. -/
def NativeBlock.SamePlacement (left right : NativeBlock) : Prop :=
  left.placement = right.placement

/-- Options change the texts of the support blocks and nothing else. -/
theorem support_alike_same_placement (options other : Options) :
    SupportAlike NativeBlock.SamePlacement options other :=
  fun _ _ => ⟨rfl, rfl⟩

namespace CompilationUnit

@[simp] theorem source_path_lower_enums (options : Options) (source : CompilationUnit) :
    (source.lowerEnums options).value.sourcePath = source.sourcePath := rfl

section TwoRuns

variable (options other : Options) (source : CompilationUnit) (next : UInt32)
  (succeeds : (source.lowerEnums options).error = none)
  (otherSucceeds : ({ source with nextVarId := next }.lowerEnums other).error = none)

include succeeds otherSucceeds

/-- Both runs draw as many identities. -/
theorem next_var_id_shifted :
    (({ source with nextVarId := next }.lowerEnums other).value.nextVarId.toNat : Int) =
      (source.lowerEnums options).value.nextVarId.toNat +
        (next.toNat - source.nextVarId.toNat) := by
  have drawn := next_var_id_of_success options source succeeds
  have otherDrawn : ({ source with nextVarId := next }.lowerEnums other).value.nextVarId.toNat =
      next.toNat + 2 * source.visitedConstructors.length :=
    next_var_id_of_success other _ otherSucceeds
  omega

theorem types_shifted :
    List.Forall₂
      (ShiftedType (next.toNat - source.nextVarId.toNat) NativeBlock.SamePlacement)
      (source.lowerEnums options).value.types
      ({ source with nextVarId := next }.lowerEnums other).value.types := by
  have apart : (next.toNat : Int) =
      source.nextVarId.toNat + (next.toNat - source.nextVarId.toNat) := by omega
  rw [types_lower_enums options source succeeds, types_lower_enums other _ otherSucceeds]
  exact shifted_lowered_types (support_alike_same_placement options other) _ _ 0 source.types apart
    (count_fits options source succeeds) (count_fits other _ otherSucceeds)

end TwoRuns

/-- Two runs over the same types that do not fail, with any options and from any first
unused identity, count the same and emit the same events. Their lowered units are alike
but for the texts of the support blocks, the identities of the implicit parameters where
they are declared and handed on, and the first unused identity. All these identities lie
as far apart as those that the runs started from. -/
theorem two_runs_differ_by_a_shift (options other : Options) (source : CompilationUnit)
    (next : UInt32) (succeeds : (source.lowerEnums options).error = none)
    (otherSucceeds : ({ source with nextVarId := next }.lowerEnums other).error = none) :
    ({ source with nextVarId := next }.lowerEnums other).work.stats =
        (source.lowerEnums options).work.stats ∧
      ({ source with nextVarId := next }.lowerEnums other).work.events =
        (source.lowerEnums options).work.events ∧
      (source.lowerEnums options).value.ShiftedTo (next.toNat - source.nextVarId.toNat)
        NativeBlock.SamePlacement ({ source with nextVarId := next }.lowerEnums other).value := by
  refine ⟨?_, ?_, ?_⟩
  · rw [stats_lower_enums options source succeeds, stats_lower_enums other _ otherSucceeds]
    rfl
  · rw [events_lower_enums options source succeeds, events_lower_enums other _ otherSucceeds]
    rfl
  · exact ⟨by rw [source_path_lower_enums, source_path_lower_enums],
      types_shifted options other source next succeeds otherSucceeds,
      next_var_id_shifted options other source next succeeds otherSucceeds⟩

end CompilationUnit

namespace Sample

def swift : Options := { swiftFriendly := true, memory := .automatic, indentWidth := 4 }

/-- From the identities 3 and 10 on and under different options, `palette` becomes the
same unit shifted by 7. -/
theorem palette_is_shifted :
    ((palette 3).lowerEnums {}).error = none ∧ ((palette 10).lowerEnums swift).error = none ∧
      ((palette 10).lowerEnums swift).work.stats = ((palette 3).lowerEnums {}).work.stats ∧
      ((palette 10).lowerEnums swift).work.events = ((palette 3).lowerEnums {}).work.events ∧
      ((palette 3).lowerEnums {}).value.ShiftedTo 7 NativeBlock.SamePlacement
        ((palette 10).lowerEnums swift).value := by
  have succeeds : ((palette 3).lowerEnums {}).error = none := rfl
  have otherSucceeds : ((palette 10).lowerEnums swift).error = none := rfl
  obtain ⟨stats, events, shifted⟩ :=
    (palette 3).two_runs_differ_by_a_shift {} swift 10 succeeds otherSucceeds
  exact ⟨succeeds, otherSucceeds, stats, events, shifted⟩

end Sample

end EnumLowering
