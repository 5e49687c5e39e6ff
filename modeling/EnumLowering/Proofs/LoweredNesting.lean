import EnumLowering.Proofs.FormatRecovery
import EnumLowering.Proofs.Overloads

/-!
How much deeper a lowered unit nests. The arguments of a constant move into an assignment,
a few levels further down. The parameters that a constructor hands on carry the type that
declares it, and the calls that take them may stand anywhere in its body. So the two
deepest parts of a unit can come to lie inside one another, but never more than two, and a
unit that leaves about half of the levels free is read back after lowering.
-/

namespace EnumLowering

open Json

theorem nesting_items_append (first second : List Json) :
    nestingItems (first ++ second) = max (nestingItems first) (nestingItems second) := by
  induction first with
  | nil => rw [nestingItems, List.nil_append, Nat.zero_max]
  | cons item first induction =>
      rw [List.cons_append, nestingItems, nestingItems, induction, Nat.max_assoc]

theorem nesting_items_le_iff {items : List Json} {limit : Nat} :
    nestingItems items ≤ limit ↔ ∀ item ∈ items, item.nesting ≤ limit := by
  induction items with
  | nil => simp [nestingItems]
  | cons item items induction => rw [nestingItems, Nat.max_le, induction, List.forall_mem_cons]

theorem Modifiers.nesting_to_json (modifiers : Modifiers) : modifiers.toJson.nesting = 1 := by
  simp only [toJson, nesting, nestingEntries, Nat.max_zero]

namespace MethodBinding

theorem nesting_to_json (binding : MethodBinding) :
    binding.toJson.nesting =
      max binding.declaringType.toJson.nesting
        (max (nestingItems (binding.parameterTypes.map TypeBinding.toJson) + 1)
          (max (nestingEntries (optionalEntry "return_type" TypeBinding.toJson binding.returnType))
            1)) + 1 := by
  simp only [toJson, nesting, nestingEntries, nesting_entries_append, Modifiers.nesting_to_json,
    Nat.max_zero, Nat.zero_max, Nat.max_assoc]

/-- The implicit types are flat, so a widened signature nests three levels or no deeper than
before. -/
theorem nesting_widen {binding : MethodBinding} {limit : Nat}
    (fits : binding.toJson.nesting ≤ limit) (room : 3 ≤ limit) :
    binding.widen.toJson.nesting ≤ limit := by
  have implicit : nestingItems (implicitTypes.map TypeBinding.toJson) = 1 := by decide
  simp only [nesting_to_json, ← Nat.add_max_add_right, Nat.max_le] at fits
  simp only [nesting_to_json, widen, List.map_append, nesting_items_append, implicit,
    ← Nat.add_max_add_right, Nat.max_le]
  omega

theorem nesting_lowered {binding : MethodBinding} {limit : Nat}
    (fits : binding.toJson.nesting ≤ limit) (room : 3 ≤ limit) :
    binding.lowered.toJson.nesting ≤ limit := by
  have widened := nesting_widen fits room
  rw [nesting_to_json] at widened ⊢
  exact widened

end MethodBinding

theorem VariableBinding.nesting_parameter (id : VarId) (name : String)
    (type declaringType : TypeBinding) :
    (VariableBinding.parameter id name type declaringType).toJson.nesting =
      max type.toJson.nesting declaringType.toJson.nesting + 1 := by
  simp only [VariableBinding.parameter, VariableBinding.localVariable, VariableBinding.toJson,
    VarId.toJson, ofNat, optionalEntry, nesting, nestingEntries, nesting_entries_append,
    Nat.max_zero, Nat.zero_max]

theorem TypeBinding.nesting_pos (binding : TypeBinding) : 1 ≤ binding.toJson.nesting := by
  obtain ⟨package, name, outer, kind, superclass⟩ := binding
  rw [TypeBinding.toJson, nesting]
  omega

/-- The implicit parameters carry the type that declares their constructor. -/
theorem ImplicitVars.nesting_numbered (binding : MethodBinding) (first : Nat) :
    ∀ parameter ∈ (ImplicitVars.numbered binding first).parameters,
      parameter.toJson.nesting = binding.declaringType.toJson.nesting + 1 := by
  have flatString : Known.stringType.toJson.nesting = 1 := by decide
  have flatInt : Known.intType.toJson.nesting = 1 := by decide
  have deep := binding.declaringType.nesting_pos
  simp [numbered, ofIds, parameters, VariableBinding.nesting_parameter, flatString, flatInt,
    Nat.max_eq_right deep]

theorem MethodBinding.nesting_declaring_type (binding : MethodBinding) :
    binding.declaringType.toJson.nesting < binding.toJson.nesting := by
  rw [MethodBinding.nesting_to_json]
  exact Nat.lt_succ_of_le (Nat.le_max_left _ _)

theorem ConstructorCall.nesting_hand_on {growth : Nat} (room : 5 ≤ growth) {vars : ImplicitVars}
    (light : ∀ parameter ∈ vars.parameters, parameter.toJson.nesting ≤ growth)
    {call : ConstructorCall} {limit : Nat} (fits : call.toJson.nesting ≤ limit) :
    (call.handOn vars).toJson.nesting ≤ limit + growth := by
  have named := light vars.name List.mem_cons_self
  have numbered := light vars.ordinal (List.mem_cons_of_mem _ List.mem_cons_self)
  have declared := call.method.declaringType.nesting_pos
  have method := call.method.nesting_declaring_type
  simp only [ConstructorCall.toJson, nesting, nestingEntries, Nat.max_zero,
    ← Nat.add_max_add_right, Nat.max_le] at fits
  have widened : call.method.widen.toJson.nesting ≤ limit + growth - 1 :=
    MethodBinding.nesting_widen (by omega) (by omega)
  have arguments : nestingItems (Expression.listToJson (call.arguments ++ vars.arguments)) ≤
      limit + growth - 2 := by
    rw [Expression.list_to_json_eq] at fits
    simp only [Expression.list_to_json_eq, List.map_append, nesting_items_append,
      ImplicitVars.arguments, List.map_cons, List.map_nil, Expression.toJson, Expression.tagged,
      nestingItems, nesting, nestingEntries, Nat.max_zero, Nat.max_le]
    omega
  simp only [ConstructorCall.toJson, ConstructorCall.handOn, nesting, nestingEntries,
    Nat.max_zero, ← Nat.add_max_add_right, Nat.max_le]
  omega

theorem ImplicitVars.light_numbered {growth : Nat} (binding : MethodBinding) (first : Nat)
    (shallow : binding.toJson.nesting ≤ growth) :
    ∀ parameter ∈ (ImplicitVars.numbered binding first).parameters,
      parameter.toJson.nesting ≤ growth := by
  intro parameter member
  rw [nesting_numbered binding first parameter member]
  exact Nat.lt_of_lt_of_le binding.nesting_declaring_type shallow

/-- The signature and the parameters of a lowered constructor. -/
theorem nesting_lowered_signature {growth : Nat} (room : 5 ≤ growth) (binding : MethodBinding)
    (parameters : List VariableBinding) (first limit : Nat)
    (bindingFits : binding.toJson.nesting ≤ limit)
    (parametersFit : nestingItems (parameters.map parameterToJson) + 1 ≤ limit)
    (shallow : binding.toJson.nesting ≤ growth) :
    binding.lowered.toJson.nesting ≤ limit + growth ∧
      nestingItems ((parameters ++ (ImplicitVars.numbered binding first).parameters).map
        parameterToJson) + 1 ≤ limit + growth := by
  refine ⟨MethodBinding.nesting_lowered (by omega) (by omega), ?_⟩
  have declared := binding.declaringType.nesting_pos
  have method := binding.nesting_declaring_type
  have added : nestingItems ((ImplicitVars.numbered binding first).parameters.map
      parameterToJson) ≤ growth + 1 := by
    rw [nesting_items_le_iff, List.forall_mem_map]
    intro parameter member
    have light := ImplicitVars.light_numbered binding first shallow parameter member
    simp only [parameterToJson, nesting, nestingEntries, Nat.max_zero]
    omega
  simp only [List.map_append, nesting_items_append, ← Nat.add_max_add_right, Nat.max_le]
  omega

/-! Constants -/

theorem mem_lowered_members (options : Options) (first : Nat) {members : List Member}
    {lowered : Member} (found : lowered ∈ loweredMembers options first members) :
    ∃ source ∈ members, ∃ start, lowered = loweredMember options start source := by
  induction members generalizing first with
  | nil => exact absurd found List.not_mem_nil
  | cons member members induction =>
      rw [loweredMembers] at found
      rcases List.mem_cons.mp found with rfl | later
      · exact ⟨member, List.mem_cons_self, first, rfl⟩
      · obtain ⟨source, known, start, isLowered⟩ := induction _ later
        exact ⟨source, List.mem_cons_of_mem _ known, start, isLowered⟩

theorem Member.nesting_method (method : MethodDeclaration) :
    method.binding.toJson.nesting + 2 ≤ (Member.method method).toJson.nesting := by
  obtain ⟨binding, modifiers, parameters, body⟩ := method
  cases body <;> simp only [Member.toJson, MethodDeclaration.toJson, nesting, nestingEntries] <;>
    omega

/-- The constructor of a constant nests no deeper than the members and constants of its
enum. -/
theorem nesting_resolve_constructor (options : Options) (first : Nat) {members : List Member}
    {declared : MethodBinding} {limit : Nat}
    (membersFit : ∀ member ∈ members, member.toJson.nesting ≤ limit)
    (fits : declared.toJson.nesting < limit) :
    (resolveConstructor (loweredMembers options first members) declared).toJson.nesting ≤
      limit := by
  have declaring := declared.declaringType.nesting_pos
  have signature := declared.nesting_declaring_type
  rcases resolve_constructor_cases (loweredMembers options first members) declared with
    ⟨_, unresolved⟩ | ⟨position, method, _, found, resolved⟩
  · rw [unresolved]
    exact MethodBinding.nesting_widen (by omega) (by omega)
  · rw [resolved]
    obtain ⟨source, known, start, isLowered⟩ :=
      mem_lowered_members options first (List.mem_of_getElem? found)
    have sourceFits := membersFit source known
    cases source with
    | method original =>
        have originalFits := Member.nesting_method original
        rw [loweredMember] at isLowered
        split at isLowered
        · cases isLowered
          obtain ⟨binding, modifiers, parameters, body⟩ := original
          change binding.toJson.nesting + 2 ≤ _ at originalFits
          change binding.lowered.toJson.nesting ≤ limit
          exact MethodBinding.nesting_lowered (by omega) (by omega)
        · cases isLowered
          omega
    | field _ | type _ | native _ => cases isLowered

theorem EnumConstant.nesting_assignment (members : List Member) (ordinal : Nat)
    {constant : EnumConstant} {limit : Nat} (fits : constant.toJson.nesting ≤ limit)
    (resolvedFits : (resolveConstructor members constant.constructor).toJson.nesting ≤ limit) :
    (constant.assignment members ordinal).toJson.nesting ≤ limit + 5 := by
  have declaring := constant.constructor.declaringType.nesting_pos
  have signature := constant.constructor.nesting_declaring_type
  simp only [EnumConstant.toJson, nesting, nestingEntries, Nat.max_zero, Expression.list_to_json_eq,
    ← Nat.add_max_add_right, Nat.max_le] at fits
  simp only [assignment, instantiate, Statement.toJson, Expression.toJson, Creation.toJson,
    Expression.tagged, Expression.list_to_json_eq, List.map_append, List.map_cons, List.map_nil,
    nesting_items_append, nestingItems, nesting, nestingEntries, Nat.max_zero,
    ← Nat.add_max_add_right, Nat.max_le]
  omega

theorem nesting_items_assignments (options : Options) (first : Nat) (constants : List EnumConstant)
    (members : List Member) (limit : Nat)
    (constantsFit : nestingItems (constants.map EnumConstant.toJson) ≤ limit)
    (membersFit : nestingItems (Member.listToJson members) ≤ limit) :
    nestingItems ((constants.mapIdx
      (EnumConstant.assignment (loweredMembers options first members))).map Statement.toJson) ≤
        limit + 5 := by
  rw [Member.list_to_json_eq, nesting_items_le_iff, List.forall_mem_map] at membersFit
  rw [nesting_items_le_iff, List.forall_mem_map] at constantsFit ⊢
  intro statement assigned
  obtain ⟨ordinal, inRange, rfl⟩ := List.mem_mapIdx.mp assigned
  have constantFits := constantsFit _ (List.getElem_mem inRange)
  refine EnumConstant.nesting_assignment _ ordinal constantFits
    (nesting_resolve_constructor options first membersFit ?_)
  simp only [EnumConstant.toJson, nesting, nestingEntries, Nat.max_zero,
    ← Nat.add_max_add_right, Nat.max_le] at constantFits
  omega

/-! The walk -/

-- Every part comes with a limit that it keeps before lowering. `growth` has to cover the
-- parameters of all constructors inside, so the limit is bounded in turn: a constructor within
-- `growth + 1` levels has a signature within `growth`.

mutual

theorem nesting_lowered_statement {growth : Nat} (room : 5 ≤ growth) (options : Options)
    (first : Nat) {vars : ImplicitVars}
    (light : ∀ parameter ∈ vars.parameters, parameter.toJson.nesting ≤ growth) :
    ∀ (statement : Statement) (limit : Nat), statement.toJson.nesting ≤ limit →
      limit ≤ growth + 6 →
      (loweredStatement options vars first statement).toJson.nesting ≤ limit + growth
  | .thisCall call, limit, fits, _ => by
      simp only [Statement.toJson, nesting, nestingEntries, Nat.max_zero] at fits
      have handed := ConstructorCall.nesting_hand_on room light (Nat.le_sub_one_of_lt fits)
      simp only [loweredStatement, Statement.toJson, nesting, nestingEntries, Nat.max_zero]
      omega
  | .superCall call, limit, fits, _ => by
      simp only [Statement.toJson, nesting, nestingEntries, Nat.max_zero] at fits
      have handed := ConstructorCall.nesting_hand_on room light (Nat.le_sub_one_of_lt fits)
      simp only [loweredStatement, Statement.toJson, nesting, nestingEntries, Nat.max_zero]
      omega
  | .block statements, limit, fits, shallow => by
      simp only [Statement.toJson, nesting, nestingEntries, Nat.max_zero] at fits
      have inner := nesting_lowered_statements room options first light statements (limit - 3)
        (by omega) (by omega)
      simp only [loweredStatement, Statement.toJson, nesting, nestingEntries, Nat.max_zero]
      omega
  | .conditional condition thenBranch none, limit, fits, shallow => by
      simp only [Statement.toJson, nesting, nestingEntries, Nat.max_zero,
        ← Nat.add_max_add_right, Nat.max_le] at fits
      have inner := nesting_lowered_statement room options first light thenBranch (limit - 2)
        (by omega) (by omega)
      simp only [loweredStatement, Statement.toJson, nesting, nestingEntries, Nat.max_zero,
        ← Nat.add_max_add_right, Nat.max_le]
      omega
  | .conditional condition thenBranch (some elseBranch), limit, fits, shallow => by
      simp only [Statement.toJson, nesting, nestingEntries, Nat.max_zero,
        ← Nat.add_max_add_right, Nat.max_le] at fits
      have inner := nesting_lowered_statement room options first light thenBranch (limit - 2)
        (by omega) (by omega)
      have other := nesting_lowered_statement room options (first + 2 * thenBranch.constructorCount)
        light elseBranch (limit - 2) (by omega) (by omega)
      simp only [loweredStatement, Statement.toJson, nesting, nestingEntries, Nat.max_zero,
        ← Nat.add_max_add_right, Nat.max_le]
      omega
  | .localType declaration, limit, fits, shallow => by
      simp only [Statement.toJson, nesting, nestingEntries, Nat.max_zero] at fits
      have inner := nesting_lowered_type room options first declaration (limit - 1) (by omega)
        (by omega)
      simp only [loweredStatement, Statement.toJson, nesting, nestingEntries, Nat.max_zero]
      omega
  | .expression value, limit, fits, _ => Nat.le_add_right_of_le fits
  | .result value, limit, fits, _ => Nat.le_add_right_of_le fits
  | .localVariable binding initializer, limit, fits, _ => Nat.le_add_right_of_le fits

theorem nesting_lowered_statements {growth : Nat} (room : 5 ≤ growth) (options : Options)
    (first : Nat) {vars : ImplicitVars}
    (light : ∀ parameter ∈ vars.parameters, parameter.toJson.nesting ≤ growth) :
    ∀ (statements : List Statement) (limit : Nat),
      nestingItems (Statement.listToJson statements) ≤ limit → limit ≤ growth + 6 →
      nestingItems (Statement.listToJson (loweredStatements options vars first statements)) ≤
        limit + growth
  | [], limit, _, _ => by
      simp only [loweredStatements, Statement.listToJson, nestingItems]
      omega
  | statement :: statements, limit, fits, shallow => by
      simp only [Statement.listToJson, nestingItems, Nat.max_le] at fits
      simp only [loweredStatements, Statement.listToJson, nestingItems, Nat.max_le]
      exact ⟨nesting_lowered_statement room options first light statement limit fits.1 shallow,
        nesting_lowered_statements room options _ light statements limit fits.2 shallow⟩

theorem nesting_lowered_constructor {growth : Nat} (room : 5 ≤ growth) (options : Options)
    (first : Nat) :
    ∀ (method : MethodDeclaration) (limit : Nat), method.toJson.nesting ≤ limit →
      limit ≤ growth + 1 →
      (loweredConstructor options first method).toJson.nesting ≤ limit + growth
  | ⟨binding, modifiers, parameters, none⟩, limit, fits, shallow => by
      simp only [MethodDeclaration.toJson, Modifiers.nesting_to_json, nesting, nestingEntries,
        Nat.max_zero, ← Nat.add_max_add_right, Nat.max_le] at fits
      have signature := nesting_lowered_signature room binding parameters first (limit - 1)
        (by omega) (by omega) (by omega)
      simp only [loweredConstructor, loweredBody, MethodDeclaration.toJson,
        Modifiers.nesting_to_json, nesting, nestingEntries, Nat.max_zero,
        ← Nat.add_max_add_right, Nat.max_le]
      omega
  | ⟨binding, modifiers, parameters, some statements⟩, limit, fits, shallow => by
      simp only [MethodDeclaration.toJson, Modifiers.nesting_to_json, nesting, nestingEntries,
        Nat.max_zero, ← Nat.add_max_add_right, Nat.max_le] at fits
      have signature := nesting_lowered_signature room binding parameters first (limit - 1)
        (by omega) (by omega) (by omega)
      have inner := nesting_lowered_statements room options (first + 2)
        (ImplicitVars.light_numbered binding first (by omega)) statements (limit - 3)
        (by omega) (by omega)
      simp only [loweredConstructor, loweredBody, MethodDeclaration.toJson,
        Modifiers.nesting_to_json, nesting, nestingEntries, Nat.max_zero,
        ← Nat.add_max_add_right, Nat.max_le]
      omega

theorem nesting_lowered_member {growth : Nat} (room : 5 ≤ growth) (options : Options)
    (first : Nat) :
    ∀ (member : Member) (limit : Nat), member.toJson.nesting ≤ limit → limit ≤ growth + 2 →
      (loweredMember options first member).toJson.nesting ≤ limit + growth
  | .method method, limit, fits, shallow => by
      rw [loweredMember]
      split
      · simp only [Member.toJson, nesting, nestingEntries, Nat.max_zero] at fits
        have inner := nesting_lowered_constructor room options first method (limit - 1) (by omega)
          (by omega)
        simp only [Member.toJson, nesting, nestingEntries, Nat.max_zero]
        omega
      · exact Nat.le_add_right_of_le fits
  | .type declaration, limit, fits, shallow => by
      simp only [Member.toJson, nesting, nestingEntries, Nat.max_zero] at fits
      have inner := nesting_lowered_type room options first declaration (limit - 1) (by omega)
        (by omega)
      simp only [loweredMember, Member.toJson, nesting, nestingEntries, Nat.max_zero]
      omega
  | .field declaration, limit, fits, _ => Nat.le_add_right_of_le fits
  | .native block, limit, fits, _ => Nat.le_add_right_of_le fits

theorem nesting_lowered_members {growth : Nat} (room : 5 ≤ growth) (options : Options)
    (first : Nat) :
    ∀ (members : List Member) (limit : Nat),
      nestingItems (Member.listToJson members) ≤ limit → limit ≤ growth + 2 →
      nestingItems (Member.listToJson (loweredMembers options first members)) ≤ limit + growth
  | [], limit, _, _ => by
      simp only [loweredMembers, Member.listToJson, nestingItems]
      omega
  | member :: members, limit, fits, shallow => by
      simp only [Member.listToJson, nestingItems, Nat.max_le] at fits
      simp only [loweredMembers, Member.listToJson, nestingItems, Nat.max_le]
      exact ⟨nesting_lowered_member room options first member limit fits.1 shallow,
        nesting_lowered_members room options _ members limit fits.2 shallow⟩

theorem nesting_lowered_type {growth : Nat} (room : 5 ≤ growth) (options : Options)
    (first : Nat) :
    ∀ (type : TypeDeclaration) (limit : Nat), type.toJson.nesting ≤ limit → limit ≤ growth + 5 →
      (loweredType options first type).toJson.nesting ≤ limit + growth
  | .ofClass ⟨binding, members, initializers⟩, limit, fits, shallow => by
      simp only [TypeDeclaration.toJson, ClassDeclaration.toJson, nesting, nestingEntries,
        Nat.max_zero, ← Nat.add_max_add_right, Nat.max_le] at fits
      have inner := nesting_lowered_members room options first members (limit - 3) (by omega)
        (by omega)
      simp only [loweredType, TypeDeclaration.toJson, ClassDeclaration.toJson, nesting,
        nestingEntries, Nat.max_zero, ← Nat.add_max_add_right, Nat.max_le]
      omega
  | .ofEnum ⟨binding, constants, members, initializers⟩, limit, fits, shallow => by
      have declared := binding.nesting_pos
      simp only [TypeDeclaration.toJson, EnumDeclaration.toJson, nesting, nestingEntries,
        Nat.max_zero, ← Nat.add_max_add_right, Nat.max_le] at fits
      obtain ⟨bindingFits, constantsFit, membersFit, initializersFit⟩ := fits
      have inner := nesting_lowered_members room options first members (limit - 3) (by omega)
        (by omega)
      have assigned := nesting_items_assignments options first constants members (limit - 3)
        (by omega) (by omega)
      rw [Member.list_to_json_eq] at inner
      rw [Statement.list_to_json_eq] at initializersFit
      simp only [loweredType, EnumDeclaration.finish, EnumDeclaration.lowerConstants,
        TypeDeclaration.toJson, EnumDeclaration.toJson, Member.list_to_json_eq,
        Statement.list_to_json_eq, List.map_append, List.map_cons, List.map_nil,
        nesting_items_append, nestingItems, Member.toJson, NativeBlock.toJson, nesting,
        nestingEntries, Nat.max_zero, ← Nat.add_max_add_right, Nat.max_le]
      omega

end

theorem nesting_items_lowered_types {growth : Nat} (room : 5 ≤ growth) (options : Options)
    (first : Nat) (types : List TypeDeclaration) {limit : Nat}
    (fits : nestingItems (types.map TypeDeclaration.toJson) ≤ limit)
    (shallow : limit ≤ growth + 5) :
    nestingItems ((loweredTypes options first types).map TypeDeclaration.toJson) ≤
      limit + growth := by
  induction types generalizing first with
  | nil => exact Nat.zero_le _
  | cons type types induction =>
      rw [List.map_cons, nestingItems, Nat.max_le] at fits
      rw [loweredTypes, List.map_cons, nestingItems, Nat.max_le]
      exact ⟨nesting_lowered_type room options first type limit fits.1 shallow,
        induction _ fits.2⟩

namespace CompilationUnit

theorem nesting_to_json (compilationUnit : CompilationUnit) :
    compilationUnit.toJson.nesting =
      nestingItems (compilationUnit.types.map TypeDeclaration.toJson) + 2 := by
  obtain ⟨sourcePath, types, nextVarId⟩ := compilationUnit
  cases sourcePath <;>
    simp only [toJson, optionalEntry, ofNat, nesting, nestingEntries, List.nil_append,
      List.cons_append, Nat.max_zero, Nat.zero_max]

/-- Lowering adds at most five levels, or nearly as many as there were: the types that
declare a constructor are named again wherever its parameters are handed on. -/
theorem nesting_lower_enums (options : Options) (source : CompilationUnit)
    (succeeds : (source.lowerEnums options).error = none) :
    (source.lowerEnums options).value.toJson.nesting ≤
      source.toJson.nesting + max 5 (source.toJson.nesting - 7) := by
  rw [nesting_to_json, nesting_to_json, types_lower_enums options source succeeds]
  have bound := nesting_items_lowered_types (Nat.le_max_left 5
    (nestingItems (source.types.map TypeDeclaration.toJson) + 2 - 7)) options
      source.nextVarId.toNat source.types (Nat.le_refl _) (by omega)
  omega

/-- What is written for a lowered unit is read back exactly when the unit nests within the
limit, and a unit of at most 67 levels leaves room enough for whatever lowering adds. -/
theorem lowered_text_is_read_back_iff_shallow (options : Options) (source : CompilationUnit)
    (succeeds : (source.lowerEnums options).error = none) :
    (readText CompilationUnit.read (source.lowerEnums options).value.toJson.pretty =
        if (source.lowerEnums options).value.toJson.nesting ≤ nestingLimit then
          .ok (source.lowerEnums options).value
        else .error .malformed) ∧
      (source.toJson.nesting ≤ 67 →
        (source.lowerEnums options).value.toJson.nesting ≤ nestingLimit) := by
  refine ⟨read_text_pretty _, fun roomy => ?_⟩
  have bound := nesting_lower_enums options source succeeds
  rw [nestingLimit]
  omega

end CompilationUnit

namespace Sample

theorem palette_is_read_back :
    ((palette 3).lowerEnums {}).error = none ∧ (palette 3).toJson.nesting = 23 ∧
      readText CompilationUnit.read ((palette 3).lowerEnums {}).value.toJson.pretty =
        .ok ((palette 3).lowerEnums {}).value := by
  have succeeds : ((palette 3).lowerEnums {}).error = none := rfl
  have nests : (palette 3).toJson.nesting = 23 := by decide +kernel
  obtain ⟨reads, fits⟩ := (palette 3).lowered_text_is_read_back_iff_shallow {} succeeds
  refine ⟨succeeds, nests, ?_⟩
  rw [reads, if_pos (fits (by rw [nests]; decide))]

/-- A sum of so many terms, each inside the one before. -/
def sum : Nat → Expression
  | 0 => .null
  | terms + 1 => .binary .plus (sum terms) .null

/-- `enum Color { RED(sum) }`, as deep as can be read. -/
def steep : CompilationUnit :=
  .ofTypes
    [.ofEnum
      { binding := color
        constants := [⟨.field ⟨0⟩ "RED" color color, .constructorOf color [], [sum 60]⟩]
        members := []
        initializers := [] }]
    1

/-- The argument moves four levels down and out of reach. -/
theorem steep_is_not_read_back :
    readText CompilationUnit.read steep.toJson.pretty = .ok steep ∧
      (steep.lowerEnums {}).error = none ∧
      readText CompilationUnit.read (steep.lowerEnums {}).value.toJson.pretty =
        .error .malformed := by
  have before : steep.toJson.nesting = 127 := by decide +kernel
  have after : (steep.lowerEnums {}).value.toJson.nesting = 131 := by decide +kernel
  refine ⟨?_, rfl, ?_⟩
  · rw [CompilationUnit.read_text_pretty, before]
    rfl
  · rw [CompilationUnit.read_text_pretty, after]
    rfl

end Sample

end EnumLowering
