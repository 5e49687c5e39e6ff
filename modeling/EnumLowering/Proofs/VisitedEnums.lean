import EnumLowering.Proofs.Reach
import EnumLowering.Proofs.Restoration
import EnumLowering.Proofs.WorkDone

/-!
Every visited enum is lowered once, and no other enum is touched. The enums of a unit
are listed completely, those in ordinary methods and in initializers included, and
each is marked as visited or not. The marked ones are the visits; the others come out
of a run as they went in.
-/

namespace EnumLowering

/-- An enum declared somewhere in a unit. -/
structure DeclaredEnum where
  isVisited : Bool
  declaration : EnumDeclaration

namespace DeclaredEnum

def visited (declared : List DeclaredEnum) : List EnumDeclaration :=
  (declared.filter DeclaredEnum.isVisited).map DeclaredEnum.declaration

def passedOver (declared : List DeclaredEnum) : List EnumDeclaration :=
  (declared.filter fun entry => !entry.isVisited).map DeclaredEnum.declaration

@[simp] theorem visited_nil : visited [] = [] := rfl

@[simp] theorem visited_cons (isVisited : Bool) (declaration : EnumDeclaration)
    (declared : List DeclaredEnum) :
    visited (⟨isVisited, declaration⟩ :: declared) =
      (if isVisited then [declaration] else []) ++ visited declared := by
  cases isVisited <;> rfl

@[simp] theorem visited_append (left right : List DeclaredEnum) :
    visited (left ++ right) = visited left ++ visited right := by
  simp only [visited, List.filter_append, List.map_append]

@[simp] theorem passed_over_append (left right : List DeclaredEnum) :
    passedOver (left ++ right) = passedOver left ++ passedOver right := by
  simp only [passedOver, List.filter_append, List.map_append]

@[simp] theorem passed_over_cons_visited (declaration : EnumDeclaration)
    (declared : List DeclaredEnum) :
    passedOver (⟨true, declaration⟩ :: declared) = passedOver declared := rfl

end DeclaredEnum

open DeclaredEnum (visited passedOver)

-- The mark holds for a part as long as each step down to it is one that lowering takes: bodies of
-- enum constructors are entered, other bodies and initializers are not.
mutual

def Statement.declaredEnums (reached : Bool) : Statement → List DeclaredEnum
  | .block statements => Statement.allDeclaredEnums reached statements
  | .conditional _ thenBranch none => thenBranch.declaredEnums reached
  | .conditional _ thenBranch (some elseBranch) =>
      thenBranch.declaredEnums reached ++ elseBranch.declaredEnums reached
  | .localType declaration => declaration.declaredEnums reached
  | .expression _ | .result _ | .localVariable _ _ | .thisCall _ | .superCall _ => []

def Statement.allDeclaredEnums (reached : Bool) : List Statement → List DeclaredEnum
  | [] => []
  | statement :: statements =>
      statement.declaredEnums reached ++ Statement.allDeclaredEnums reached statements

def MethodDeclaration.declaredEnums (reached : Bool) : MethodDeclaration → List DeclaredEnum
  | ⟨_, _, _, none⟩ => []
  | ⟨binding, _, _, some statements⟩ =>
      Statement.allDeclaredEnums (reached && binding.isEnumConstructor) statements

def Member.declaredEnums (reached : Bool) : Member → List DeclaredEnum
  | .method declaration => declaration.declaredEnums reached
  | .type declaration => declaration.declaredEnums reached
  | .field _ | .native _ => []

def Member.allDeclaredEnums (reached : Bool) : List Member → List DeclaredEnum
  | [] => []
  | member :: members => member.declaredEnums reached ++ Member.allDeclaredEnums reached members

def TypeDeclaration.declaredEnums (reached : Bool) : TypeDeclaration → List DeclaredEnum
  | .ofClass ⟨_, members, initializers⟩ =>
      Member.allDeclaredEnums reached members ++ Statement.allDeclaredEnums false initializers
  | .ofEnum ⟨binding, constants, members, initializers⟩ =>
      ⟨reached, binding, constants, members, initializers⟩ ::
        (Member.allDeclaredEnums reached members ++
          Statement.allDeclaredEnums false initializers)

end

/-- Every enum that is declared in the unit, at whatever depth. -/
def CompilationUnit.declaredEnums (compilationUnit : CompilationUnit) : List DeclaredEnum :=
  compilationUnit.types.flatMap (TypeDeclaration.declaredEnums true)

/-- The enums among some visits, if the visits take place at all. -/
def Visit.enumsIf (reached : Bool) (visits : List Visit) : List EnumDeclaration :=
  if reached then (enums visits).map Located.item else []

namespace Visit

@[simp] theorem enums_if_nil (reached : Bool) : enumsIf reached [] = [] := by
  cases reached <;> rfl

@[simp] theorem enums_if_false (visits : List Visit) : enumsIf false visits = [] := rfl

@[simp] theorem enums_if_append (reached : Bool) (left right : List Visit) :
    enumsIf reached (left ++ right) = enumsIf reached left ++ enumsIf reached right := by
  cases reached with
  | false => rfl
  | true => simp only [enumsIf, if_true, enums_append, List.map_append]

end Visit

mutual

theorem Statement.visited_declared_enums (reached : Bool) (place : Place) (statement : Statement) :
    visited (statement.declaredEnums reached) = Visit.enumsIf reached (statement.visits place) := by
  cases statement with
  | block statements =>
      rw [Statement.declaredEnums, Statement.visits]
      exact Statement.visited_all_declared_enums reached place 0 statements
  | conditional condition thenBranch elseBranch =>
      have inThen := thenBranch.visited_declared_enums reached (.thenBranch :: place)
      cases elseBranch with
      | none =>
          rw [Statement.declaredEnums, Statement.visits]
          exact inThen
      | some elseBranch =>
          have inElse := elseBranch.visited_declared_enums reached (.elseBranch :: place)
          rw [Statement.declaredEnums, Statement.visits, DeclaredEnum.visited_append,
            Visit.enums_if_append, inThen, inElse]
  | localType declaration =>
      rw [Statement.declaredEnums, Statement.visits]
      exact declaration.visited_declared_enums reached place
  | expression value => exact (Visit.enums_if_nil reached).symm
  | result value => exact (Visit.enums_if_nil reached).symm
  | localVariable binding initializer => exact (Visit.enums_if_nil reached).symm
  | thisCall call => exact (Visit.enums_if_nil reached).symm
  | superCall call => exact (Visit.enums_if_nil reached).symm

theorem Statement.visited_all_declared_enums (reached : Bool) (place : Place) (index : Nat)
    (statements : List Statement) :
    visited (Statement.allDeclaredEnums reached statements) =
      Visit.enumsIf reached (Statement.visitsFrom place index statements) := by
  cases statements with
  | nil => exact (Visit.enums_if_nil reached).symm
  | cons statement statements =>
      rw [Statement.allDeclaredEnums, Statement.visitsFrom, DeclaredEnum.visited_append,
        Visit.enums_if_append, statement.visited_declared_enums reached (.statement index :: place),
        Statement.visited_all_declared_enums reached place (index + 1) statements]

theorem Member.visited_declared_enums (reached : Bool) (place : Place) (member : Member) :
    visited (member.declaredEnums reached) = Visit.enumsIf reached (member.visits place) := by
  cases member with
  | method method =>
      obtain ⟨binding, modifiers, parameters, body⟩ := method
      rw [Member.declaredEnums, Member.visits]
      cases body with
      | none =>
          rw [MethodDeclaration.declaredEnums, MethodDeclaration.visits, Statement.visitsBody]
          split
          · cases reached <;> rfl
          · exact (Visit.enums_if_nil reached).symm
      | some statements =>
          have inBody := Statement.visited_all_declared_enums
            (reached && binding.isEnumConstructor) place 0 statements
          rw [MethodDeclaration.declaredEnums, inBody, MethodDeclaration.visits,
            Statement.visitsBody]
          by_cases constructor : binding.isEnumConstructor = true
          · rw [constructor, Bool.and_true, if_pos rfl]
            cases reached <;> rfl
          · rw [Bool.not_eq_true] at constructor
            rw [constructor, Bool.and_false, if_neg Bool.false_ne_true, Visit.enums_if_nil,
              Visit.enums_if_false]
  | type declaration =>
      rw [Member.declaredEnums, Member.visits]
      exact declaration.visited_declared_enums reached place
  | field declaration => exact (Visit.enums_if_nil reached).symm
  | native block => exact (Visit.enums_if_nil reached).symm

theorem Member.visited_all_declared_enums (reached : Bool) (place : Place) (index : Nat)
    (members : List Member) :
    visited (Member.allDeclaredEnums reached members) =
      Visit.enumsIf reached (Member.visitsFrom place index members) := by
  cases members with
  | nil => exact (Visit.enums_if_nil reached).symm
  | cons member members =>
      rw [Member.allDeclaredEnums, Member.visitsFrom, DeclaredEnum.visited_append,
        Visit.enums_if_append, member.visited_declared_enums reached (.member index :: place),
        Member.visited_all_declared_enums reached place (index + 1) members]

theorem TypeDeclaration.visited_declared_enums (reached : Bool) (place : Place)
    (declaration : TypeDeclaration) :
    visited (declaration.declaredEnums reached) =
      Visit.enumsIf reached (declaration.visits place) := by
  rcases declaration with ⟨⟨binding, members, initializers⟩⟩ |
    ⟨⟨binding, constants, members, initializers⟩⟩
  all_goals
    have inMembers := Member.visited_all_declared_enums reached place 0 members
    have inInitializers := Statement.visited_all_declared_enums false place 0 initializers
    rw [Visit.enums_if_false] at inInitializers
    rw [TypeDeclaration.declaredEnums, TypeDeclaration.visits]
  · rw [DeclaredEnum.visited_append, inMembers, inInitializers, List.append_nil]
    rfl
  · rw [DeclaredEnum.visited_cons, DeclaredEnum.visited_append, inMembers, inInitializers,
      List.append_nil]
    cases reached <;> rfl

end

theorem TypeDeclaration.visited_all_declared_enums (index : Nat)
    (declarations : List TypeDeclaration) :
    visited (declarations.flatMap (TypeDeclaration.declaredEnums true)) =
      (Visit.enums (TypeDeclaration.visitsFrom index declarations)).map Located.item := by
  induction declarations generalizing index with
  | nil => rfl
  | cons declaration declarations induction =>
      have inHead := declaration.visited_declared_enums true [.type index]
      rw [List.flatMap_cons, DeclaredEnum.visited_append, TypeDeclaration.visitsFrom,
        Visit.enums_append, List.map_append, induction (index + 1), inHead]
      rfl

/-! What is not marked stays as it is. -/

theorem Statement.all_declared_enums_append (reached : Bool) (left right : List Statement) :
    Statement.allDeclaredEnums reached (left ++ right) =
      Statement.allDeclaredEnums reached left ++ Statement.allDeclaredEnums reached right := by
  induction left with
  | nil => rfl
  | cons statement left induction =>
      simp only [List.cons_append, Statement.allDeclaredEnums, induction, List.append_assoc]

theorem Member.all_declared_enums_append_native (reached : Bool) (members : List Member)
    (inner outer : NativeBlock) :
    Member.allDeclaredEnums reached (members ++ [.native inner, .native outer]) =
      Member.allDeclaredEnums reached members := by
  induction members with
  | nil => rfl
  | cons member members induction =>
      simp only [List.cons_append, Member.allDeclaredEnums, induction]

/-- An assignment declares nothing. -/
theorem all_declared_enums_assignments (reached : Bool) (members : List Member)
    (constants : List EnumConstant) :
    Statement.allDeclaredEnums reached
      (constants.mapIdx (EnumConstant.assignment members)) = [] := by
  have nothing (entries : List (EnumConstant × Nat)) : Statement.allDeclaredEnums reached
      (entries.map fun entry => entry.1.assignment members entry.2) = [] := by
    induction entries with
    | nil => rfl
    | cons entry entries induction => exact induction
  rw [List.mapIdx_eq_zipIdx_map]
  exact nothing constants.zipIdx

mutual

theorem passed_over_lowered_statement (options : Options) (vars : ImplicitVars) (first : Nat)
    (statement : Statement) :
    passedOver ((loweredStatement options vars first statement).declaredEnums true) =
      passedOver (statement.declaredEnums true) := by
  cases statement with
  | block statements =>
      rw [loweredStatement, Statement.declaredEnums, Statement.declaredEnums,
        passed_over_lowered_statements options vars first statements]
  | conditional condition thenBranch elseBranch =>
      have inThen := passed_over_lowered_statement options vars first thenBranch
      cases elseBranch with
      | none => rw [loweredStatement, Statement.declaredEnums, Statement.declaredEnums, inThen]
      | some elseBranch =>
          have inElse := passed_over_lowered_statement options vars
            (first + 2 * thenBranch.constructorCount) elseBranch
          rw [loweredStatement, Statement.declaredEnums, Statement.declaredEnums,
            DeclaredEnum.passed_over_append, DeclaredEnum.passed_over_append, inThen, inElse]
  | localType declaration =>
      rw [loweredStatement, Statement.declaredEnums, Statement.declaredEnums,
        passed_over_lowered_type options first declaration]
  | expression value => rfl
  | result value => rfl
  | localVariable binding initializer => rfl
  | thisCall call => rfl
  | superCall call => rfl

theorem passed_over_lowered_statements (options : Options) (vars : ImplicitVars) (first : Nat)
    (statements : List Statement) :
    passedOver (Statement.allDeclaredEnums true
        (loweredStatements options vars first statements)) =
      passedOver (Statement.allDeclaredEnums true statements) := by
  cases statements with
  | nil => rfl
  | cons statement statements =>
      rw [loweredStatements, Statement.allDeclaredEnums, Statement.allDeclaredEnums,
        DeclaredEnum.passed_over_append, DeclaredEnum.passed_over_append,
        passed_over_lowered_statement options vars first statement,
        passed_over_lowered_statements options vars (first + 2 * statement.constructorCount)
          statements]

theorem passed_over_lowered_constructor (options : Options) (first : Nat)
    (method : MethodDeclaration) (constructor : method.binding.isEnumConstructor = true) :
    passedOver ((loweredConstructor options first method).declaredEnums true) =
      passedOver (method.declaredEnums true) := by
  obtain ⟨binding, modifiers, parameters, body⟩ := method
  cases body with
  | none => rfl
  | some statements =>
      have stays : binding.lowered.isEnumConstructor = true := constructor
      change binding.isEnumConstructor = true at constructor
      rw [loweredConstructor, loweredBody, MethodDeclaration.declaredEnums,
        MethodDeclaration.declaredEnums, stays, constructor, Bool.and_self]
      exact passed_over_lowered_statements options _ (first + 2) statements

theorem passed_over_lowered_member (options : Options) (first : Nat) (member : Member) :
    passedOver ((loweredMember options first member).declaredEnums true) =
      passedOver (member.declaredEnums true) := by
  cases member with
  | method method =>
      by_cases constructor : method.binding.isEnumConstructor = true
      · have inMethod := passed_over_lowered_constructor options first method constructor
        rw [loweredMember, if_pos constructor, Member.declaredEnums, Member.declaredEnums, inMethod]
      · rw [loweredMember, if_neg constructor]
  | type declaration =>
      rw [loweredMember, Member.declaredEnums, Member.declaredEnums,
        passed_over_lowered_type options first declaration]
  | field declaration => rfl
  | native block => rfl

theorem passed_over_lowered_members (options : Options) (first : Nat) (members : List Member) :
    passedOver (Member.allDeclaredEnums true (loweredMembers options first members)) =
      passedOver (Member.allDeclaredEnums true members) := by
  cases members with
  | nil => rfl
  | cons member members =>
      rw [loweredMembers, Member.allDeclaredEnums, Member.allDeclaredEnums,
        DeclaredEnum.passed_over_append, DeclaredEnum.passed_over_append,
        passed_over_lowered_member options first member,
        passed_over_lowered_members options (first + 2 * member.constructorCount) members]

theorem passed_over_lowered_type (options : Options) (first : Nat)
    (declaration : TypeDeclaration) :
    passedOver ((loweredType options first declaration).declaredEnums true) =
      passedOver (declaration.declaredEnums true) := by
  rcases declaration with ⟨⟨binding, members, initializers⟩⟩ |
    ⟨⟨binding, constants, members, initializers⟩⟩
  all_goals have inMembers := passed_over_lowered_members options first members
  · rw [loweredType, TypeDeclaration.declaredEnums, TypeDeclaration.declaredEnums,
      DeclaredEnum.passed_over_append, DeclaredEnum.passed_over_append, inMembers]
  · -- neither the assignments nor the support blocks declare anything
    rw [loweredType, EnumDeclaration.finish, EnumDeclaration.lowerConstants,
      TypeDeclaration.declaredEnums, TypeDeclaration.declaredEnums,
      Member.all_declared_enums_append_native, Statement.all_declared_enums_append,
      all_declared_enums_assignments, List.nil_append, DeclaredEnum.passed_over_cons_visited,
      DeclaredEnum.passed_over_cons_visited, DeclaredEnum.passed_over_append,
      DeclaredEnum.passed_over_append, inMembers]

end

theorem passed_over_lowered_types (options : Options) (first : Nat)
    (declarations : List TypeDeclaration) :
    passedOver ((loweredTypes options first declarations).flatMap
        (TypeDeclaration.declaredEnums true)) =
      passedOver (declarations.flatMap (TypeDeclaration.declaredEnums true)) := by
  induction declarations generalizing first with
  | nil => rfl
  | cons declaration declarations induction =>
      rw [loweredTypes, List.flatMap_cons, List.flatMap_cons, DeclaredEnum.passed_over_append,
        DeclaredEnum.passed_over_append, passed_over_lowered_type,
        induction (first + 2 * declaration.constructorCount)]

/-! Visited enums keep their turn and their place. -/

namespace Visit

theorem mem_enums (visits : List Visit) (place : Place) (declaration : EnumDeclaration) :
    ⟨place, declaration⟩ ∈ enums visits ↔ ⟨place, .ofEnum declaration⟩ ∈ types visits := by
  rw [mem_types, enums, List.mem_filterMap]
  constructor
  · rintro ⟨visit, visited, same⟩
    rcases visit with ⟨there, source | source⟩ | method
    · cases same
    · cases same
      exact visited
    · cases same
  · intro visited
    exact ⟨_, visited, rfl⟩

theorem places_enums_sublist (visits : List Visit) :
    ((enums visits).map Located.place).Sublist (visits.map Visit.place) := by
  induction visits with
  | nil => exact List.Sublist.slnil
  | cons visit visits induction =>
      rcases visit with ⟨place, declaration | declaration⟩ | method
      · exact induction.cons place
      · exact induction.cons_cons place
      · exact induction.cons method.place

theorem enums_lowered_cons_class (options : Options) (first : Nat) (place : Place)
    (declaration : ClassDeclaration) (visits : List Visit) :
    enums (lowered options first (.type ⟨place, .ofClass declaration⟩ :: visits)) =
      enums (lowered options first visits) := by
  obtain ⟨binding, members, initializers⟩ := declaration
  rfl

theorem enums_lowered_cons_enum (options : Options) (first : Nat) (place : Place)
    (declaration : EnumDeclaration) (visits : List Visit) :
    enums (lowered options first (.type ⟨place, .ofEnum declaration⟩ :: visits)) =
      ⟨place, loweredEnum options first declaration⟩ :: enums (lowered options first visits) := by
  rw [lowered, lowered_type_of_enum, enums_cons_enum]

theorem enums_lowered_getElem? (options : Options) (first : Nat) (visits : List Visit)
    (index : Nat) (declaration : Located EnumDeclaration)
    (found : (enums visits)[index]? = some declaration) :
    ∃ start, (enums (lowered options first visits))[index]? =
      some ⟨declaration.place, loweredEnum options start declaration.item⟩ := by
  induction visits generalizing first index with
  | nil => cases found
  | cons visit visits induction =>
      rcases visit with ⟨place, source | source⟩ | ⟨place, method⟩
      · rw [enums_lowered_cons_class]
        exact induction first index found
      · rw [enums_lowered_cons_enum]
        cases index with
        | zero =>
            cases found
            exact ⟨first, rfl⟩
        | succ index => exact induction first index found
      · exact induction (first + 2) index found

theorem length_enums_lowered (options : Options) (first : Nat) (visits : List Visit) :
    (enums (lowered options first visits)).length = (enums visits).length := by
  induction visits generalizing first with
  | nil => rfl
  | cons visit visits induction =>
      rcases visit with ⟨place, source | source⟩ | ⟨place, method⟩
      · rw [enums_lowered_cons_class, enums_cons_class, induction first]
      · rw [enums_lowered_cons_enum, enums_cons_enum, List.length_cons, List.length_cons,
          induction first]
      · exact induction (first + 2)

end Visit

/-- The support blocks hold no constructor. -/
theorem resolve_constructor_append_native (members : List Member) (inner outer : NativeBlock)
    (declared : MethodBinding) :
    resolveConstructor (members ++ [.native inner, .native outer]) declared =
      resolveConstructor members declared := by
  have nothing : [Member.native inner, Member.native outer].findSome?
      (Member.constructorBinding? declared.widen.declaringType declared.widen.parameterTypes) =
        none := rfl
  rw [resolveConstructor, resolveConstructor, List.findSome?_append, nothing, Option.or_none]

/-- The enum that a declaration becomes. Its initializer makes the constants in their
order and then goes on as before; its members are followed by an inner and an outer
support block. A constant is made with the constructor that the finished enum declares
for it. -/
structure EnumDeclaration.LoweredTo (options : Options) (before after : EnumDeclaration) :
    Prop where
  binding : after.binding = before.binding
  constants : after.constants = before.constants
  initializers : after.initializers =
    before.constants.mapIdx (fun ordinal constant =>
      .expression (.assignment (.name constant.binding) (.creation
        { method := resolveConstructor after.members constant.constructor
          arguments :=
            constant.arguments ++ [.string constant.name, .number (Int64.ofNat ordinal)]
          isRetained := true }))) ++ before.initializers
  members : ∃ (members : List Member) (inner outer : NativeBlock),
    after.members = members ++ [.native inner, .native outer] ∧
      members.length = before.members.length ∧
      (∀ (position : Nat) (member : Member), before.members[position]? = some member →
        member.isOrdinary → members[position]? = some member) ∧
      Native.enumSupport before.binding.outputName before.constants.length options =
        ⟨inner, outer⟩ ∧
      inner.placement = .inner ∧ outer.placement = .outer

theorem lowered_to_lowered_enum (options : Options) (first : Nat) (declaration : EnumDeclaration) :
    declaration.LoweredTo options (loweredEnum options first declaration) := by
  have members : (loweredEnum options first declaration).members =
      loweredMembers options first declaration.members ++
        [.native (Native.enumSupport declaration.binding.outputName
            declaration.constants.length options).inner,
          .native (Native.enumSupport declaration.binding.outputName
            declaration.constants.length options).outer] := rfl
  constructor
  case binding => rfl
  case constants => rfl
  case initializers =>
    rw [initializers_lowered_enum, members]
    simp only [resolve_constructor_append_native]
    rfl
  case members =>
    refine ⟨_, _, _, members, length_lowered_members options first _, ?_, rfl, rfl, rfl⟩
    intro position member found ordinary
    obtain ⟨start, lowered⟩ :=
      lowered_members_getElem? options first declaration.members position member found
    rw [lowered, lowered_member_of_is_ordinary options start member ordinary]

namespace CompilationUnit

theorem mem_visited_enums_iff (compilationUnit : CompilationUnit) (place : Place)
    (declaration : EnumDeclaration) :
    ⟨place, declaration⟩ ∈ compilationUnit.visitedEnums ↔
      compilationUnit.Reaches place (.ofEnum declaration) := by
  rw [visitedEnums, Visit.mem_enums]
  exact compilationUnit.mem_visited_types_iff place _

theorem nodup_places_visited_enums (compilationUnit : CompilationUnit) :
    (compilationUnit.visitedEnums.map Located.place).Nodup :=
  (Visit.places_enums_sublist compilationUnit.visits).nodup
    (TypeDeclaration.nodup_places_visits_from 0 compilationUnit.types)

theorem visited_enums_lower_enums_getElem? (options : Options) (source : CompilationUnit)
    (succeeds : (source.lowerEnums options).error = none) (index : Nat)
    (declaration : Located EnumDeclaration)
    (visited : source.visitedEnums[index]? = some declaration) :
    ∃ start, (source.lowerEnums options).value.visitedEnums[index]? =
      some ⟨declaration.place, loweredEnum options start declaration.item⟩ := by
  rw [visitedEnums, visits_lower_enums options source succeeds]
  exact Visit.enums_lowered_getElem? options _ source.visits index declaration visited

/-- The visited enums are the reachable ones, each of them once, and they are all that
the marks say. Each keeps its turn and its place and is lowered there. Every other enum
of the unit is left as it was. The counts of the run are those of the source. -/
theorem visited_enums_are_lowered_once (options : Options) (source : CompilationUnit)
    (succeeds : (source.lowerEnums options).error = none) :
    (∀ place declaration, ⟨place, declaration⟩ ∈ source.visitedEnums ↔
      source.Reaches place (.ofEnum declaration)) ∧
    (source.visitedEnums.map Located.place).Nodup ∧
    visited source.declaredEnums = source.visitedEnums.map Located.item ∧
    (source.lowerEnums options).value.visitedEnums.length = source.visitedEnums.length ∧
    (∀ (index : Nat) (place : Place) (before : EnumDeclaration),
      source.visitedEnums[index]? = some ⟨place, before⟩ →
        ∃ after, (source.lowerEnums options).value.visitedEnums[index]? = some ⟨place, after⟩ ∧
          before.LoweredTo options after) ∧
    passedOver (source.lowerEnums options).value.declaredEnums =
      passedOver source.declaredEnums ∧
    (source.lowerEnums options).work.stats =
      { enums := source.visitedEnums.length
        constructors := source.visitedConstructors.length
        forwardingCalls :=
          (source.visitedConstructors.map fun method =>
            (method.item.calls method.place).length).sum
        constants :=
          (source.visitedEnums.map fun declaration => declaration.item.constants.length).sum } := by
  refine ⟨source.mem_visited_enums_iff, source.nodup_places_visited_enums,
    TypeDeclaration.visited_all_declared_enums 0 source.types, ?_, ?_, ?_,
    stats_lower_enums options source succeeds⟩
  · rw [visitedEnums, visits_lower_enums options source succeeds, Visit.length_enums_lowered]
    rfl
  · intro index place before found
    obtain ⟨start, there⟩ :=
      visited_enums_lower_enums_getElem? options source succeeds index _ found
    exact ⟨_, there, lowered_to_lowered_enum options start before⟩
  · rw [declaredEnums, types_lower_enums options source succeeds, passed_over_lowered_types]
    rfl

end CompilationUnit

namespace Sample

/-- `class Shop { void open() { enum Shade } enum Color }`, with another `Shade` in the
constructor of `Color`. -/
def shop : CompilationUnit :=
  let binding := TypeBinding.topLevel .classType none "Shop"
  .ofTypes
    [.ofClass
      { binding
        members :=
          [.method (.ofBinding (.methodOf binding "open" [] none) [] [.localType shadeEnum]),
            .type (.ofEnum colorEnum)]
        initializers := [] }] 3

/-- `Shade` is lowered in the constructor but not in the method. -/
theorem shop_lowers_two_of_three :
    (shop.lowerEnums {}).error = none ∧
      shop.declaredEnums.map DeclaredEnum.isVisited = [false, true, true] ∧
      passedOver (shop.lowerEnums {}).value.declaredEnums = passedOver shop.declaredEnums ∧
      (shop.lowerEnums {}).work.stats =
        { enums := 2, constructors := 3, forwardingCalls := 3, constants := 2 } ∧
      ∃ after, (shop.lowerEnums {}).value.visitedEnums[0]? =
          some ⟨[.member 1, .type 0], after⟩ ∧ colorEnum.LoweredTo {} after := by
  have succeeds : (shop.lowerEnums {}).error = none := rfl
  obtain ⟨_, _, _, _, lowered, kept, counted⟩ :=
    shop.visited_enums_are_lowered_once {} succeeds
  exact ⟨succeeds, rfl, kept, counted, lowered 0 [.member 1, .type 0] colorEnum rfl⟩

end Sample

end EnumLowering
