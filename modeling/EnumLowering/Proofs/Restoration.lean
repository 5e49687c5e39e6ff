import EnumLowering.Proofs.Overloads

/-!
Nothing is lost in lowering. An edit says what happens at each node that lowering
reaches, and one traversal carries it out; the traversal itself changes nothing.
Undoing is such an edit. It reads the lowered tree alone: it takes away the last two
of everything that lowering extends, and as many initializer statements as there are
constants. What it cannot give back are the visibility and the synthetic flag of the
visited constructors, which lowering overwrites, and the first unused identity.
-/

namespace EnumLowering

/-- What is done to the parts of visited enum constructors and visited enums. -/
structure Edit where
  onBinding : MethodBinding → MethodBinding := id
  onModifiers : Modifiers → Modifiers := id
  onParameters : List VariableBinding → List VariableBinding := id
  onCall : ConstructorCall → ConstructorCall := id
  onMembers : List Member → List Member := id
  onInitializers : List EnumConstant → List Statement → List Statement := fun _ => id

namespace Edit

mutual

def statement (edit : Edit) : Statement → Statement
  | .thisCall call => .thisCall (edit.onCall call)
  | .superCall call => .superCall (edit.onCall call)
  | .block statements => .block (edit.statements statements)
  | .conditional condition thenBranch none =>
      .conditional condition (edit.statement thenBranch) none
  | .conditional condition thenBranch (some elseBranch) =>
      .conditional condition (edit.statement thenBranch) (some (edit.statement elseBranch))
  | .localType declaration => .localType (edit.type declaration)
  | .expression value => .expression value
  | .result value => .result value
  | .localVariable binding initializer => .localVariable binding initializer

def statements (edit : Edit) : List Statement → List Statement
  | [] => []
  | statement :: statements => edit.statement statement :: edit.statements statements

def body (edit : Edit) : Option (List Statement) → Option (List Statement)
  | none => none
  | some statements => some (edit.statements statements)

def constructor (edit : Edit) : MethodDeclaration → MethodDeclaration
  | ⟨binding, modifiers, parameters, body⟩ =>
      { binding := edit.onBinding binding
        modifiers := edit.onModifiers modifiers
        parameters := edit.onParameters parameters
        body := edit.body body }

def member (edit : Edit) : Member → Member
  | .method method =>
      if method.binding.isEnumConstructor then .method (edit.constructor method)
      else .method method
  | .type declaration => .type (edit.type declaration)
  | .field declaration => .field declaration
  | .native block => .native block

def members (edit : Edit) : List Member → List Member
  | [] => []
  | member :: members => edit.member member :: edit.members members

def type (edit : Edit) : TypeDeclaration → TypeDeclaration
  | .ofClass ⟨binding, members, initializers⟩ =>
      .ofClass { binding, members := edit.members members, initializers }
  | .ofEnum ⟨binding, constants, members, initializers⟩ =>
      .ofEnum
        { binding
          constants
          members := edit.onMembers (edit.members members)
          initializers := edit.onInitializers constants initializers }

end

def types (edit : Edit) (declarations : List TypeDeclaration) : List TypeDeclaration :=
  declarations.map edit.type

theorem members_append (edit : Edit) (left right : List Member) :
    edit.members (left ++ right) = edit.members left ++ edit.members right := by
  induction left with
  | nil => rfl
  | cons member left induction => simp only [List.cons_append, members, induction]

/-- The edit that does nothing at any node. -/
def nothing : Edit := {}

mutual

theorem statement_nothing (statement : Statement) : nothing.statement statement = statement := by
  cases statement with
  | block statements => simp only [Edit.statement, statements_nothing statements]
  | conditional condition thenBranch elseBranch =>
      have inThen := statement_nothing thenBranch
      cases elseBranch with
      | none => simp only [Edit.statement, inThen]
      | some elseBranch => simp only [Edit.statement, inThen, statement_nothing elseBranch]
  | localType declaration => simp only [Edit.statement, type_nothing declaration]
  | expression value => rfl
  | result value => rfl
  | localVariable binding initializer => rfl
  | thisCall call => rfl
  | superCall call => rfl

theorem statements_nothing (statements : List Statement) :
    nothing.statements statements = statements := by
  cases statements with
  | nil => rfl
  | cons statement statements =>
      simp only [Edit.statements, statement_nothing statement, statements_nothing statements]

theorem constructor_nothing (method : MethodDeclaration) : nothing.constructor method = method := by
  obtain ⟨binding, modifiers, parameters, body⟩ := method
  cases body with
  | none => rfl
  | some statements =>
      simp only [Edit.constructor, Edit.body, statements_nothing statements]
      rfl

theorem member_nothing (member : Member) : nothing.member member = member := by
  cases member with
  | method method => simp only [Edit.member, constructor_nothing method, ite_self]
  | type declaration => simp only [Edit.member, type_nothing declaration]
  | field declaration => rfl
  | native block => rfl

theorem members_nothing (members : List Member) : nothing.members members = members := by
  cases members with
  | nil => rfl
  | cons member members =>
      simp only [Edit.members, member_nothing member, members_nothing members]

theorem type_nothing (declaration : TypeDeclaration) : nothing.type declaration = declaration := by
  rcases declaration with ⟨⟨binding, members, initializers⟩⟩ |
    ⟨⟨binding, constants, members, initializers⟩⟩
  · simp only [Edit.type, members_nothing members]
  · simp only [Edit.type, members_nothing members]
    rfl

end

theorem types_nothing (declarations : List TypeDeclaration) :
    nothing.types declarations = declarations := by
  rw [types, funext type_nothing, List.map_id']

/-- Another choice of flags for each visited constructor, on its declaration and on
its binding. -/
def flags (choose : Modifiers → Modifiers) : Edit where
  onBinding binding := { binding with modifiers := choose binding.modifiers }
  onModifiers := choose

theorem flags_id : flags id = nothing := rfl

end Edit

/-! What lowering puts at the end of a list, the edit takes away again. -/

def withoutLastTwo {α : Type} (items : List α) : List α := items.take (items.length - 2)

theorem without_last_two_append {α : Type} (items : List α) (first second : α) :
    withoutLastTwo (items ++ [first, second]) = items := by
  have before : (items ++ [first, second]).length - 2 = items.length := by simp
  rw [withoutLastTwo, before, List.take_left]

def MethodBinding.narrow (binding : MethodBinding) : MethodBinding :=
  { binding with parameterTypes := withoutLastTwo binding.parameterTypes }

theorem MethodBinding.narrow_widen (binding : MethodBinding) : binding.widen.narrow = binding := by
  rw [narrow, widen, implicitTypes, without_last_two_append]

theorem MethodBinding.narrow_lowered (binding : MethodBinding) :
    binding.lowered.narrow =
      { binding with modifiers := binding.modifiers.makePrivateSynthetic } := by
  rw [narrow, lowered, widen, implicitTypes, without_last_two_append]

def ConstructorCall.takeBack (call : ConstructorCall) : ConstructorCall :=
  { method := call.method.narrow, arguments := withoutLastTwo call.arguments }

theorem ConstructorCall.take_back_hand_on (vars : ImplicitVars) (call : ConstructorCall) :
    (call.handOn vars).takeBack = call := by
  rw [takeBack, handOn, call.method.narrow_widen, ImplicitVars.arguments, without_last_two_append]

/-- Take away what lowering adds. -/
def Edit.undo : Edit where
  onBinding := MethodBinding.narrow
  onParameters := withoutLastTwo
  onCall := ConstructorCall.takeBack
  onMembers := withoutLastTwo
  onInitializers constants statements := statements.drop constants.length

/-- The flags that every lowered constructor has. -/
def Edit.conceal : Edit := .flags Modifiers.makePrivateSynthetic

theorem drop_initializers_lowered_enum (options : Options) (first : Nat)
    (declaration : EnumDeclaration) :
    (loweredEnum options first declaration).initializers.drop declaration.constants.length =
      declaration.initializers := by
  rw [initializers_lowered_enum]
  exact List.drop_left' List.length_mapIdx

mutual

theorem undo_lowered_statement (options : Options) (vars : ImplicitVars) (first : Nat)
    (statement : Statement) :
    Edit.undo.statement (loweredStatement options vars first statement) =
      Edit.conceal.statement statement := by
  cases statement with
  | thisCall call =>
      exact congrArg Statement.thisCall (call.take_back_hand_on vars)
  | superCall call =>
      exact congrArg Statement.superCall (call.take_back_hand_on vars)
  | block statements =>
      simp only [loweredStatement, Edit.statement,
        undo_lowered_statements options vars first statements]
  | conditional condition thenBranch elseBranch =>
      have inThen := undo_lowered_statement options vars first thenBranch
      cases elseBranch with
      | none => simp only [loweredStatement, Edit.statement, inThen]
      | some elseBranch =>
          have inElse := undo_lowered_statement options vars
            (first + 2 * thenBranch.constructorCount) elseBranch
          simp only [loweredStatement, Edit.statement, inThen, inElse]
  | localType declaration =>
      simp only [loweredStatement, Edit.statement, undo_lowered_type options first declaration]
  | expression value => rfl
  | result value => rfl
  | localVariable binding initializer => rfl

theorem undo_lowered_statements (options : Options) (vars : ImplicitVars) (first : Nat)
    (statements : List Statement) :
    Edit.undo.statements (loweredStatements options vars first statements) =
      Edit.conceal.statements statements := by
  cases statements with
  | nil => rfl
  | cons statement statements =>
      simp only [loweredStatements, Edit.statements,
        undo_lowered_statement options vars first statement,
        undo_lowered_statements options vars (first + 2 * statement.constructorCount) statements]

theorem undo_lowered_constructor (options : Options) (first : Nat) (method : MethodDeclaration) :
    Edit.undo.constructor (loweredConstructor options first method) =
      Edit.conceal.constructor method := by
  obtain ⟨binding, modifiers, parameters, body⟩ := method
  have sameBinding := binding.narrow_lowered
  have sameParameters : withoutLastTwo
      (parameters ++ (ImplicitVars.numbered binding first).parameters) = parameters :=
    without_last_two_append parameters _ _
  have sameBody : Edit.undo.body
      (loweredBody options (.numbered binding first) (first + 2) body) =
        Edit.conceal.body body := by
    cases body with
    | none => rfl
    | some statements =>
        simp only [loweredBody, Edit.body,
          undo_lowered_statements options (.numbered binding first) (first + 2) statements]
  simp only [loweredConstructor, Edit.constructor, sameBody]
  simp only [Edit.undo, Edit.conceal, Edit.flags, sameBinding, sameParameters, id_eq]

theorem undo_lowered_member (options : Options) (first : Nat) (member : Member) :
    Edit.undo.member (loweredMember options first member) = Edit.conceal.member member := by
  cases member with
  | method method =>
      have sameMethod := undo_lowered_constructor options first method
      by_cases constructor : method.binding.isEnumConstructor
      · have stays : (loweredConstructor options first method).binding.isEnumConstructor := by
          rw [binding_lowered_constructor]
          exact constructor
        simp only [loweredMember, Edit.member, if_pos constructor, if_pos stays, sameMethod]
      · simp only [loweredMember, Edit.member, if_neg constructor]
  | type declaration =>
      simp only [loweredMember, Edit.member, undo_lowered_type options first declaration]
  | field declaration => rfl
  | native block => rfl

theorem undo_lowered_members (options : Options) (first : Nat) (members : List Member) :
    Edit.undo.members (loweredMembers options first members) = Edit.conceal.members members := by
  cases members with
  | nil => rfl
  | cons member members =>
      simp only [loweredMembers, Edit.members, undo_lowered_member options first member,
        undo_lowered_members options (first + 2 * member.constructorCount) members]

theorem undo_lowered_type (options : Options) (first : Nat) (declaration : TypeDeclaration) :
    Edit.undo.type (loweredType options first declaration) = Edit.conceal.type declaration := by
  rcases declaration with ⟨⟨binding, members, initializers⟩⟩ |
    ⟨⟨binding, constants, members, initializers⟩⟩
  · simp only [loweredType, Edit.type, undo_lowered_members options first members]
  · let source : EnumDeclaration := ⟨binding, constants, members, initializers⟩
    -- the support blocks are the last two members, and no edit looks into them
    have sameMembers :
        withoutLastTwo (Edit.undo.members (loweredEnum options first source).members) =
          Edit.conceal.members members := by
      obtain ⟨inner, outer, appended⟩ := members_lowered_enum options first source
      rw [appended, Edit.members_append, undo_lowered_members options first members]
      exact without_last_two_append (Edit.conceal.members members) _ _
    have sameInitializers := drop_initializers_lowered_enum options first source
    have undone : Edit.undo.type (loweredType options first (.ofEnum source)) =
        .ofEnum
          { source with
            members := withoutLastTwo
              (Edit.undo.members (loweredEnum options first source).members)
            initializers :=
              (loweredEnum options first source).initializers.drop constants.length } := rfl
    rw [undone, sameMembers, sameInitializers]
    rfl

end

theorem undo_lowered_types (options : Options) (first : Nat)
    (declarations : List TypeDeclaration) :
    Edit.undo.types (loweredTypes options first declarations) =
      Edit.conceal.types declarations := by
  induction declarations generalizing first with
  | nil => rfl
  | cons declaration declarations induction =>
      have tail := induction (first + 2 * declaration.constructorCount)
      simp only [Edit.types] at tail ⊢
      rw [loweredTypes, List.map_cons, List.map_cons, undo_lowered_type, tail]

/-- Neither a type nor an enum constructor. -/
def Member.isOrdinary : Member → Bool
  | .method declaration => !declaration.binding.isEnumConstructor
  | .type _ => false
  | .field _ | .native _ => true

theorem lowered_member_of_is_ordinary (options : Options) (first : Nat) (member : Member)
    (ordinary : member.isOrdinary) : loweredMember options first member = member := by
  cases member with
  | method method =>
      have noConstructor : ¬ method.binding.isEnumConstructor := by
        simpa [Member.isOrdinary] using ordinary
      rw [loweredMember, if_neg noConstructor]
  | type declaration => cases ordinary
  | field declaration => rfl
  | native block => rfl

theorem Visit.length_types_lowered (options : Options) (first : Nat) (visits : List Visit) :
    (types (lowered options first visits)).length = (types visits).length := by
  induction visits generalizing first with
  | nil => rfl
  | cons visit visits induction =>
      rcases visit with ⟨place, declaration⟩ | ⟨place, method⟩
      · exact congrArg (· + 1) (induction first)
      · exact induction (first + 2)

/-- What a lowered type has in common with its source. The initializer of a class is
kept; that of an enum stands behind one new statement for each constant. -/
structure TypeDeclaration.Keeps (before after : TypeDeclaration) : Prop where
  ofClass : ∀ source, before = .ofClass source →
    ∃ members, after = .ofClass { source with members }
  ofEnum : ∀ source, before = .ofEnum source →
    ∃ (members : List Member) (assignments : List Statement),
      assignments.length = source.constants.length ∧
        after = .ofEnum
          { source with members, initializers := assignments ++ source.initializers }
  ordinary : ∀ (position : Nat) (member : Member),
    before.members[position]? = some member → member.isOrdinary →
      after.members[position]? = some member

theorem keeps_lowered_type (options : Options) (first : Nat) (declaration : TypeDeclaration) :
    declaration.Keeps (loweredType options first declaration) := by
  cases declaration with
  | ofClass source =>
      obtain ⟨binding, members, initializers⟩ := source
      constructor
      case ofClass =>
        rintro _ ⟨⟩
        exact ⟨loweredMembers options first members, rfl⟩
      case ofEnum =>
        rintro _ ⟨⟩
      case ordinary =>
        intro position member found ordinary
        obtain ⟨start, lowered⟩ :=
          lowered_members_getElem? options first members position member found
        rw [lowered_member_of_is_ordinary options start member ordinary] at lowered
        exact lowered
  | ofEnum source =>
      rw [lowered_type_of_enum]
      constructor
      case ofClass =>
        rintro _ ⟨⟩
      case ofEnum =>
        rintro _ ⟨⟩
        exact ⟨_, _, List.length_mapIdx, rfl⟩
      case ordinary =>
        intro position member found ordinary
        obtain ⟨start, lowered⟩ :=
          lowered_enum_member_getElem? options first source position member found
        rw [lowered_member_of_is_ordinary options start member ordinary] at lowered
        exact lowered

namespace CompilationUnit

/-- The unit without what lowering adds to it. -/
def undo (compilationUnit : CompilationUnit) : CompilationUnit :=
  { compilationUnit with types := Edit.undo.types compilationUnit.types }

/-- The unit with other flags on its visited constructors. -/
def withFlags (choose : Modifiers → Modifiers) (compilationUnit : CompilationUnit) :
    CompilationUnit :=
  { compilationUnit with types := (Edit.flags choose).types compilationUnit.types }

theorem with_flags_id (compilationUnit : CompilationUnit) :
    compilationUnit.withFlags id = compilationUnit := by
  rw [withFlags, Edit.flags_id, Edit.types_nothing]

theorem undo_lower_enums (options : Options) (source : CompilationUnit)
    (succeeds : (source.lowerEnums options).error = none) :
    (source.lowerEnums options).value.undo =
      { source.withFlags Modifiers.makePrivateSynthetic with
        nextVarId := (source.lowerEnums options).value.nextVarId } := by
  have sameTypes : Edit.undo.types (source.lowerEnums options).value.types =
      Edit.conceal.types source.types := by
    rw [types_lower_enums options source succeeds, undo_lowered_types]
  rw [undo, sameTypes]
  rfl

/-- The undone unit is the source again, but for the first unused identity and the
flags of visited constructors. The traversal that sets the flags changes nothing
else, since with no new flags it changes nothing at all. In particular each visited
type keeps its place, its constants, its own initializer and its ordinary members. -/
theorem lowering_loses_nothing (options : Options) (source : CompilationUnit)
    (succeeds : (source.lowerEnums options).error = none) :
    (source.lowerEnums options).value.undo =
      { source.withFlags Modifiers.makePrivateSynthetic with
        nextVarId := (source.lowerEnums options).value.nextVarId } ∧
    source.withFlags id = source ∧
    (source.lowerEnums options).value.visitedTypes.length = source.visitedTypes.length ∧
    ∀ (index : Nat) (place : Place) (before : TypeDeclaration),
      source.visitedTypes[index]? = some ⟨place, before⟩ →
        ∃ after, (source.lowerEnums options).value.visitedTypes[index]? =
          some ⟨place, after⟩ ∧ before.Keeps after := by
  refine ⟨undo_lower_enums options source succeeds, source.with_flags_id, ?_, ?_⟩
  · rw [visitedTypes, visits_lower_enums options source succeeds, Visit.length_types_lowered]
    rfl
  · intro index place before visited
    obtain ⟨start, loweredVisited⟩ :=
      visited_types_lower_enums_getElem? options source succeeds index _ visited
    exact ⟨_, loweredVisited, keeps_lowered_type options start before⟩

end CompilationUnit

/-- In `palette` the local enum is undone along with the enum around it. -/
theorem Sample.palette_is_restored :
    ((Sample.palette 3).lowerEnums {}).error = none ∧
      ((Sample.palette 3).lowerEnums {}).value.undo =
        { (Sample.palette 3).withFlags Modifiers.makePrivateSynthetic with nextVarId := 9 } ∧
      (Sample.palette 3).visitedTypes.length = 2 := by
  have succeeds : ((Sample.palette 3).lowerEnums {}).error = none := rfl
  obtain ⟨restored, _⟩ := (Sample.palette 3).lowering_loses_nothing {} succeeds
  exact ⟨succeeds, restored, rfl⟩

end EnumLowering
