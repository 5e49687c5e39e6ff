import EnumLowering.Proofs.LoweredForm
import EnumLowering.Proofs.Occurrences

/-!
What lowering adds to the occurrences of a tree whose identities all lie below a
bound. The added ones are those from the bound on: two parameters for each visited
constructor, and two names for each call in its body. They are counted up to their
order, since a local type may stand between two calls of the body around it.
-/

namespace EnumLowering

def Below (bound : Nat) (occurrences : Occurrences) : Prop :=
  ∀ occurrence ∈ occurrences, occurrence.item.number < bound

theorem below_append {bound : Nat} {left right : Occurrences} :
    Below bound (left ++ right) ↔ Below bound left ∧ Below bound right :=
  List.forall_mem_append

theorem below_cons {bound : Nat} {occurrence : Located Occurrence} {occurrences : Occurrences} :
    Below bound (occurrence :: occurrences) ↔
      occurrence.item.number < bound ∧ Below bound occurrences :=
  List.forall_mem_cons

/-- The bound says nothing about places. -/
theorem below_of_items {bound : Nat} {left right : Occurrences}
    (same : left.map Located.item = right.map Located.item) (below : Below bound left) :
    Below bound right := by
  intro occurrence member
  have inItems : occurrence.item ∈ left.map Located.item := by
    rw [same]
    exact List.mem_map_of_mem member
  obtain ⟨moved, movedMember, sameItem⟩ := List.mem_map.mp inItems
  rw [← sameItem]
  exact below moved movedMember

/-- The occurrences with a number from `bound` on. -/
def since (bound : Nat) (occurrences : Occurrences) : Occurrences :=
  occurrences.filter fun occurrence => bound ≤ occurrence.item.number

theorem since_append (bound : Nat) (left right : Occurrences) :
    since bound (left ++ right) = since bound left ++ since bound right :=
  List.filter_append left right

theorem since_eq_nil {bound : Nat} {occurrences : Occurrences} (below : Below bound occurrences) :
    since bound occurrences = [] := by
  rw [since, List.filter_eq_nil_iff]
  intro occurrence member reached
  have lower := below occurrence member
  have upper := of_decide_eq_true reached
  omega

theorem since_eq_self {bound : Nat} {occurrences : Occurrences}
    (reached : ∀ occurrence ∈ occurrences, bound ≤ occurrence.item.number) :
    since bound occurrences = occurrences := by
  rw [since, List.filter_eq_self]
  intro occurrence member
  exact decide_eq_true (reached occurrence member)

/-! What lowering adds to a call, to a constructor and to a list of constructors. -/

def Located.handedOn (vars : ImplicitVars) (call : Located ForwardingCall) : Occurrences :=
  [⟨.argument call.item.call.arguments.length :: call.place, .name, vars.name⟩,
    ⟨.argument (call.item.call.arguments.length + 1) :: call.place, .name, vars.ordinal⟩]

def Located.addedParameters (first : Nat) (method : Located MethodDeclaration) : Occurrences :=
  [⟨.parameter method.item.parameters.length :: method.place, .parameter,
      (ImplicitVars.numbered method.item.binding first).name⟩,
    ⟨.parameter (method.item.parameters.length + 1) :: method.place, .parameter,
      (ImplicitVars.numbered method.item.binding first).ordinal⟩]

def Located.added (first : Nat) (method : Located MethodDeclaration) : Occurrences :=
  method.addedParameters first ++
    (method.item.calls method.place).flatMap
      (Located.handedOn (.numbered method.item.binding first))

def addedFrom (first : Nat) : List (Located MethodDeclaration) → Occurrences
  | [] => []
  | method :: methods => method.added first ++ addedFrom (first + 2) methods

theorem added_from_append (first : Nat) (left right : List (Located MethodDeclaration)) :
    addedFrom first (left ++ right) =
      addedFrom first left ++ addedFrom (first + 2 * left.length) right := by
  induction left generalizing first with
  | nil => rfl
  | cons method methods induction =>
      have shifted : first + 2 + 2 * methods.length = first + 2 * (methods.length + 1) := by omega
      rw [List.cons_append, addedFrom, addedFrom, induction (first + 2), List.append_assoc,
        List.length_cons, shifted]

/-! Occurrences in the lists that lowering extends. -/

theorem Expression.occurrences_from_append (place : Place) (index : Nat)
    (left right : List Expression) :
    Expression.occurrencesFrom place index (left ++ right) =
      Expression.occurrencesFrom place index left ++
        Expression.occurrencesFrom place (index + left.length) right := by
  induction left generalizing index with
  | nil => rfl
  | cons argument arguments induction =>
      have shifted : index + 1 + arguments.length = index + (arguments.length + 1) := by omega
      rw [List.cons_append, Expression.occurrencesFrom, Expression.occurrencesFrom,
        induction (index + 1), List.append_assoc, List.length_cons, shifted]

theorem Statement.occurrences_from_append (place : Place) (index : Nat)
    (left right : List Statement) :
    Statement.occurrencesFrom place index (left ++ right) =
      Statement.occurrencesFrom place index left ++
        Statement.occurrencesFrom place (index + left.length) right := by
  induction left generalizing index with
  | nil => rfl
  | cons statement statements induction =>
      have shifted : index + 1 + statements.length = index + (statements.length + 1) := by omega
      rw [List.cons_append, Statement.occurrencesFrom, Statement.occurrencesFrom,
        induction (index + 1), List.append_assoc, List.length_cons, shifted]

theorem Member.occurrences_from_append_native (place : Place) (index : Nat) (members : List Member)
    (inner outer : NativeBlock) :
    Member.occurrencesFrom place index (members ++ [.native inner, .native outer]) =
      Member.occurrencesFrom place index members := by
  induction members generalizing index with
  | nil => rfl
  | cons member members induction =>
      rw [List.cons_append, Member.occurrencesFrom, Member.occurrencesFrom, induction (index + 1)]

theorem VariableBinding.parameter_occurrences_append (place : Place) (index : Nat)
    (left right : List VariableBinding) :
    VariableBinding.parameterOccurrences place index (left ++ right) =
      VariableBinding.parameterOccurrences place index left ++
        VariableBinding.parameterOccurrences place (index + left.length) right := by
  induction left generalizing index with
  | nil => rfl
  | cons parameter parameters induction =>
      have shifted : index + 1 + parameters.length = index + (parameters.length + 1) := by omega
      rw [List.cons_append, VariableBinding.parameterOccurrences,
        VariableBinding.parameterOccurrences, induction (index + 1), List.length_cons, shifted]
      rfl

/-- The assignments of the constants name the constants and repeat their arguments. -/
theorem below_assignments {bound : Nat} (members : List Member) (place : Place)
    (index start : Nat) (ordinals : Nat → Nat) (constants : List EnumConstant)
    (below : Below bound (EnumConstant.occurrencesFrom place start constants)) :
    Below bound (Statement.occurrencesFrom place index
      (constants.mapIdx fun position constant =>
        constant.assignment members (ordinals position))) := by
  induction constants generalizing index start ordinals with
  | nil => exact List.forall_mem_nil _
  | cons constant constants induction =>
      rw [EnumConstant.occurrencesFrom, EnumConstant.occurrences, below_append, below_cons] at below
      obtain ⟨⟨named, inArguments⟩, inTail⟩ := below
      rw [List.mapIdx_cons, Statement.occurrencesFrom, below_append]
      have assigned := induction (index + 1) (start + 1)
        (fun position => ordinals (position + 1)) inTail
      refine ⟨?_, assigned⟩
      have moved := below_of_items (Expression.items_occurrences_from _
        (.value :: .value :: .statement index :: place) 0 0 constant.arguments) inArguments
      rw [EnumConstant.assignment, Statement.occurrences, Expression.occurrences,
        EnumConstant.instantiate, Expression.occurrences, Expression.occurrences, below_append,
        below_cons, Expression.occurrences_from_append, below_append]
      exact ⟨⟨named, List.forall_mem_nil _⟩, moved, List.forall_mem_nil _⟩

theorem TypeDeclaration.occurrences_of_enum (place : Place) (declaration : EnumDeclaration) :
    (TypeDeclaration.ofEnum declaration).occurrences place =
      EnumConstant.occurrencesFrom place 0 declaration.constants ++
        (Member.occurrencesFrom place 0 declaration.members ++
          Statement.occurrencesFrom place 0 declaration.initializers) := by
  obtain ⟨binding, constants, members, initializers⟩ := declaration
  rfl

/-- Only the members of an enum gain occurrences: its constants stay, and its
initializers gain names that occur among the constants. -/
theorem since_lowered_enum (options : Options) (bound first : Nat) (place : Place)
    (declaration : EnumDeclaration)
    (inConstants : Below bound (EnumConstant.occurrencesFrom place 0 declaration.constants))
    (inInitializers : Below bound (Statement.occurrencesFrom place 0 declaration.initializers)) :
    since bound
        ((TypeDeclaration.ofEnum (loweredEnum options first declaration)).occurrences place) =
      since bound
        (Member.occurrencesFrom place 0 (loweredMembers options first declaration.members)) := by
  have assigned : Below bound (Statement.occurrencesFrom place 0 (declaration.constants.mapIdx
      (EnumConstant.assignment (loweredMembers options first declaration.members)))) :=
    below_assignments _ place 0 0 id declaration.constants inConstants
  -- the old initializers stand behind the assignments
  have moved (start : Nat) : Below bound
      (Statement.occurrencesFrom place start declaration.initializers) :=
    below_of_items (Statement.items_occurrences_from place place 0 start declaration.initializers)
      inInitializers
  have constants : (loweredEnum options first declaration).constants = declaration.constants := rfl
  obtain ⟨inner, outer, members⟩ := members_lowered_enum options first declaration
  rw [TypeDeclaration.occurrences_of_enum, constants, members,
    Member.occurrences_from_append_native, initializers_lowered_enum,
    Statement.occurrences_from_append, since_append, since_append, since_append,
    since_eq_nil inConstants, since_eq_nil assigned, since_eq_nil (moved _), List.nil_append,
    List.append_nil, List.append_nil]

/-! The added occurrences, up to their order: in a body, the names that its own calls
hand on are separated here from what is added inside its local types. -/

/-- Both identities are at least `bound`. -/
def ImplicitVars.Since (bound : Nat) (vars : ImplicitVars) : Prop :=
  bound ≤ vars.name.id.number.toNat ∧ bound ≤ vars.ordinal.id.number.toNat

theorem ImplicitVars.since_numbered {bound first : Nat} (reached : bound ≤ first)
    (fits : first + 2 ≤ 2 ^ 32) (binding : MethodBinding) :
    (numbered binding first).Since bound := by
  obtain ⟨nameNumber, ordinalNumber⟩ := toNat_numbered fits binding
  constructor <;> omega

theorem perm_interleave {α : Type} {left right calls others added rest : List α}
    (head : left.Perm (calls ++ added)) (tail : right.Perm (others ++ rest)) :
    (left ++ right).Perm ((calls ++ others) ++ (added ++ rest)) := by
  refine (head.append tail).trans ?_
  rw [List.append_assoc, List.append_assoc]
  exact (List.perm_append_comm_assoc added others rest).append_left calls

/-- A call keeps its old arguments and gains the two names. -/
theorem since_hand_on {bound : Nat} {vars : ImplicitVars} (varsSince : vars.Since bound)
    (place : Place) (callee : Callee) (call : ConstructorCall)
    (below : Below bound (Expression.occurrencesFrom place 0 call.arguments)) :
    since bound (Expression.occurrencesFrom place 0 (call.handOn vars).arguments) =
      Located.handedOn vars ⟨place, callee, call⟩ := by
  have names : Expression.occurrencesFrom place (0 + call.arguments.length) vars.arguments =
      Located.handedOn vars ⟨place, callee, call⟩ := by
    rw [Nat.zero_add]
    rfl
  rw [ConstructorCall.handOn, Expression.occurrences_from_append, since_append, since_eq_nil below,
    names, List.nil_append]
  apply since_eq_self
  intro occurrence member
  simp only [Located.handedOn, List.mem_cons, List.not_mem_nil, or_false] at member
  rcases member with rfl | rfl
  · exact varsSince.1
  · exact varsSince.2

theorem since_added_parameters {bound : Nat} (place : Place) (method : MethodDeclaration)
    {first : Nat} (varsSince : (ImplicitVars.numbered method.binding first).Since bound)
    (below : Below bound (VariableBinding.parameterOccurrences place 0 method.parameters)) :
    since bound (VariableBinding.parameterOccurrences place 0
        (method.parameters ++ (ImplicitVars.numbered method.binding first).parameters)) =
      Located.addedParameters first ⟨place, method⟩ := by
  have parameters : VariableBinding.parameterOccurrences place (0 + method.parameters.length)
      (ImplicitVars.numbered method.binding first).parameters =
        Located.addedParameters first ⟨place, method⟩ := by
    rw [Nat.zero_add]
    rfl
  rw [VariableBinding.parameter_occurrences_append, since_append, since_eq_nil below, parameters,
    List.nil_append]
  apply since_eq_self
  intro occurrence member
  simp only [Located.addedParameters, List.mem_cons, List.not_mem_nil, or_false] at member
  rcases member with rfl | rfl
  · exact varsSince.1
  · exact varsSince.2

mutual

theorem since_lowered_statement (options : Options) (vars : ImplicitVars) (bound first : Nat)
    (place : Place) (statement : Statement) (varsSince : vars.Since bound)
    (reached : bound ≤ first) (fits : first + 2 * statement.constructorCount ≤ 2 ^ 32)
    (below : Below bound (statement.occurrences place)) :
    (since bound ((loweredStatement options vars first statement).occurrences place)).Perm
      ((statement.calls place).flatMap (Located.handedOn vars) ++
        addedFrom first (Visit.constructors (statement.visits place))) := by
  cases statement with
  | thisCall call =>
      rw [loweredStatement, Statement.occurrences,
        since_hand_on varsSince place .sibling call below]
      exact List.Perm.refl _
  | superCall call =>
      rw [loweredStatement, Statement.occurrences,
        since_hand_on varsSince place .superclass call below]
      exact List.Perm.refl _
  | block statements =>
      rw [loweredStatement, Statement.occurrences, Statement.calls, Statement.visits]
      rw [Statement.occurrences] at below
      rw [Statement.constructorCount] at fits
      exact since_lowered_statements options vars bound first place 0 statements varsSince reached
        fits below
  | conditional condition thenBranch elseBranch =>
      cases elseBranch with
      | none =>
          rw [Statement.occurrences, below_append] at below
          rw [Statement.constructorCount] at fits
          rw [loweredStatement, Statement.occurrences, Statement.calls, Statement.visits,
            since_append, since_eq_nil below.1]
          exact since_lowered_statement options vars bound first (.thenBranch :: place) thenBranch
            varsSince reached fits below.2
      | some elseBranch =>
          rw [Statement.occurrences, below_append, below_append] at below
          rw [Statement.constructorCount] at fits
          have inThen := since_lowered_statement options vars bound first (.thenBranch :: place)
            thenBranch varsSince reached (by omega) below.2.1
          have inElse := since_lowered_statement options vars bound
            (first + 2 * thenBranch.constructorCount) (.elseBranch :: place) elseBranch varsSince
            (by omega) (by omega) below.2.2
          rw [loweredStatement, Statement.occurrences, Statement.calls, Statement.visits,
            since_append, since_append, since_eq_nil below.1, List.nil_append,
            List.flatMap_append, Visit.constructors_append, added_from_append,
            thenBranch.length_constructors_visits]
          exact perm_interleave inThen inElse
  | localType declaration =>
      rw [Statement.occurrences] at below
      rw [Statement.constructorCount] at fits
      rw [loweredStatement, Statement.occurrences, Statement.calls, Statement.visits]
      exact since_lowered_type options bound first place declaration reached fits below
  | expression value =>
      rw [loweredStatement, since_eq_nil below]
      exact List.Perm.refl _
  | result value =>
      rw [loweredStatement, since_eq_nil below]
      exact List.Perm.refl _
  | localVariable binding initializer =>
      rw [loweredStatement, since_eq_nil below]
      exact List.Perm.refl _

theorem since_lowered_statements (options : Options) (vars : ImplicitVars) (bound first : Nat)
    (place : Place) (index : Nat) (statements : List Statement) (varsSince : vars.Since bound)
    (reached : bound ≤ first) (fits : first + 2 * Statement.constructorCounts statements ≤ 2 ^ 32)
    (below : Below bound (Statement.occurrencesFrom place index statements)) :
    (since bound (Statement.occurrencesFrom place index
        (loweredStatements options vars first statements))).Perm
      ((Statement.callsFrom place index statements).flatMap (Located.handedOn vars) ++
        addedFrom first (Visit.constructors (Statement.visitsFrom place index statements))) := by
  cases statements with
  | nil => exact List.Perm.refl _
  | cons statement statements =>
      rw [Statement.occurrencesFrom, below_append] at below
      rw [Statement.constructorCounts] at fits
      have inHead := since_lowered_statement options vars bound first (.statement index :: place)
        statement varsSince reached (by omega) below.1
      have inTail := since_lowered_statements options vars bound
        (first + 2 * statement.constructorCount) place (index + 1) statements varsSince (by omega)
        (by omega) below.2
      rw [loweredStatements, Statement.occurrencesFrom, Statement.callsFrom, Statement.visitsFrom,
        since_append, List.flatMap_append, Visit.constructors_append, added_from_append,
        statement.length_constructors_visits]
      exact perm_interleave inHead inTail

theorem since_lowered_constructor (options : Options) (bound first : Nat) (place : Place)
    (method : MethodDeclaration) (reached : bound ≤ first)
    (fits : first + 2 * method.constructorCount ≤ 2 ^ 32)
    (below : Below bound (method.occurrences place)) :
    (since bound ((loweredConstructor options first method).occurrences place)).Perm
      (addedFrom first (Visit.constructors (method.visits place))) := by
  obtain ⟨binding, modifiers, parameters, body⟩ := method
  rw [MethodDeclaration.constructorCount] at fits
  have varsSince := ImplicitVars.since_numbered reached (by omega) binding
  cases body with
  | none =>
      rw [MethodDeclaration.occurrences] at below
      have inParameters :=
        since_added_parameters place ⟨binding, modifiers, parameters, none⟩ varsSince below
      rw [loweredConstructor, loweredBody, MethodDeclaration.occurrences, inParameters]
      exact List.Perm.of_eq (by
        rw [MethodDeclaration.visits, Visit.constructors_cons_constructor, addedFrom]; rfl)
  | some statements =>
      rw [MethodDeclaration.occurrences, below_append] at below
      rw [Statement.constructorCountBody] at fits
      have inParameters :=
        since_added_parameters place ⟨binding, modifiers, parameters, some statements⟩ varsSince
          below.1
      -- its own two numbers are drawn before those of the local types in the body
      have inBody := since_lowered_statements options (.numbered binding first) bound (first + 2)
        place 0 statements varsSince (by omega) (by omega) below.2
      rw [loweredConstructor, loweredBody, MethodDeclaration.occurrences, since_append,
        inParameters, MethodDeclaration.visits, Visit.constructors_cons_constructor, addedFrom,
        Located.added, List.append_assoc, Statement.visitsBody]
      exact inBody.append_left _

theorem since_lowered_member (options : Options) (bound first : Nat) (place : Place)
    (member : Member) (reached : bound ≤ first)
    (fits : first + 2 * member.constructorCount ≤ 2 ^ 32)
    (below : Below bound (member.occurrences place)) :
    (since bound ((loweredMember options first member).occurrences place)).Perm
      (addedFrom first (Visit.constructors (member.visits place))) := by
  cases member with
  | method method =>
      by_cases constructor : method.binding.isEnumConstructor
      · rw [Member.occurrences] at below
        rw [Member.constructorCount, if_pos constructor] at fits
        rw [loweredMember, if_pos constructor, Member.occurrences, Member.visits,
          if_pos constructor]
        exact since_lowered_constructor options bound first place method reached fits below
      · rw [loweredMember, if_neg constructor, Member.visits, if_neg constructor,
          since_eq_nil below]
        exact List.Perm.refl _
  | type declaration =>
      rw [Member.occurrences] at below
      rw [Member.constructorCount] at fits
      rw [loweredMember, Member.occurrences, Member.visits]
      exact since_lowered_type options bound first place declaration reached fits below
  | field declaration =>
      rw [loweredMember, since_eq_nil below]
      exact List.Perm.refl _
  | native block => exact List.Perm.refl _

theorem since_lowered_members (options : Options) (bound first : Nat) (place : Place) (index : Nat)
    (members : List Member) (reached : bound ≤ first)
    (fits : first + 2 * Member.constructorCounts members ≤ 2 ^ 32)
    (below : Below bound (Member.occurrencesFrom place index members)) :
    (since bound (Member.occurrencesFrom place index
        (loweredMembers options first members))).Perm
      (addedFrom first (Visit.constructors (Member.visitsFrom place index members))) := by
  cases members with
  | nil => exact List.Perm.refl _
  | cons member members =>
      rw [Member.occurrencesFrom, below_append] at below
      rw [Member.constructorCounts] at fits
      have inHead := since_lowered_member options bound first (.member index :: place) member
        reached (by omega) below.1
      have inTail := since_lowered_members options bound (first + 2 * member.constructorCount) place
        (index + 1) members (by omega) (by omega) below.2
      rw [loweredMembers, Member.occurrencesFrom, Member.visitsFrom, since_append,
        Visit.constructors_append, added_from_append, member.length_constructors_visits]
      exact inHead.append inTail

theorem since_lowered_type (options : Options) (bound first : Nat) (place : Place)
    (declaration : TypeDeclaration) (reached : bound ≤ first)
    (fits : first + 2 * declaration.constructorCount ≤ 2 ^ 32)
    (below : Below bound (declaration.occurrences place)) :
    (since bound ((loweredType options first declaration).occurrences place)).Perm
      (addedFrom first (Visit.constructors (declaration.visits place))) := by
  rcases declaration with ⟨⟨binding, members, initializers⟩⟩ |
    ⟨⟨binding, constants, members, initializers⟩⟩
  · rw [TypeDeclaration.occurrences, below_append] at below
    rw [TypeDeclaration.constructorCount] at fits
    rw [loweredType, TypeDeclaration.occurrences, since_append, since_eq_nil below.2,
      List.append_nil, TypeDeclaration.visits, Visit.constructors_cons_type]
    exact since_lowered_members options bound first place 0 members reached fits below.1
  · rw [TypeDeclaration.occurrences, below_append, below_append] at below
    obtain ⟨inConstants, inMembers, inInitializers⟩ := below
    rw [TypeDeclaration.constructorCount] at fits
    rw [lowered_type_of_enum, since_lowered_enum options bound first place
      ⟨binding, constants, members, initializers⟩ inConstants inInitializers,
      TypeDeclaration.visits, Visit.constructors_cons_type]
    exact since_lowered_members options bound first place 0 members reached fits inMembers

end

theorem since_lowered_types (options : Options) (bound first index : Nat)
    (declarations : List TypeDeclaration) (reached : bound ≤ first)
    (fits : first + 2 * (Visit.constructors
      (TypeDeclaration.visitsFrom index declarations)).length ≤ 2 ^ 32)
    (below : Below bound (TypeDeclaration.occurrencesFrom index declarations)) :
    (since bound (TypeDeclaration.occurrencesFrom index
        (loweredTypes options first declarations))).Perm
      (addedFrom first (Visit.constructors (TypeDeclaration.visitsFrom index declarations))) := by
  induction declarations generalizing first index with
  | nil => exact List.Perm.refl _
  | cons declaration declarations induction =>
      rw [TypeDeclaration.occurrencesFrom, below_append] at below
      rw [TypeDeclaration.visitsFrom, Visit.constructors_append, List.length_append,
        declaration.length_constructors_visits] at fits
      have inHead := since_lowered_type options bound first [.type index] declaration reached
        (by omega) below.1
      have inTail := induction (first + 2 * declaration.constructorCount) (index + 1) (by omega)
        (by omega) below.2
      rw [loweredTypes, TypeDeclaration.occurrencesFrom, TypeDeclaration.visitsFrom, since_append,
        Visit.constructors_append, added_from_append, declaration.length_constructors_visits]
      exact inHead.append inTail

end EnumLowering
