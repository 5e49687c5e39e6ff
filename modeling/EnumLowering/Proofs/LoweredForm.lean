import EnumLowering.Lowering.Walk
import EnumLowering.Proofs.Visits
import Mathlib.Algebra.Group.Nat.Defs

/-!
The form of a lowered tree, without errors, contexts or a supply: the identities
of the implicit parameters are counted off from a first number. A run that does
not fail leaves this form; the proof of that stands with the supply. Here it is
shown what the form does to visits and calls.
-/

namespace EnumLowering

/-- The implicit parameters of a constructor under the identities `first` and
`first + 1`. -/
def ImplicitVars.numbered (binding : MethodBinding) (first : Nat) : ImplicitVars :=
  .ofIds binding.declaringType binding.signature ⟨.ofNat first⟩ ⟨.ofNat (first + 1)⟩

/-- In range, the two numbers are not cut off. -/
theorem ImplicitVars.toNat_numbered {first : Nat} (fits : first + 2 ≤ 2 ^ 32)
    (binding : MethodBinding) :
    (numbered binding first).name.id.number.toNat = first ∧
      (numbered binding first).ordinal.id.number.toNat = first + 1 := by
  constructor
  · exact UInt32.toNat_ofNat_of_lt' (by rw [UInt32.size]; omega)
  · exact UInt32.toNat_ofNat_of_lt' (by rw [UInt32.size]; omega)

/-- A call that hands on the implicit parameters of its caller. -/
def ConstructorCall.handOn (vars : ImplicitVars) (call : ConstructorCall) : ConstructorCall :=
  { method := call.method.widen, arguments := call.arguments ++ vars.arguments }

mutual

def loweredStatement (options : Options) (vars : ImplicitVars) (first : Nat) :
    Statement → Statement
  | .thisCall call => .thisCall (call.handOn vars)
  | .superCall call => .superCall (call.handOn vars)
  | .block statements => .block (loweredStatements options vars first statements)
  | .conditional condition thenBranch none =>
      .conditional condition (loweredStatement options vars first thenBranch) none
  | .conditional condition thenBranch (some elseBranch) =>
      .conditional condition (loweredStatement options vars first thenBranch)
        (some (loweredStatement options vars (first + 2 * thenBranch.constructorCount) elseBranch))
  | .localType declaration => .localType (loweredType options first declaration)
  | .expression value => .expression value
  | .result value => .result value
  | .localVariable binding initializer => .localVariable binding initializer

def loweredStatements (options : Options) (vars : ImplicitVars) (first : Nat) :
    List Statement → List Statement
  | [] => []
  | statement :: statements =>
      loweredStatement options vars first statement ::
        loweredStatements options vars (first + 2 * statement.constructorCount) statements

def loweredBody (options : Options) (vars : ImplicitVars) (first : Nat) :
    Option (List Statement) → Option (List Statement)
  | none => none
  | some statements => some (loweredStatements options vars first statements)

def loweredConstructor (options : Options) (first : Nat) : MethodDeclaration → MethodDeclaration
  | ⟨binding, modifiers, parameters, body⟩ =>
      { binding := binding.lowered
        modifiers := modifiers.makePrivateSynthetic
        parameters := parameters ++ (ImplicitVars.numbered binding first).parameters
        body := loweredBody options (.numbered binding first) (first + 2) body }

def loweredMember (options : Options) (first : Nat) : Member → Member
  | .method method =>
      if method.binding.isEnumConstructor then .method (loweredConstructor options first method)
      else .method method
  | .type declaration => .type (loweredType options first declaration)
  | .field declaration => .field declaration
  | .native block => .native block

def loweredMembers (options : Options) (first : Nat) : List Member → List Member
  | [] => []
  | member :: members =>
      loweredMember options first member ::
        loweredMembers options (first + 2 * member.constructorCount) members

def loweredType (options : Options) (first : Nat) : TypeDeclaration → TypeDeclaration
  | .ofClass ⟨binding, members, initializers⟩ =>
      .ofClass { binding, members := loweredMembers options first members, initializers }
  | .ofEnum ⟨binding, constants, members, initializers⟩ =>
      .ofEnum (EnumDeclaration.finish options
        { binding, constants, members := loweredMembers options first members, initializers }).1

end

def loweredTypes (options : Options) (first : Nat) : List TypeDeclaration → List TypeDeclaration
  | [] => []
  | declaration :: declarations =>
      loweredType options first declaration ::
        loweredTypes options (first + 2 * declaration.constructorCount) declarations

/-- A lowered enum: its members first, then its constants and support blocks. -/
def loweredEnum (options : Options) (first : Nat) (declaration : EnumDeclaration) :
    EnumDeclaration :=
  (EnumDeclaration.finish options
    { declaration with members := loweredMembers options first declaration.members }).1

theorem binding_lowered_constructor (options : Options) (first : Nat)
    (method : MethodDeclaration) :
    (loweredConstructor options first method).binding = method.binding.lowered := by
  obtain ⟨binding, modifiers, parameters, body⟩ := method
  rfl

theorem lowered_type_of_enum (options : Options) (first : Nat) (declaration : EnumDeclaration) :
    loweredType options first (.ofEnum declaration) =
      .ofEnum (loweredEnum options first declaration) := by
  obtain ⟨binding, constants, members, initializers⟩ := declaration
  rfl

theorem members_lowered_enum (options : Options) (first : Nat) (declaration : EnumDeclaration) :
    ∃ inner outer, (loweredEnum options first declaration).members =
      loweredMembers options first declaration.members ++ [.native inner, .native outer] :=
  ⟨_, _, rfl⟩

theorem initializers_lowered_enum (options : Options) (first : Nat)
    (declaration : EnumDeclaration) :
    (loweredEnum options first declaration).initializers =
      declaration.constants.mapIdx
        (EnumConstant.assignment (loweredMembers options first declaration.members)) ++
          declaration.initializers := rfl

theorem lowered_members_getElem? (options : Options) (first : Nat) (members : List Member)
    (position : Nat) (member : Member) (found : members[position]? = some member) :
    ∃ start, (loweredMembers options first members)[position]? =
      some (loweredMember options start member) := by
  induction members generalizing first position with
  | nil => cases found
  | cons head members induction =>
      cases position with
      | zero =>
          cases found
          exact ⟨first, rfl⟩
      | succ position => exact induction (first + 2 * head.constructorCount) position found

/-! Visits: the places stay, and identities are handed out in the order of the
visited constructors. -/

namespace Visit

def lowered (options : Options) (first : Nat) : List Visit → List Visit
  | [] => []
  | .type ⟨place, declaration⟩ :: visits =>
      .type ⟨place, loweredType options first declaration⟩ :: lowered options first visits
  | .constructor ⟨place, method⟩ :: visits =>
      .constructor ⟨place, loweredConstructor options first method⟩ ::
        lowered options (first + 2) visits

theorem lowered_append (options : Options) (first : Nat) (left right : List Visit) :
    lowered options first (left ++ right) =
      lowered options first left ++
        lowered options (first + 2 * (constructors left).length) right := by
  induction left generalizing first with
  | nil => rfl
  | cons visit visits induction =>
      rcases visit with ⟨place, declaration⟩ | ⟨place, method⟩
      · simp only [List.cons_append, lowered, constructors_cons_type, induction first]
      · have shifted : first + 2 + 2 * (constructors visits).length =
            first + 2 * ((constructors visits).length + 1) := by omega
        simp only [List.cons_append, lowered, constructors_cons_constructor, List.length_cons,
          induction (first + 2), shifted]

/-- The constructor visited `index`-th gets the identities at twice that distance
from the first. -/
theorem constructors_lowered_getElem? (options : Options) (first : Nat) (visits : List Visit)
    (index : Nat) :
    (constructors (lowered options first visits))[index]? =
      (constructors visits)[index]?.map fun method =>
        ⟨method.place, loweredConstructor options (first + 2 * index) method.item⟩ := by
  induction visits generalizing first index with
  | nil => rfl
  | cons visit visits induction =>
      rcases visit with ⟨place, declaration⟩ | ⟨place, method⟩
      · exact induction first index
      · cases index with
        | zero => rfl
        | succ index =>
            have shifted : first + 2 + 2 * index = first + 2 * (index + 1) := by omega
            simp only [lowered, constructors_cons_constructor, List.getElem?_cons_succ,
              induction (first + 2) index, shifted]

theorem length_constructors_lowered (options : Options) (first : Nat) (visits : List Visit) :
    (constructors (lowered options first visits)).length = (constructors visits).length := by
  induction visits generalizing first with
  | nil => rfl
  | cons visit visits induction =>
      rcases visit with ⟨place, declaration⟩ | ⟨place, method⟩
      · exact induction first
      · exact congrArg (· + 1) (induction (first + 2))

theorem types_lowered_getElem? (options : Options) (first : Nat) (visits : List Visit)
    (index : Nat) (declaration : Located TypeDeclaration)
    (visited : (types visits)[index]? = some declaration) :
    ∃ start, (types (lowered options first visits))[index]? =
      some ⟨declaration.place, loweredType options start declaration.item⟩ := by
  induction visits generalizing first index with
  | nil => cases visited
  | cons visit visits induction =>
      rcases visit with ⟨place, head⟩ | ⟨place, method⟩
      · cases index with
        | zero =>
            cases visited
            exact ⟨first, rfl⟩
        | succ index => exact induction first index visited
      · exact induction (first + 2) index visited

end Visit

@[simp] theorem TypeDeclaration.visits_of_enum (place : Place) (declaration : EnumDeclaration) :
    (TypeDeclaration.ofEnum declaration).visits place =
      .type ⟨place, .ofEnum declaration⟩ :: Member.visitsFrom place 0 declaration.members := by
  obtain ⟨binding, constants, members, initializers⟩ := declaration
  rfl

theorem Member.visits_from_append_native (place : Place) (index : Nat) (members : List Member)
    (inner outer : NativeBlock) :
    Member.visitsFrom place index (members ++ [.native inner, .native outer]) =
      Member.visitsFrom place index members := by
  induction members generalizing index with
  | nil => rfl
  | cons member members induction =>
      simp only [List.cons_append, Member.visitsFrom, induction (index + 1)]

mutual

theorem visits_lowered_statement (options : Options) (vars : ImplicitVars) (first : Nat)
    (place : Place) (statement : Statement) :
    (loweredStatement options vars first statement).visits place =
      Visit.lowered options first (statement.visits place) := by
  cases statement with
  | block statements =>
      simpa only [loweredStatement, Statement.visits] using
        visits_lowered_statements options vars first place 0 statements
  | conditional condition thenBranch elseBranch =>
      have thenVisits :=
        visits_lowered_statement options vars first (.thenBranch :: place) thenBranch
      cases elseBranch with
      | none => simpa only [loweredStatement, Statement.visits] using thenVisits
      | some elseBranch =>
          have elseVisits := visits_lowered_statement options vars
            (first + 2 * thenBranch.constructorCount) (.elseBranch :: place) elseBranch
          simp only [loweredStatement, Statement.visits, thenVisits, elseVisits,
            Visit.lowered_append, thenBranch.length_constructors_visits]
  | localType declaration =>
      simpa only [loweredStatement, Statement.visits] using
        visits_lowered_type options first place declaration
  | expression value => rfl
  | result value => rfl
  | localVariable binding initializer => rfl
  | thisCall call => rfl
  | superCall call => rfl

theorem visits_lowered_statements (options : Options) (vars : ImplicitVars) (first : Nat)
    (place : Place) (index : Nat) (statements : List Statement) :
    Statement.visitsFrom place index (loweredStatements options vars first statements) =
      Visit.lowered options first (Statement.visitsFrom place index statements) := by
  cases statements with
  | nil => rfl
  | cons statement statements =>
      simp only [loweredStatements, Statement.visitsFrom, Visit.lowered_append,
        visits_lowered_statement options vars first (.statement index :: place) statement,
        visits_lowered_statements options vars (first + 2 * statement.constructorCount) place
          (index + 1) statements,
        statement.length_constructors_visits]

theorem visits_lowered_constructor (options : Options) (first : Nat) (place : Place)
    (method : MethodDeclaration) :
    (loweredConstructor options first method).visits place =
      Visit.lowered options first (method.visits place) := by
  obtain ⟨binding, modifiers, parameters, body⟩ := method
  cases body with
  | none => rfl
  | some statements =>
      simp only [loweredConstructor, loweredBody, MethodDeclaration.visits, Statement.visitsBody,
        Visit.lowered,
        visits_lowered_statements options (.numbered binding first) (first + 2) place 0 statements]

theorem visits_lowered_member (options : Options) (first : Nat) (place : Place)
    (member : Member) :
    (loweredMember options first member).visits place =
      Visit.lowered options first (member.visits place) := by
  cases member with
  | method method =>
      have methodVisits := visits_lowered_constructor options first place method
      by_cases constructor : method.binding.isEnumConstructor
      · have stays : (loweredConstructor options first method).binding.isEnumConstructor := by
          rw [binding_lowered_constructor]
          exact constructor
        simpa only [loweredMember, Member.visits, if_pos constructor, if_pos stays] using
          methodVisits
      · simp only [loweredMember, Member.visits, if_neg constructor, Visit.lowered]
  | type declaration =>
      simpa only [loweredMember, Member.visits] using
        visits_lowered_type options first place declaration
  | field declaration => rfl
  | native block => rfl

theorem visits_lowered_members (options : Options) (first : Nat) (place : Place) (index : Nat)
    (members : List Member) :
    Member.visitsFrom place index (loweredMembers options first members) =
      Visit.lowered options first (Member.visitsFrom place index members) := by
  cases members with
  | nil => rfl
  | cons member members =>
      simp only [loweredMembers, Member.visitsFrom, Visit.lowered_append,
        visits_lowered_member options first (.member index :: place) member,
        visits_lowered_members options (first + 2 * member.constructorCount) place (index + 1)
          members,
        member.length_constructors_visits]

theorem visits_lowered_type (options : Options) (first : Nat) (place : Place)
    (declaration : TypeDeclaration) :
    (loweredType options first declaration).visits place =
      Visit.lowered options first (declaration.visits place) := by
  rcases declaration with ⟨⟨binding, members, initializers⟩⟩ |
    ⟨⟨binding, constants, members, initializers⟩⟩
  · simp only [loweredType, TypeDeclaration.visits, Visit.lowered,
      visits_lowered_members options first place 0 members]
  · -- the support blocks at the end of the members hold nothing to visit
    simp only [loweredType, TypeDeclaration.visits_of_enum, Visit.lowered, EnumDeclaration.finish,
      EnumDeclaration.lowerConstants, Member.visits_from_append_native,
      visits_lowered_members options first place 0 members]

end

theorem visits_lowered_types (options : Options) (first index : Nat)
    (declarations : List TypeDeclaration) :
    TypeDeclaration.visitsFrom index (loweredTypes options first declarations) =
      Visit.lowered options first (TypeDeclaration.visitsFrom index declarations) := by
  induction declarations generalizing first index with
  | nil => rfl
  | cons declaration declarations induction =>
      simp only [loweredTypes, TypeDeclaration.visitsFrom, Visit.lowered_append,
        visits_lowered_type options first [.type index] declaration,
        induction (first + 2 * declaration.constructorCount) (index + 1),
        declaration.length_constructors_visits]

/-! Calls: each one in the body of a constructor hands on the same two variables. -/

def Located.handOn (vars : ImplicitVars) (call : Located ForwardingCall) :
    Located ForwardingCall :=
  ⟨call.place, call.item.callee, call.item.call.handOn vars⟩

mutual

theorem calls_lowered_statement (options : Options) (vars : ImplicitVars) (first : Nat)
    (place : Place) (statement : Statement) :
    (loweredStatement options vars first statement).calls place =
      (statement.calls place).map (.handOn vars) := by
  cases statement with
  | block statements =>
      simpa only [loweredStatement, Statement.calls] using
        calls_lowered_statements options vars first place 0 statements
  | conditional condition thenBranch elseBranch =>
      have thenCalls := calls_lowered_statement options vars first (.thenBranch :: place) thenBranch
      cases elseBranch with
      | none => simpa only [loweredStatement, Statement.calls] using thenCalls
      | some elseBranch =>
          have elseCalls := calls_lowered_statement options vars
            (first + 2 * thenBranch.constructorCount) (.elseBranch :: place) elseBranch
          simp only [loweredStatement, Statement.calls, List.map_append, thenCalls, elseCalls]
  | localType declaration => rfl
  | expression value => rfl
  | result value => rfl
  | localVariable binding initializer => rfl
  | thisCall call => rfl
  | superCall call => rfl

theorem calls_lowered_statements (options : Options) (vars : ImplicitVars) (first : Nat)
    (place : Place) (index : Nat) (statements : List Statement) :
    Statement.callsFrom place index (loweredStatements options vars first statements) =
      (Statement.callsFrom place index statements).map (.handOn vars) := by
  cases statements with
  | nil => rfl
  | cons statement statements =>
      simp only [loweredStatements, Statement.callsFrom, List.map_append,
        calls_lowered_statement options vars first (.statement index :: place) statement,
        calls_lowered_statements options vars (first + 2 * statement.constructorCount) place
          (index + 1) statements]

end

theorem calls_lowered_constructor (options : Options) (first : Nat) (place : Place)
    (method : MethodDeclaration) :
    (loweredConstructor options first method).calls place =
      (method.calls place).map (.handOn (.numbered method.binding first)) := by
  obtain ⟨binding, modifiers, parameters, body⟩ := method
  cases body with
  | none => rfl
  | some statements => exact calls_lowered_statements options _ (first + 2) place 0 statements

end EnumLowering
