import EnumLowering.Lowering.Context

/-!
Which declarations lowering reaches, and where they stand. A place is the list of
turns from a node out to its unit. A type is reached at the top of a unit, as a
member of a reached type, or as a local type in the body of a reached enum
constructor; the bodies of other methods are never entered. The visits are listed
in pre-order: a type stands before its members and a constructor before the local
types of its body.
-/

namespace EnumLowering

/-- One turn on the way from a unit down to a node. -/
inductive Turn where
  | type (index : Nat)
  | member (index : Nat)
  | constant (index : Nat)
  | parameter (index : Nat)
  | statement (index : Nat)
  | thenBranch
  | elseBranch
  | condition
  | value
  | target
  | receiver
  | left
  | right
  | argument (index : Nat)
  deriving DecidableEq, Repr

/-- The last turn stands first. -/
abbrev Place := List Turn

structure Located (α : Type) where
  place : Place
  item : α

inductive Visit where
  | type (declaration : Located TypeDeclaration)
  | constructor (method : Located MethodDeclaration)

namespace Visit

def type? : Visit → Option (Located TypeDeclaration)
  | .type declaration => some declaration
  | .constructor _ => none

def constructor? : Visit → Option (Located MethodDeclaration)
  | .type _ => none
  | .constructor method => some method

/-- The constructors among some visits, in their order. -/
def constructors (visits : List Visit) : List (Located MethodDeclaration) :=
  visits.filterMap constructor?

def types (visits : List Visit) : List (Located TypeDeclaration) :=
  visits.filterMap type?

@[simp] theorem constructors_nil : constructors [] = [] := rfl

@[simp] theorem constructors_cons_type (declaration : Located TypeDeclaration)
    (visits : List Visit) : constructors (.type declaration :: visits) = constructors visits := rfl

@[simp] theorem constructors_cons_constructor (method : Located MethodDeclaration)
    (visits : List Visit) :
    constructors (.constructor method :: visits) = method :: constructors visits := rfl

@[simp] theorem constructors_append (left right : List Visit) :
    constructors (left ++ right) = constructors left ++ constructors right :=
  List.filterMap_append

theorem mem_types (visits : List Visit) (declaration : Located TypeDeclaration) :
    declaration ∈ types visits ↔ .type declaration ∈ visits := by
  rw [types, List.mem_filterMap]
  constructor
  · rintro ⟨visit, visited, same⟩
    cases visit with
    | type head =>
        cases same
        exact visited
    | constructor method => cases same
  · intro visited
    exact ⟨.type declaration, visited, rfl⟩

end Visit

mutual

def Statement.visits (place : Place) : Statement → List Visit
  | .block statements => Statement.visitsFrom place 0 statements
  | .conditional _ thenBranch none => thenBranch.visits (.thenBranch :: place)
  | .conditional _ thenBranch (some elseBranch) =>
      thenBranch.visits (.thenBranch :: place) ++ elseBranch.visits (.elseBranch :: place)
  | .localType declaration => declaration.visits place
  | .expression _ | .result _ | .localVariable _ _ | .thisCall _ | .superCall _ => []

def Statement.visitsFrom (place : Place) (index : Nat) : List Statement → List Visit
  | [] => []
  | statement :: statements =>
      statement.visits (.statement index :: place) ++
        Statement.visitsFrom place (index + 1) statements

def Statement.visitsBody (place : Place) : Option (List Statement) → List Visit
  | none => []
  | some statements => Statement.visitsFrom place 0 statements

/-- The visits that start at a method which is known to be an enum constructor. -/
def MethodDeclaration.visits (place : Place) : MethodDeclaration → List Visit
  | ⟨binding, modifiers, parameters, body⟩ =>
      .constructor ⟨place, ⟨binding, modifiers, parameters, body⟩⟩ ::
        Statement.visitsBody place body

def Member.visits (place : Place) : Member → List Visit
  | .method method => if method.binding.isEnumConstructor then method.visits place else []
  | .type declaration => declaration.visits place
  | .field _ | .native _ => []

def Member.visitsFrom (place : Place) (index : Nat) : List Member → List Visit
  | [] => []
  | member :: members =>
      member.visits (.member index :: place) ++ Member.visitsFrom place (index + 1) members

def TypeDeclaration.visits (place : Place) : TypeDeclaration → List Visit
  | .ofClass ⟨binding, members, initializers⟩ =>
      .type ⟨place, .ofClass ⟨binding, members, initializers⟩⟩ ::
        Member.visitsFrom place 0 members
  | .ofEnum ⟨binding, constants, members, initializers⟩ =>
      .type ⟨place, .ofEnum ⟨binding, constants, members, initializers⟩⟩ ::
        Member.visitsFrom place 0 members

end

def TypeDeclaration.visitsFrom (index : Nat) : List TypeDeclaration → List Visit
  | [] => []
  | declaration :: declarations =>
      declaration.visits [.type index] ++ TypeDeclaration.visitsFrom (index + 1) declarations

namespace CompilationUnit

def visits (compilationUnit : CompilationUnit) : List Visit :=
  TypeDeclaration.visitsFrom 0 compilationUnit.types

/-- The enum constructors that lowering reaches, in pre-order. -/
def visitedConstructors (compilationUnit : CompilationUnit) : List (Located MethodDeclaration) :=
  Visit.constructors compilationUnit.visits

def visitedTypes (compilationUnit : CompilationUnit) : List (Located TypeDeclaration) :=
  Visit.types compilationUnit.visits

end CompilationUnit

/-! Calls of other constructors that stand in a body itself, at any depth of
blocks and branches but not inside a local type. -/

inductive Callee where
  | sibling
  | superclass
  deriving DecidableEq, Repr

structure ForwardingCall where
  callee : Callee
  call : ConstructorCall

mutual

def Statement.calls (place : Place) : Statement → List (Located ForwardingCall)
  | .thisCall call => [⟨place, .sibling, call⟩]
  | .superCall call => [⟨place, .superclass, call⟩]
  | .block statements => Statement.callsFrom place 0 statements
  | .conditional _ thenBranch none => thenBranch.calls (.thenBranch :: place)
  | .conditional _ thenBranch (some elseBranch) =>
      thenBranch.calls (.thenBranch :: place) ++ elseBranch.calls (.elseBranch :: place)
  | .expression _ | .result _ | .localVariable _ _ | .localType _ => []

def Statement.callsFrom (place : Place) (index : Nat) :
    List Statement → List (Located ForwardingCall)
  | [] => []
  | statement :: statements =>
      statement.calls (.statement index :: place) ++
        Statement.callsFrom place (index + 1) statements

end

/-- The calls in the body of the constructor at `place`. -/
def MethodDeclaration.calls (place : Place) (method : MethodDeclaration) :
    List (Located ForwardingCall) :=
  Statement.callsFrom place 0 (method.body.getD [])

/-! How many enum constructors a node holds that lowering would reach. -/

mutual

def Statement.constructorCount : Statement → Nat
  | .block statements => Statement.constructorCounts statements
  | .conditional _ thenBranch none => thenBranch.constructorCount
  | .conditional _ thenBranch (some elseBranch) =>
      thenBranch.constructorCount + elseBranch.constructorCount
  | .localType declaration => declaration.constructorCount
  | .expression _ | .result _ | .localVariable _ _ | .thisCall _ | .superCall _ => 0

def Statement.constructorCounts : List Statement → Nat
  | [] => 0
  | statement :: statements =>
      statement.constructorCount + Statement.constructorCounts statements

def Statement.constructorCountBody : Option (List Statement) → Nat
  | none => 0
  | some statements => Statement.constructorCounts statements

def MethodDeclaration.constructorCount : MethodDeclaration → Nat
  | ⟨_, _, _, body⟩ => 1 + Statement.constructorCountBody body

def Member.constructorCount : Member → Nat
  | .method method => if method.binding.isEnumConstructor then method.constructorCount else 0
  | .type declaration => declaration.constructorCount
  | .field _ | .native _ => 0

def Member.constructorCounts : List Member → Nat
  | [] => 0
  | member :: members => member.constructorCount + Member.constructorCounts members

def TypeDeclaration.constructorCount : TypeDeclaration → Nat
  | .ofClass ⟨_, members, _⟩ => Member.constructorCounts members
  | .ofEnum ⟨_, _, members, _⟩ => Member.constructorCounts members

end

mutual

theorem Statement.length_constructors_visits (place : Place) (statement : Statement) :
    (Visit.constructors (statement.visits place)).length = statement.constructorCount := by
  cases statement with
  | block statements =>
      simpa only [Statement.visits, Statement.constructorCount] using
        Statement.length_constructors_visits_from place 0 statements
  | conditional condition thenBranch elseBranch =>
      have thenLength := thenBranch.length_constructors_visits (.thenBranch :: place)
      cases elseBranch with
      | none => simpa only [Statement.visits, Statement.constructorCount] using thenLength
      | some elseBranch =>
          have elseLength := elseBranch.length_constructors_visits (.elseBranch :: place)
          simp only [Statement.visits, Statement.constructorCount, Visit.constructors_append,
            List.length_append, thenLength, elseLength]
  | localType declaration =>
      simpa only [Statement.visits, Statement.constructorCount] using
        declaration.length_constructors_visits place
  | expression value => rfl
  | result value => rfl
  | localVariable binding initializer => rfl
  | thisCall call => rfl
  | superCall call => rfl

theorem Statement.length_constructors_visits_from (place : Place) (index : Nat)
    (statements : List Statement) :
    (Visit.constructors (Statement.visitsFrom place index statements)).length =
      Statement.constructorCounts statements := by
  cases statements with
  | nil => rfl
  | cons statement statements =>
      simp only [Statement.visitsFrom, Statement.constructorCounts, Visit.constructors_append,
        List.length_append, statement.length_constructors_visits,
        Statement.length_constructors_visits_from place (index + 1) statements]

theorem MethodDeclaration.length_constructors_visits (place : Place)
    (method : MethodDeclaration) :
    (Visit.constructors (method.visits place)).length = method.constructorCount := by
  obtain ⟨binding, modifiers, parameters, body⟩ := method
  cases body with
  | none => rfl
  | some statements =>
      simp only [MethodDeclaration.visits, Statement.visitsBody,
        MethodDeclaration.constructorCount, Statement.constructorCountBody,
        Visit.constructors_cons_constructor, List.length_cons,
        Statement.length_constructors_visits_from place 0 statements]
      omega

theorem Member.length_constructors_visits (place : Place) (member : Member) :
    (Visit.constructors (member.visits place)).length = member.constructorCount := by
  cases member with
  | method method =>
      have length := method.length_constructors_visits place
      by_cases constructor : method.binding.isEnumConstructor
      · simpa only [Member.visits, Member.constructorCount, if_pos constructor] using length
      · simp only [Member.visits, Member.constructorCount, if_neg constructor,
          Visit.constructors_nil, List.length_nil]
  | type declaration =>
      simpa only [Member.visits, Member.constructorCount] using
        declaration.length_constructors_visits place
  | field declaration => rfl
  | native block => rfl

theorem Member.length_constructors_visits_from (place : Place) (index : Nat)
    (members : List Member) :
    (Visit.constructors (Member.visitsFrom place index members)).length =
      Member.constructorCounts members := by
  cases members with
  | nil => rfl
  | cons member members =>
      simp only [Member.visitsFrom, Member.constructorCounts, Visit.constructors_append,
        List.length_append, member.length_constructors_visits,
        Member.length_constructors_visits_from place (index + 1) members]

theorem TypeDeclaration.length_constructors_visits (place : Place)
    (declaration : TypeDeclaration) :
    (Visit.constructors (declaration.visits place)).length = declaration.constructorCount := by
  rcases declaration with ⟨⟨binding, members, initializers⟩⟩ |
    ⟨⟨binding, constants, members, initializers⟩⟩ <;>
  simpa only [TypeDeclaration.visits, TypeDeclaration.constructorCount,
    Visit.constructors_cons_type] using Member.length_constructors_visits_from place 0 members

end

/-! The visited constructors are the enum constructors among the members of the
visited types. -/

/-- The constructor is a member of one of the visited types, and its place is there. -/
def Visit.Declares (visits : List Visit) (method : Located MethodDeclaration) : Prop :=
  ∃ declaration ∈ types visits, ∃ index,
    declaration.item.members[index]? = some (.method method.item) ∧
      method.item.binding.isEnumConstructor ∧ method.place = .member index :: declaration.place

theorem Visit.declares_append (left right : List Visit) (method : Located MethodDeclaration) :
    Declares (left ++ right) method ↔ Declares left method ∨ Declares right method := by
  simp only [Declares, types, List.filterMap_append, List.mem_append, or_and_right, exists_or]

theorem Visit.declares_cons_constructor (head method : Located MethodDeclaration)
    (visits : List Visit) :
    Declares (.constructor head :: visits) method ↔ Declares visits method := Iff.rfl

theorem Visit.not_declares_nil (method : Located MethodDeclaration) : ¬ Declares [] method := by
  rintro ⟨declaration, member, _⟩
  cases member

theorem Visit.declares_cons_type (head : Located TypeDeclaration) (visits : List Visit)
    (method : Located MethodDeclaration) :
    Declares (.type head :: visits) method ↔
      (∃ index, head.item.members[index]? = some (.method method.item) ∧
        method.item.binding.isEnumConstructor ∧ method.place = .member index :: head.place) ∨
      Declares visits method := by
  have split : types (.type head :: visits) = head :: types visits := rfl
  simp only [Declares, split, List.mem_cons, or_and_right, exists_or, exists_eq_left]

mutual

theorem Statement.mem_constructors_visits (place : Place) (statement : Statement)
    (method : Located MethodDeclaration) :
    method ∈ Visit.constructors (statement.visits place) ↔
      Visit.Declares (statement.visits place) method := by
  cases statement with
  | block statements =>
      rw [Statement.visits]
      exact Statement.mem_constructors_visits_from place 0 statements method
  | conditional condition thenBranch elseBranch =>
      have inThen := thenBranch.mem_constructors_visits (.thenBranch :: place) method
      cases elseBranch with
      | none =>
          rw [Statement.visits]
          exact inThen
      | some elseBranch =>
          have inElse := elseBranch.mem_constructors_visits (.elseBranch :: place) method
          rw [Statement.visits, Visit.constructors_append, List.mem_append,
            Visit.declares_append, inThen, inElse]
  | localType declaration =>
      rw [Statement.visits]
      exact declaration.mem_constructors_visits place method
  | expression value => exact iff_of_false List.not_mem_nil (Visit.not_declares_nil method)
  | result value => exact iff_of_false List.not_mem_nil (Visit.not_declares_nil method)
  | localVariable binding initializer =>
      exact iff_of_false List.not_mem_nil (Visit.not_declares_nil method)
  | thisCall call => exact iff_of_false List.not_mem_nil (Visit.not_declares_nil method)
  | superCall call => exact iff_of_false List.not_mem_nil (Visit.not_declares_nil method)

theorem Statement.mem_constructors_visits_from (place : Place) (index : Nat)
    (statements : List Statement) (method : Located MethodDeclaration) :
    method ∈ Visit.constructors (Statement.visitsFrom place index statements) ↔
      Visit.Declares (Statement.visitsFrom place index statements) method := by
  cases statements with
  | nil => exact iff_of_false List.not_mem_nil (Visit.not_declares_nil method)
  | cons statement statements =>
      rw [Statement.visitsFrom, Visit.constructors_append, List.mem_append, Visit.declares_append,
        statement.mem_constructors_visits,
        Statement.mem_constructors_visits_from place (index + 1) statements]

theorem MethodDeclaration.mem_constructors_visits (place : Place) (declared : MethodDeclaration)
    (method : Located MethodDeclaration) :
    method ∈ Visit.constructors (declared.visits place) ↔
      method = ⟨place, declared⟩ ∨ Visit.Declares (declared.visits place) method := by
  obtain ⟨binding, modifiers, parameters, body⟩ := declared
  rw [MethodDeclaration.visits, Visit.constructors_cons_constructor, List.mem_cons,
    Visit.declares_cons_constructor]
  cases body with
  | none =>
      rw [Statement.visitsBody, Visit.constructors_nil]
      simp only [List.not_mem_nil, Visit.not_declares_nil]
  | some statements =>
      rw [Statement.visitsBody, Statement.mem_constructors_visits_from place 0 statements]

theorem Member.mem_constructors_visits (place : Place) (member : Member)
    (method : Located MethodDeclaration) :
    method ∈ Visit.constructors (member.visits place) ↔
      (member = .method method.item ∧ method.item.binding.isEnumConstructor ∧
        method.place = place) ∨
      Visit.Declares (member.visits place) method := by
  cases member with
  | method declared =>
      have inMethod := declared.mem_constructors_visits place method
      rw [Member.visits]
      by_cases constructor : declared.binding.isEnumConstructor
      · rw [if_pos constructor, inMethod]
        refine or_congr ⟨?_, ?_⟩ Iff.rfl
        · rintro rfl
          exact ⟨rfl, constructor, rfl⟩
        · rintro ⟨same, _, there⟩
          cases same
          cases method
          cases there
          rfl
      · rw [if_neg constructor]
        refine iff_of_false List.not_mem_nil ?_
        rintro (⟨same, isConstructor, _⟩ | declares)
        · cases same
          exact constructor isConstructor
        · exact Visit.not_declares_nil method declares
  | type declaration =>
      have inType := declaration.mem_constructors_visits place method
      simp only [Member.visits, inType, reduceCtorEq, false_and, false_or]
  | field declaration =>
      simp only [Member.visits, Visit.constructors_nil, Visit.not_declares_nil,
        List.not_mem_nil, reduceCtorEq, false_and, or_false]
  | native block =>
      simp only [Member.visits, Visit.constructors_nil, Visit.not_declares_nil,
        List.not_mem_nil, reduceCtorEq, false_and, or_false]

/-- A list of members holds constructors of its own besides those of its types. -/
theorem Member.mem_constructors_visits_from (place : Place) (start : Nat) (members : List Member)
    (method : Located MethodDeclaration) :
    method ∈ Visit.constructors (Member.visitsFrom place start members) ↔
      (∃ index, members[index]? = some (.method method.item) ∧
        method.item.binding.isEnumConstructor ∧
          method.place = .member (start + index) :: place) ∨
      Visit.Declares (Member.visitsFrom place start members) method := by
  cases members with
  | nil =>
      simp only [Member.visitsFrom, Visit.constructors_nil, Visit.not_declares_nil,
        List.not_mem_nil, List.getElem?_nil, reduceCtorEq, false_and, exists_false, or_false]
  | cons member members =>
      have inHead := member.mem_constructors_visits (.member start :: place) method
      have inTail := Member.mem_constructors_visits_from place (start + 1) members method
      have shifted (index : Nat) : start + 1 + index = start + (index + 1) := by omega
      rw [Member.visitsFrom, Visit.constructors_append, List.mem_append, Visit.declares_append,
        ← Nat.or_exists_add_one, inHead, inTail]
      simp only [List.getElem?_cons_zero, List.getElem?_cons_succ, Option.some.injEq,
        Nat.add_zero, shifted]
      exact or_or_or_comm

theorem TypeDeclaration.mem_constructors_visits (place : Place) (declaration : TypeDeclaration)
    (method : Located MethodDeclaration) :
    method ∈ Visit.constructors (declaration.visits place) ↔
      Visit.Declares (declaration.visits place) method := by
  rcases declaration with ⟨⟨binding, members, initializers⟩⟩ |
    ⟨⟨binding, constants, members, initializers⟩⟩ <;>
  · rw [TypeDeclaration.visits, Visit.constructors_cons_type, Visit.declares_cons_type,
      Member.mem_constructors_visits_from place 0 members]
    simp only [Nat.zero_add, TypeDeclaration.members]

end

theorem TypeDeclaration.mem_constructors_visits_from (index : Nat)
    (declarations : List TypeDeclaration) (method : Located MethodDeclaration) :
    method ∈ Visit.constructors (TypeDeclaration.visitsFrom index declarations) ↔
      Visit.Declares (TypeDeclaration.visitsFrom index declarations) method := by
  induction declarations generalizing index with
  | nil => exact iff_of_false List.not_mem_nil (Visit.not_declares_nil method)
  | cons declaration declarations induction =>
      rw [TypeDeclaration.visitsFrom, Visit.constructors_append, List.mem_append,
        Visit.declares_append, declaration.mem_constructors_visits, induction]

theorem CompilationUnit.mem_visited_constructors (compilationUnit : CompilationUnit)
    (method : Located MethodDeclaration) :
    method ∈ compilationUnit.visitedConstructors ↔
      ∃ declaration ∈ compilationUnit.visitedTypes, ∃ index,
        declaration.item.members[index]? = some (.method method.item) ∧
          method.item.binding.isEnumConstructor ∧
            method.place = .member index :: declaration.place :=
  TypeDeclaration.mem_constructors_visits_from 0 compilationUnit.types method

end EnumLowering
