import EnumLowering.Proofs.Interruption
import Mathlib.Algebra.GroupWithZero.Nat

/-!
What a run counts. The counts of a run that does not fail can be read off the visits
of its source: an enum counts where its type is visited, a constructor where it is
visited, and a call with the constructor whose body holds it. The walk counts a call
when it meets it, so inside a body the calls met so far stand beside the visits.
-/

namespace EnumLowering

attribute [ext] Stats

namespace Stats

variable (left right : Stats)

@[simp] theorem enums_add : (left + right).enums = left.enums + right.enums := rfl

@[simp] theorem constructors_add :
    (left + right).constructors = left.constructors + right.constructors := rfl

@[simp] theorem forwarding_calls_add :
    (left + right).forwardingCalls = left.forwardingCalls + right.forwardingCalls := rfl

@[simp] theorem constants_add : (left + right).constants = left.constants + right.constants := rfl

/-- The counts of a step that does nothing. -/
theorem add_nothing (stats : Stats) : stats + {} = stats := rfl

end Stats

namespace Visit

def enum? : Visit → Option (Located EnumDeclaration)
  | .type ⟨place, .ofEnum declaration⟩ => some ⟨place, declaration⟩
  | .type ⟨_, .ofClass _⟩ | .constructor _ => none

/-- The enums among some visits, in their order. -/
def enums (visits : List Visit) : List (Located EnumDeclaration) := visits.filterMap enum?

@[simp] theorem enums_cons_class (place : Place) (declaration : ClassDeclaration)
    (visits : List Visit) : enums (.type ⟨place, .ofClass declaration⟩ :: visits) = enums visits :=
  rfl

@[simp] theorem enums_cons_enum (place : Place) (declaration : EnumDeclaration)
    (visits : List Visit) :
    enums (.type ⟨place, .ofEnum declaration⟩ :: visits) = ⟨place, declaration⟩ :: enums visits :=
  rfl

@[simp] theorem enums_cons_constructor (method : Located MethodDeclaration)
    (visits : List Visit) : enums (.constructor method :: visits) = enums visits := rfl

@[simp] theorem enums_append (left right : List Visit) :
    enums (left ++ right) = enums left ++ enums right :=
  List.filterMap_append

/-- The counts of a run over some visits. -/
def stats (visits : List Visit) : Stats where
  enums := (enums visits).length
  constructors := (constructors visits).length
  forwardingCalls :=
    ((constructors visits).map fun method => (method.item.calls method.place).length).sum
  constants := ((enums visits).map fun declaration => declaration.item.constants.length).sum

theorem stats_append (left right : List Visit) :
    stats (left ++ right) = stats left + stats right := by
  ext <;> simp [stats]

theorem stats_cons_class (place : Place) (declaration : ClassDeclaration) (visits : List Visit) :
    stats (.type ⟨place, .ofClass declaration⟩ :: visits) = stats visits := rfl

theorem stats_cons_enum (place : Place) (declaration : EnumDeclaration) (visits : List Visit) :
    stats (.type ⟨place, .ofEnum declaration⟩ :: visits) =
      stats visits + { enums := 1, constants := declaration.constants.length } := by
  ext <;> simp [stats, Nat.add_comm]

/-- The visits inside a body and the calls that belong to the body itself. -/
def bodyStats (visits : List Visit) (calls : List (Located ForwardingCall)) : Stats :=
  stats visits + { forwardingCalls := calls.length }

theorem body_stats_append (visits laterVisits : List Visit)
    (calls laterCalls : List (Located ForwardingCall)) :
    bodyStats (visits ++ laterVisits) (calls ++ laterCalls) =
      bodyStats visits calls + bodyStats laterVisits laterCalls := by
  rw [bodyStats, bodyStats, bodyStats, stats_append, List.length_append]
  ext
  case forwardingCalls =>
    simp only [Stats.forwarding_calls_add]
    omega
  all_goals simp

theorem body_stats_no_calls (visits : List Visit) : bodyStats visits [] = stats visits :=
  Stats.add_nothing _

theorem stats_cons_constructor (method : Located MethodDeclaration) (visits : List Visit) :
    stats (.constructor method :: visits) =
      { constructors := 1 } + bodyStats visits (method.item.calls method.place) := by
  ext <;> simp [stats, bodyStats, Nat.add_comm]

end Visit

namespace Outcome

variable {α β : Type}

/-- Unless the step fails, its work has these counts. -/
def Counts (outcome : Outcome α) (stats : Stats) : Prop :=
  outcome.error = none → outcome.work.stats = stats

theorem counts_unchanged (value : α) (ids : IdSupply) : (unchanged value ids).Counts {} :=
  fun _ => rfl

theorem counts_failed (value : α) (ids : IdSupply) (error : LoweringError) (stats : Stats) :
    (failed value ids error).Counts stats := by
  intro noError
  cases noError

theorem Counts.map {outcome : Outcome α} {stats : Stats} (counts : outcome.Counts stats)
    (make : α → β) : (outcome.map make).Counts stats :=
  counts

theorem Counts.after {outcome : Outcome α} {stats : Stats} (counts : outcome.Counts stats)
    (work : Work) : (outcome.after work).Counts (work.stats + stats) := by
  intro noError
  exact congrArg (work.stats + ·) (counts noError)

theorem Counts.and_then {first : Outcome α} {stats others : Stats} (counts : first.Counts stats)
    (untouched : α → β) {rest : α → IdSupply → Outcome β}
    (restCounts : (rest first.value first.ids).Counts others) :
    (first.andThen untouched rest).Counts (stats + others) := by
  cases outcome : first.error with
  | some error =>
      intro noError
      rw [and_then_eq_map untouched rest outcome] at noError
      cases outcome.symm.trans noError
  | none =>
      rw [and_then_eq_after untouched rest outcome, ← counts outcome]
      exact restCounts.after first.work

end Outcome

theorem lower_call_counts (context : Context) (call : ConstructorCall) (ids : IdSupply) :
    (lowerCall context call ids).Counts { forwardingCalls := 1 } := by
  rw [lowerCall]
  cases call.forward context with
  | ok forwarded => exact fun _ => rfl
  | error error => exact Outcome.counts_failed call ids error _

/-- A constructor counts itself and then what its body counts. -/
theorem lower_constructor_counts_of_body (options : Options) (context : Context) (place : Place)
    (binding : MethodBinding) (modifiers : Modifiers) (parameters : List VariableBinding)
    (body : Option (List Statement)) (ids : IdSupply)
    (bodyCounts : ∀ entered later, (lowerBody options entered body later).Counts
      (Visit.bodyStats (Statement.visitsBody place body)
        (Statement.callsFrom place 0 (body.getD [])))) :
    (lowerConstructor options context ⟨binding, modifiers, parameters, body⟩ ids).Counts
      (Visit.stats (MethodDeclaration.visits place ⟨binding, modifiers, parameters, body⟩)) := by
  rw [lowerConstructor, MethodDeclaration.visits, Visit.stats_cons_constructor]
  cases openConstructor context binding ids with
  | mk opened later =>
      cases opened with
      | error error => exact Outcome.counts_failed _ later error _
      | ok entered => exact ((bodyCounts entered.2 later).map _).after (constructorWork binding)

-- The context does not matter: where it is the wrong one, the step fails.
mutual

theorem lower_statement_counts (options : Options) (context : Context) (place : Place)
    (statement : Statement) (ids : IdSupply) :
    (lowerStatement options context statement ids).Counts
      (Visit.bodyStats (statement.visits place) (statement.calls place)) := by
  cases statement with
  | thisCall call =>
      rw [lowerStatement]
      exact (lower_call_counts context call ids).map _
  | superCall call =>
      rw [lowerStatement]
      exact (lower_call_counts context call ids).map _
  | block statements =>
      rw [lowerStatement, Statement.visits, Statement.calls]
      exact (lower_statements_counts options context place 0 statements ids).map _
  | conditional condition thenBranch elseBranch =>
      have thenCounts :=
        lower_statement_counts options context (.thenBranch :: place) thenBranch ids
      cases elseBranch with
      | none =>
          rw [lowerStatement, Statement.visits, Statement.calls]
          exact thenCounts.map _
      | some elseBranch =>
          rw [lowerStatement, Statement.visits, Statement.calls, Visit.body_stats_append]
          apply thenCounts.and_then
          exact (lower_statement_counts options context (.elseBranch :: place) elseBranch _).map _
  | localType declaration =>
      rw [lowerStatement, Statement.visits, Statement.calls, Visit.body_stats_no_calls]
      exact (lower_type_counts options place declaration ids).map _
  | expression value => exact Outcome.counts_unchanged _ ids
  | result value => exact Outcome.counts_unchanged _ ids
  | localVariable binding initializer => exact Outcome.counts_unchanged _ ids

theorem lower_statements_counts (options : Options) (context : Context) (place : Place)
    (index : Nat) (statements : List Statement) (ids : IdSupply) :
    (lowerStatements options context statements ids).Counts
      (Visit.bodyStats (Statement.visitsFrom place index statements)
        (Statement.callsFrom place index statements)) := by
  cases statements with
  | nil => exact Outcome.counts_unchanged [] ids
  | cons statement statements =>
      have headCounts :=
        lower_statement_counts options context (.statement index :: place) statement ids
      rw [lowerStatements, Statement.visitsFrom, Statement.callsFrom, Visit.body_stats_append]
      apply headCounts.and_then
      exact (lower_statements_counts options context place (index + 1) statements _).map _

theorem lower_constructor_counts (options : Options) (context : Context) (place : Place)
    (method : MethodDeclaration) (ids : IdSupply) :
    (lowerConstructor options context method ids).Counts (Visit.stats (method.visits place)) := by
  obtain ⟨binding, modifiers, parameters, body⟩ := method
  apply lower_constructor_counts_of_body
  intro entered later
  cases body with
  | none => exact Outcome.counts_unchanged none later
  | some statements =>
      exact (lower_statements_counts options entered place 0 statements later).map some

theorem lower_member_counts (options : Options) (context : Context) (place : Place)
    (member : Member) (ids : IdSupply) :
    (lowerMember options context member ids).Counts (Visit.stats (member.visits place)) := by
  cases member with
  | method method =>
      by_cases constructor : method.binding.isEnumConstructor
      · have methodCounts := lower_constructor_counts options context place method ids
        rw [lowerMember, Member.visits, if_pos constructor, if_pos constructor]
        exact methodCounts.map _
      · rw [lowerMember, Member.visits, if_neg constructor, if_neg constructor]
        exact Outcome.counts_unchanged _ ids
  | type declaration =>
      rw [lowerMember, Member.visits]
      exact (lower_type_counts options place declaration ids).map _
  | field declaration => exact Outcome.counts_unchanged _ ids
  | native block => exact Outcome.counts_unchanged _ ids

theorem lower_members_counts (options : Options) (context : Context) (place : Place)
    (index : Nat) (members : List Member) (ids : IdSupply) :
    (lowerMembers options context members ids).Counts
      (Visit.stats (Member.visitsFrom place index members)) := by
  cases members with
  | nil => exact Outcome.counts_unchanged _ ids
  | cons member members =>
      have headCounts := lower_member_counts options context (.member index :: place) member ids
      rw [lowerMembers, Member.visitsFrom, Visit.stats_append]
      apply headCounts.and_then
      exact (lower_members_counts options _ place (index + 1) members _).map _

theorem lower_type_counts (options : Options) (place : Place) (declaration : TypeDeclaration)
    (ids : IdSupply) :
    (lowerType options declaration ids).Counts (Visit.stats (declaration.visits place)) := by
  rcases declaration with ⟨⟨binding, members, initializers⟩⟩ |
    ⟨⟨binding, constants, members, initializers⟩⟩
  · rw [lowerType, TypeDeclaration.visits, Visit.stats_cons_class]
    exact (lower_members_counts options .inactive place 0 members ids).map _
  · have membersCount := lower_members_counts options .inactive place 0 members ids
    rw [lowerType, TypeDeclaration.visits, Visit.stats_cons_enum]
    apply membersCount.and_then
    exact (Outcome.counts_unchanged _ _).after _

end

theorem lower_types_counts (options : Options) (index : Nat) (declarations : List TypeDeclaration)
    (ids : IdSupply) :
    (lowerTypes options declarations ids).Counts
      (Visit.stats (TypeDeclaration.visitsFrom index declarations)) := by
  induction declarations generalizing index ids with
  | nil => exact Outcome.counts_unchanged [] ids
  | cons declaration declarations induction =>
      have headCounts := lower_type_counts options [.type index] declaration ids
      rw [lowerTypes, TypeDeclaration.visitsFrom, Visit.stats_append]
      apply headCounts.and_then
      exact (induction (index + 1) _).map _

namespace CompilationUnit

/-- The enums that lowering reaches, in pre-order. -/
def visitedEnums (compilationUnit : CompilationUnit) : List (Located EnumDeclaration) :=
  Visit.enums compilationUnit.visits

theorem stats_lower_enums (options : Options) (source : CompilationUnit)
    (succeeds : (source.lowerEnums options).error = none) :
    (source.lowerEnums options).work.stats = Visit.stats source.visits :=
  lower_types_counts options 0 source.types ⟨source.nextVarId⟩ succeeds

end CompilationUnit

end EnumLowering
