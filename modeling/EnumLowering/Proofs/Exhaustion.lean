import EnumLowering.Proofs.LoweredForm

/-!
Lowering fails in one way only. Each visited constructor takes two identities, and
the last 32-bit number is never handed out, so a unit is lowered exactly when two
identities for each of its visited constructors are left below that number. If
they are not, the first constructor without its two identities is named, and the
supply is spent to the end. A context never gets in the way: it is inactive
wherever a constructor is entered and active wherever a call hands it on.
-/

namespace EnumLowering

namespace IdSupply

theorem last_toNat : last.toNat = 2 ^ 32 - 1 := rfl

theorem fresh_unspent (supply : IdSupply) (unspent : supply.next.toNat < last.toNat) :
    ∃ later : IdSupply, supply.fresh = (some ⟨supply.next⟩, later) ∧
      later.next.toNat = supply.next.toNat + 1 := by
  have different : supply.next ≠ last := by
    intro same
    rw [same] at unspent
    exact Nat.lt_irrefl _ unspent
  refine ⟨⟨supply.next + 1⟩, by rw [fresh, if_neg different], ?_⟩
  have advanced := supply.next_fresh_toNat different
  rwa [fresh, if_neg different] at advanced

theorem next_eq_last (supply : IdSupply) (spent : last.toNat ≤ supply.next.toNat) :
    supply.next = last := by
  have bound := supply.next.toNat_lt
  have lastValue := last_toNat
  exact UInt32.toNat_inj.mp (by omega)

theorem fresh_spent (supply : IdSupply) (spent : supply.next = last) :
    supply.fresh = (none, supply) := by
  rw [fresh, if_pos spent]

end IdSupply

open IdSupply (last last_toNat)

theorem ImplicitVars.fresh_enough (binding : MethodBinding) (ids : IdSupply)
    (enough : ids.next.toNat + 2 ≤ last.toNat) :
    ∃ later : IdSupply,
      fresh binding.declaringType binding.signature ids =
        (.ok (numbered binding ids.next.toNat), later) ∧
      later.next.toNat = ids.next.toNat + 2 := by
  obtain ⟨middle, nameDrawn, middleNext⟩ := ids.fresh_unspent (by omega)
  obtain ⟨later, ordinalDrawn, laterNext⟩ := middle.fresh_unspent (by omega)
  have nameNumber : ids.next = .ofNat ids.next.toNat := UInt32.ofNat_toNat.symm
  have ordinalNumber : middle.next = .ofNat (ids.next.toNat + 1) := by
    rw [← middleNext, UInt32.ofNat_toNat]
  refine ⟨later, ?_, by omega⟩
  rw [fresh, nameDrawn]
  dsimp only
  rw [ordinalDrawn]
  dsimp only
  rw [numbered, ← nameNumber, ← ordinalNumber]

/-- Both draws are made even when the first one fails, so the supply always ends
at the last number. -/
theorem ImplicitVars.fresh_short (declaringType : TypeBinding) (owner : String) (ids : IdSupply)
    (short : last.toNat < ids.next.toNat + 2) :
    ∃ later : IdSupply,
      fresh declaringType owner ids = (.error (.idsExhausted owner), later) ∧
        later.next = last := by
  by_cases spent : ids.next = last
  · refine ⟨ids, ?_, spent⟩
    rw [fresh, ids.fresh_spent spent]
    dsimp only
    rw [ids.fresh_spent spent]
  · have unspent : ids.next.toNat < last.toNat := by
      apply Nat.lt_of_not_le
      intro reached
      exact spent (ids.next_eq_last reached)
    obtain ⟨middle, nameDrawn, middleNext⟩ := ids.fresh_unspent unspent
    have middleLast : middle.next = last := middle.next_eq_last (by omega)
    refine ⟨middle, ?_, middleLast⟩
    rw [fresh, nameDrawn]
    dsimp only
    rw [middle.fresh_spent middleLast]

namespace Outcome

variable {α β : Type}

/-- A step that lowers these constructors in their order, and leaves `value` if
the supply has two identities for each. -/
structure Spends (outcome : Outcome α) (ids : IdSupply)
    (constructors : List (Located MethodDeclaration)) (value : α) : Prop where
  enough : ids.next.toNat + 2 * constructors.length ≤ last.toNat →
    outcome.error = none ∧ outcome.value = value ∧
      outcome.ids.next.toNat = ids.next.toNat + 2 * constructors.length
  short : last.toNat < ids.next.toNat + 2 * constructors.length →
    outcome.ids.next = last ∧
      ∃ method, constructors[(last.toNat - ids.next.toNat) / 2]? = some method ∧
        outcome.error = some (.idsExhausted method.item.binding.signature)

/-- A step that neither fails nor draws an identity. -/
theorem spends_nothing {outcome : Outcome α} {ids : IdSupply} (noError : outcome.error = none)
    (kept : outcome.ids = ids) : outcome.Spends ids [] outcome.value where
  enough _ := ⟨noError, rfl, by rw [kept]; rfl⟩
  short tooShort := by
    have bound := ids.next.toNat_lt
    have lastValue := last_toNat
    rw [List.length_nil] at tooShort
    omega

theorem spends_unchanged (value : α) (ids : IdSupply) :
    (unchanged value ids).Spends ids [] value :=
  spends_nothing rfl rfl

theorem Spends.map {outcome : Outcome α} {ids : IdSupply}
    {constructors : List (Located MethodDeclaration)} {value : α}
    (spends : outcome.Spends ids constructors value) (make : α → β) :
    (outcome.map make).Spends ids constructors (make value) where
  enough fits := by
    obtain ⟨noError, lowered, next⟩ := spends.enough fits
    exact ⟨noError, congrArg make lowered, next⟩
  short tooShort := spends.short tooShort

theorem Spends.after {outcome : Outcome α} {ids : IdSupply}
    {constructors : List (Located MethodDeclaration)} {value : α}
    (spends : outcome.Spends ids constructors value) (work : Work) :
    (outcome.after work).Spends ids constructors value where
  enough fits := spends.enough fits
  short tooShort := spends.short tooShort

theorem and_then_eq_after {first : Outcome α} (untouched : α → β) (rest : α → IdSupply → Outcome β)
    (noError : first.error = none) :
    first.andThen untouched rest = (rest first.value first.ids).after first.work := by
  rw [andThen, noError]

theorem and_then_eq_map {first : Outcome α} (untouched : α → β) (rest : α → IdSupply → Outcome β)
    {error : LoweringError} (failed : first.error = some error) :
    first.andThen untouched rest = first.map untouched := by
  rw [andThen, failed]

/-- A second step starts where the supply of the first one ends. When the first
one runs short the second is never reached, and the constructor named is among
those of the first. -/
theorem Spends.and_then {first : Outcome α} {ids : IdSupply}
    {constructors others : List (Located MethodDeclaration)} {value : α} {result : β}
    (spends : first.Spends ids constructors value) (untouched : α → β)
    (rest : α → IdSupply → Outcome β)
    (restSpends : ∀ later : IdSupply,
      later.next.toNat = ids.next.toNat + 2 * constructors.length →
        (rest value later).Spends later others result) :
    (first.andThen untouched rest).Spends ids (constructors ++ others) result := by
  constructor
  · intro fits
    rw [List.length_append] at fits ⊢
    obtain ⟨noError, lowered, next⟩ := spends.enough (by omega)
    rw [and_then_eq_after untouched rest noError, lowered]
    obtain ⟨restNoError, restLowered, restNext⟩ := (restSpends first.ids next).enough (by omega)
    exact ⟨restNoError, restLowered, by rw [Nat.mul_add, ← Nat.add_assoc, ← next]; exact restNext⟩
  · intro tooShort
    rw [List.length_append] at tooShort
    by_cases fits : ids.next.toNat + 2 * constructors.length ≤ last.toNat
    · obtain ⟨noError, lowered, next⟩ := spends.enough fits
      obtain ⟨spent, method, named, failure⟩ := (restSpends first.ids next).short (by omega)
      rw [and_then_eq_after untouched rest noError, lowered]
      refine ⟨spent, method, ?_, failure⟩
      -- counted from the start, the named constructor stands behind those of the first step
      rw [List.getElem?_append_right (by omega), ← named]
      congr 1
      omega
    · obtain ⟨spent, method, named, failure⟩ := spends.short (by omega)
      have inside := (List.getElem?_eq_some_iff.mp named).1
      rw [and_then_eq_map untouched rest failure]
      exact ⟨spent, method, by rw [List.getElem?_append_left inside]; exact named, failure⟩

end Outcome

/-- Opening a constructor from an inactive context succeeds when two identities
are left. -/
theorem open_constructor_enough (binding : MethodBinding) (ids : IdSupply)
    (constructor : binding.isEnumConstructor) (enough : ids.next.toNat + 2 ≤ last.toNat) :
    ∃ later : IdSupply,
      openConstructor .inactive binding ids =
        (.ok (.numbered binding ids.next.toNat, ⟨some (.numbered binding ids.next.toNat)⟩), later) ∧
      later.next.toNat = ids.next.toNat + 2 := by
  obtain ⟨later, drawn, next⟩ := ImplicitVars.fresh_enough binding ids enough
  refine ⟨later, ?_, next⟩
  rw [openConstructor, if_pos constructor, drawn]
  rfl

theorem open_constructor_short (context : Context) (binding : MethodBinding) (ids : IdSupply)
    (constructor : binding.isEnumConstructor) (short : last.toNat < ids.next.toNat + 2) :
    ∃ later : IdSupply,
      openConstructor context binding ids =
        (.error (.idsExhausted binding.signature), later) ∧ later.next = last := by
  obtain ⟨later, drawn, spent⟩ :=
    ImplicitVars.fresh_short binding.declaringType binding.signature ids short
  refine ⟨later, ?_, spent⟩
  rw [openConstructor, if_pos constructor, drawn]

/-- A constructor takes its own two identities first; its body follows with the
context that holds them. -/
theorem lower_constructor_spends_of_body (options : Options) (place : Place)
    (binding : MethodBinding) (modifiers : Modifiers) (parameters : List VariableBinding)
    (body : Option (List Statement)) (ids : IdSupply) (constructor : binding.isEnumConstructor)
    (bodySpends : ∀ later : IdSupply, later.next.toNat = ids.next.toNat + 2 →
      (lowerBody options ⟨some (.numbered binding ids.next.toNat)⟩ body later).Spends later
        (Visit.constructors (Statement.visitsBody place body))
        (loweredBody options (.numbered binding ids.next.toNat) (ids.next.toNat + 2) body)) :
    (lowerConstructor options .inactive ⟨binding, modifiers, parameters, body⟩ ids).Spends ids
      (Visit.constructors
        (MethodDeclaration.visits place ⟨binding, modifiers, parameters, body⟩))
      (loweredConstructor options ids.next.toNat ⟨binding, modifiers, parameters, body⟩,
        .inactive) := by
  rw [MethodDeclaration.visits, Visit.constructors_cons_constructor]
  constructor
  · intro fits
    rw [List.length_cons] at fits ⊢
    obtain ⟨later, opened, next⟩ := open_constructor_enough binding ids constructor (by omega)
    obtain ⟨noError, lowered, bodyNext⟩ := (bodySpends later next).enough (by omega)
    rw [lowerConstructor, opened]
    refine ⟨noError, ?_, by dsimp only [Outcome.after, Outcome.map]; omega⟩
    dsimp only [Outcome.after, Outcome.map]
    rw [lowered]
    rfl
  · intro tooShort
    rw [List.length_cons] at tooShort
    by_cases fits : ids.next.toNat + 2 ≤ last.toNat
    · obtain ⟨later, opened, next⟩ := open_constructor_enough binding ids constructor fits
      obtain ⟨spent, method, named, failure⟩ := (bodySpends later next).short (by omega)
      have position : (last.toNat - ids.next.toNat) / 2 =
          (last.toNat - later.next.toNat) / 2 + 1 := by omega
      rw [lowerConstructor, opened, position, List.getElem?_cons_succ]
      exact ⟨spent, method, named, failure⟩
    · obtain ⟨later, opened, spent⟩ :=
        open_constructor_short .inactive binding ids constructor (by omega)
      have position : (last.toNat - ids.next.toNat) / 2 = 0 := by omega
      rw [lowerConstructor, opened, position]
      exact ⟨spent, _, rfl, rfl⟩

theorem lower_call_spends (vars : ImplicitVars) (call : ConstructorCall) (ids : IdSupply) :
    (lowerCall ⟨some vars⟩ call ids).Spends ids [] (call.handOn vars) :=
  Outcome.spends_nothing rfl rfl

mutual

theorem lower_statement_spends (options : Options) (vars : ImplicitVars) (place : Place)
    (statement : Statement) (ids : IdSupply) :
    (lowerStatement options ⟨some vars⟩ statement ids).Spends ids
      (Visit.constructors (statement.visits place))
      (loweredStatement options vars ids.next.toNat statement) := by
  cases statement with
  | thisCall call =>
      rw [lowerStatement]
      exact (lower_call_spends vars call ids).map _
  | superCall call =>
      rw [lowerStatement]
      exact (lower_call_spends vars call ids).map _
  | block statements =>
      rw [lowerStatement, Statement.visits]
      exact (lower_statements_spends options vars place 0 statements ids).map _
  | conditional condition thenBranch elseBranch =>
      have thenSpends :=
        lower_statement_spends options vars (.thenBranch :: place) thenBranch ids
      cases elseBranch with
      | none =>
          rw [lowerStatement, Statement.visits]
          exact thenSpends.map _
      | some elseBranch =>
          rw [lowerStatement, Statement.visits, Visit.constructors_append]
          apply thenSpends.and_then
          intro later next
          -- the same variables are active, but the supply is what the first branch left
          have elseSpends :=
            lower_statement_spends options vars (.elseBranch :: place) elseBranch later
          rw [next, thenBranch.length_constructors_visits] at elseSpends
          exact elseSpends.map _
  | localType declaration =>
      rw [lowerStatement, Statement.visits]
      exact (lower_type_spends options place declaration ids).map _
  | expression value => exact Outcome.spends_unchanged _ ids
  | result value => exact Outcome.spends_unchanged _ ids
  | localVariable binding initializer => exact Outcome.spends_unchanged _ ids

theorem lower_statements_spends (options : Options) (vars : ImplicitVars) (place : Place)
    (index : Nat) (statements : List Statement) (ids : IdSupply) :
    (lowerStatements options ⟨some vars⟩ statements ids).Spends ids
      (Visit.constructors (Statement.visitsFrom place index statements))
      (loweredStatements options vars ids.next.toNat statements) := by
  cases statements with
  | nil => exact Outcome.spends_unchanged [] ids
  | cons statement statements =>
      have headSpends :=
        lower_statement_spends options vars (.statement index :: place) statement ids
      rw [lowerStatements, Statement.visitsFrom, Visit.constructors_append]
      apply headSpends.and_then
      intro later next
      have tailSpends :=
        lower_statements_spends options vars place (index + 1) statements later
      rw [next, statement.length_constructors_visits] at tailSpends
      exact tailSpends.map _

theorem lower_constructor_spends (options : Options) (place : Place) (method : MethodDeclaration)
    (ids : IdSupply) (constructor : method.binding.isEnumConstructor) :
    (lowerConstructor options .inactive method ids).Spends ids
      (Visit.constructors (method.visits place))
      (loweredConstructor options ids.next.toNat method, .inactive) := by
  obtain ⟨binding, modifiers, parameters, body⟩ := method
  apply lower_constructor_spends_of_body options place binding modifiers parameters body ids
    constructor
  intro later next
  cases body with
  | none => exact Outcome.spends_unchanged none later
  | some statements =>
      have statementsSpend := lower_statements_spends options
        (.numbered binding ids.next.toNat) place 0 statements later
      rw [next] at statementsSpend
      exact statementsSpend.map some

theorem lower_member_spends (options : Options) (place : Place) (member : Member)
    (ids : IdSupply) :
    (lowerMember options .inactive member ids).Spends ids
      (Visit.constructors (member.visits place))
      (loweredMember options ids.next.toNat member, .inactive) := by
  cases member with
  | method method =>
      by_cases constructor : method.binding.isEnumConstructor
      · have methodSpends := lower_constructor_spends options place method ids constructor
        rw [lowerMember, Member.visits, loweredMember, if_pos constructor, if_pos constructor,
          if_pos constructor]
        exact methodSpends.map _
      · rw [lowerMember, Member.visits, loweredMember, if_neg constructor, if_neg constructor,
          if_neg constructor]
        exact Outcome.spends_unchanged _ ids
  | type declaration =>
      rw [lowerMember, Member.visits]
      exact (lower_type_spends options place declaration ids).map _
  | field declaration => exact Outcome.spends_unchanged _ ids
  | native block => exact Outcome.spends_unchanged _ ids

theorem lower_members_spends (options : Options) (place : Place) (index : Nat)
    (members : List Member) (ids : IdSupply) :
    (lowerMembers options .inactive members ids).Spends ids
      (Visit.constructors (Member.visitsFrom place index members))
      (loweredMembers options ids.next.toNat members, .inactive) := by
  cases members with
  | nil => exact Outcome.spends_unchanged _ ids
  | cons member members =>
      have headSpends := lower_member_spends options (.member index :: place) member ids
      rw [lowerMembers, Member.visitsFrom, Visit.constructors_append]
      apply headSpends.and_then
      intro later next
      have tailSpends := lower_members_spends options place (index + 1) members later
      rw [next, member.length_constructors_visits] at tailSpends
      exact tailSpends.map _

theorem lower_type_spends (options : Options) (place : Place) (declaration : TypeDeclaration)
    (ids : IdSupply) :
    (lowerType options declaration ids).Spends ids
      (Visit.constructors (declaration.visits place))
      (loweredType options ids.next.toNat declaration) := by
  rcases declaration with ⟨⟨binding, members, initializers⟩⟩ |
    ⟨⟨binding, constants, members, initializers⟩⟩
  · rw [lowerType, TypeDeclaration.visits, Visit.constructors_cons_type]
    exact (lower_members_spends options place 0 members ids).map _
  · have membersSpend := lower_members_spends options place 0 members ids
    rw [lowerType, TypeDeclaration.visits, Visit.constructors_cons_type, ← List.append_nil
      (Visit.constructors (Member.visitsFrom place 0 members))]
    apply membersSpend.and_then
    intro later _
    exact (Outcome.spends_unchanged _ later).after _

end

theorem lower_types_spends (options : Options) (index : Nat) (declarations : List TypeDeclaration)
    (ids : IdSupply) :
    (lowerTypes options declarations ids).Spends ids
      (Visit.constructors (TypeDeclaration.visitsFrom index declarations))
      (loweredTypes options ids.next.toNat declarations) := by
  induction declarations generalizing index ids with
  | nil => exact Outcome.spends_unchanged [] ids
  | cons declaration declarations induction =>
      have headSpends := lower_type_spends options [.type index] declaration ids
      rw [lowerTypes, TypeDeclaration.visitsFrom, Visit.constructors_append]
      apply headSpends.and_then
      intro later next
      have tailSpends := induction (index + 1) later
      rw [next, declaration.length_constructors_visits] at tailSpends
      exact tailSpends.map _

namespace CompilationUnit

theorem lower_enums_spends (options : Options) (source : CompilationUnit) :
    (source.lowerEnums options).Spends ⟨source.nextVarId⟩ source.visitedConstructors
      { source with
        types := loweredTypes options source.nextVarId.toNat source.types
        nextVarId := (source.lowerEnums options).ids.next } := by
  let withTypes (types : List TypeDeclaration) : CompilationUnit :=
    { source with types, nextVarId := (source.lowerEnums options).ids.next }
  exact (lower_types_spends options 0 source.types ⟨source.nextVarId⟩).map withTypes

@[simp] theorem next_var_id_lower_enums (options : Options) (source : CompilationUnit) :
    (source.lowerEnums options).value.nextVarId = (source.lowerEnums options).ids.next := rfl

theorem lower_enums_error_eq_none_iff (options : Options) (source : CompilationUnit) :
    (source.lowerEnums options).error = none ↔
      source.nextVarId.toNat + 2 * source.visitedConstructors.length ≤ 2 ^ 32 - 1 := by
  have spends := lower_enums_spends options source
  constructor
  · intro noError
    apply Nat.le_of_not_lt
    intro tooShort
    obtain ⟨_, method, _, failure⟩ := spends.short (by rw [last_toNat]; exact tooShort)
    rw [noError] at failure
    cases failure
  · intro fits
    exact (spends.enough (by rw [last_toNat]; exact fits)).1

/-- A run that does not fail leaves the lowered form of every type. -/
theorem types_lower_enums (options : Options) (source : CompilationUnit)
    (succeeds : (source.lowerEnums options).error = none) :
    (source.lowerEnums options).value.types =
      loweredTypes options source.nextVarId.toNat source.types := by
  have fits := (lower_enums_error_eq_none_iff options source).mp succeeds
  obtain ⟨_, lowered, _⟩ :=
    (lower_enums_spends options source).enough (by rw [last_toNat]; exact fits)
  rw [lowered]

theorem next_var_id_of_success (options : Options) (source : CompilationUnit)
    (succeeds : (source.lowerEnums options).error = none) :
    (source.lowerEnums options).value.nextVarId.toNat =
      source.nextVarId.toNat + 2 * source.visitedConstructors.length := by
  have fits := (lower_enums_error_eq_none_iff options source).mp succeeds
  exact ((lower_enums_spends options source).enough (by rw [last_toNat]; exact fits)).2.2

/-- A unit is lowered exactly when the supply has two identities for each visited
constructor, and then they are all that is drawn. Otherwise the supply is drawn to
its end, and the error names the constructor that found less than two left. -/
theorem lowerEnums_succeeds_iff_ids_suffice (options : Options) (source : CompilationUnit) :
    ((source.lowerEnums options).error = none ↔
      source.nextVarId.toNat + 2 * source.visitedConstructors.length ≤ 2 ^ 32 - 1) ∧
    ((source.lowerEnums options).error = none →
      (source.lowerEnums options).value.nextVarId.toNat =
        source.nextVarId.toNat + 2 * source.visitedConstructors.length) ∧
    ∀ error, (source.lowerEnums options).error = some error →
      (source.lowerEnums options).value.nextVarId.toNat = 2 ^ 32 - 1 ∧
        ∃ method,
          source.visitedConstructors[(2 ^ 32 - 1 - source.nextVarId.toNat) / 2]? = some method ∧
            error = .idsExhausted method.item.binding.signature := by
  refine ⟨lower_enums_error_eq_none_iff options source, next_var_id_of_success options source, ?_⟩
  intro error failed
  have tooShort : last.toNat <
      source.nextVarId.toNat + 2 * source.visitedConstructors.length := by
    apply Nat.lt_of_not_le
    intro fits
    have noError := (lower_enums_error_eq_none_iff options source).mpr fits
    rw [failed] at noError
    cases noError
  obtain ⟨spent, method, named, failure⟩ := (lower_enums_spends options source).short tooShort
  refine ⟨?_, method, named, ?_⟩
  · rw [next_var_id_lower_enums, spent, last_toNat]
  · rw [failed] at failure
    exact Option.some.inj failure

end CompilationUnit

/-! A small unit on which runs are shown: the first constructor of `Color` declares
a local enum, and calls its sibling after it. -/

namespace Sample

def color : TypeBinding := .topLevel .enumType none "Color"

def shade : TypeBinding := .topLevel .enumType none "Shade"

def base : TypeBinding := .topLevel .classType (some "java.lang") "Enum"

def superCall : Statement := .superCall ⟨.constructorOf base [], []⟩

/-- `enum Shade { DARK; Shade() { super(); } }` -/
def shadeEnum : TypeDeclaration :=
  .ofEnum
    { binding := shade
      constants := [⟨.field ⟨1⟩ "DARK" shade shade, .constructorOf shade [], []⟩]
      members := [.method (.ofBinding (.constructorOf shade []) [] [superCall])]
      initializers := [] }

/-- `Color() { if (true) enum Shade else { this(7); } }` -/
def plainConstructor : MethodDeclaration :=
  .ofBinding (.constructorOf color []) []
    [.conditional (.boolean true) (.localType shadeEnum)
      (some (.block [.thisCall ⟨.constructorOf color [Known.intType], [.number 7]⟩]))]

/-- `Color(int level) { super(); }` -/
def levelConstructor : MethodDeclaration :=
  .ofBinding (.constructorOf color [Known.intType])
    [.parameter ⟨2⟩ "level" Known.intType color] [superCall]

def colorEnum : EnumDeclaration :=
  { binding := color
    constants := [⟨.field ⟨0⟩ "RED" color color, .constructorOf color [], []⟩]
    members := [.method plainConstructor, .method levelConstructor]
    initializers := [] }

def palette (nextVarId : UInt32) : CompilationUnit :=
  .ofTypes [.ofEnum colorEnum] nextVarId

end Sample

/-- With three identities left, `Color()` takes two and the local enum in its body
finds one. -/
theorem Sample.palette_runs_out :
    ((Sample.palette 0xFFFFFFFC).lowerEnums {}).error =
        some (.idsExhausted (MethodBinding.constructorOf Sample.shade []).signature) ∧
      ((Sample.palette 0xFFFFFFFC).lowerEnums {}).value.nextVarId = last := by
  obtain ⟨succeedsIff, _, failing⟩ :=
    (Sample.palette 0xFFFFFFFC).lowerEnums_succeeds_iff_ids_suffice {}
  cases outcome : ((Sample.palette 0xFFFFFFFC).lowerEnums {}).error with
  | none => exact absurd (succeedsIff.mp outcome) (by decide)
  | some error =>
      obtain ⟨next, method, named, same⟩ := failing error outcome
      cases named
      exact ⟨congrArg some same, UInt32.toNat_inj.mp next⟩

end EnumLowering
