import EnumLowering.Proofs.ImplicitParameters

/-!
What a failing run leaves behind. Lowering fails only where a constructor finds less
than two identities, and then it stops there. All that comes before that constructor in
the order of the visits is lowered, the constructor and all that follows is as in the
source, and the types and constructors around it are caught halfway: a constructor is
already widened, while an enum is not finished, so it has neither the assignments of
its constants nor its support blocks.
-/

namespace EnumLowering

open IdSupply (last last_toNat)

namespace Outcome

variable {α β : Type}

/-- A step that does not fail. -/
structure Leaves (outcome : Outcome α) (value : α) (later : IdSupply) : Prop where
  noError : outcome.error = none
  value : outcome.value = value
  ids : outcome.ids = later

theorem Leaves.map {outcome : Outcome α} {value : α} {later : IdSupply}
    (leaves : outcome.Leaves value later) (make : α → β) :
    (outcome.map make).Leaves (make value) later :=
  ⟨leaves.noError, congrArg make leaves.value, leaves.ids⟩

theorem Leaves.and_then {first : Outcome α} {value : α} {middle later : IdSupply} {result : β}
    (leaves : first.Leaves value middle) (untouched : α → β) {rest : α → IdSupply → Outcome β}
    (restLeaves : (rest value middle).Leaves result later) :
    (first.andThen untouched rest).Leaves result later := by
  rw [and_then_eq_after untouched rest leaves.noError, leaves.value, leaves.ids]
  exact ⟨restLeaves.noError, restLeaves.value, restLeaves.ids⟩

/-- Two steps in a row fail in the first, which leaves the rest untouched, or in the
second, after the first has left its value. -/
theorem and_then_error {first : Outcome α} {untouched : α → β} {rest : α → IdSupply → Outcome β}
    {error : LoweringError} (failed : (first.andThen untouched rest).error = some error) :
    (first.error = some error ∧
      (first.andThen untouched rest).value = untouched first.value) ∨
    (first.Leaves first.value first.ids ∧
      (rest first.value first.ids).error = some error ∧
        (first.andThen untouched rest).value = (rest first.value first.ids).value) := by
  cases outcome : first.error with
  | some cause =>
      have stopped := and_then_eq_map untouched rest outcome
      rw [stopped] at failed ⊢
      exact Or.inl ⟨outcome.symm.trans failed, rfl⟩
  | none =>
      have wentOn := and_then_eq_after untouched rest outcome
      rw [wentOn] at failed ⊢
      exact Or.inr ⟨⟨outcome, rfl, rfl⟩, failed, rfl⟩

/-- A step that lowers these constructors and does not fail had two identities for
each. -/
theorem Spends.of_leaves {outcome : Outcome α} {ids later : IdSupply}
    {constructors : List (Located MethodDeclaration)} {lowered value : α}
    (spends : outcome.Spends ids constructors lowered) (leaves : outcome.Leaves value later) :
    value = lowered ∧ later.next.toNat = ids.next.toNat + 2 * constructors.length ∧
      later.next.toNat ≤ last.toNat := by
  have fits : ids.next.toNat + 2 * constructors.length ≤ last.toNat := by
    apply Nat.le_of_not_lt
    intro tooShort
    obtain ⟨_, method, _, failure⟩ := spends.short tooShort
    rw [leaves.noError] at failure
    cases failure
  obtain ⟨_, sameValue, next⟩ := spends.enough fits
  rw [leaves.ids] at next
  exact ⟨leaves.value.symm.trans sameValue, next, by omega⟩

end Outcome

/-! The tree that is left, node by node on the way to the failing constructor. The
supply is the one with which the run enters the node. -/

section Stopped

variable (options : Options) (failing : Located MethodDeclaration)

mutual

inductive StoppedStatement : ImplicitVars → Place → IdSupply → Statement → Statement → Prop
  | block {vars : ImplicitVars} {place : Place} {ids : IdSupply}
      {statements stopped : List Statement} :
      StoppedStatements vars place ids statements stopped →
        StoppedStatement vars place ids (.block statements) (.block stopped)
  | thenBranch {vars : ImplicitVars} {place : Place} {ids : IdSupply} {condition : Expression}
      {thenBranch stopped : Statement} {elseBranch : Option Statement} :
      StoppedStatement vars (.thenBranch :: place) ids thenBranch stopped →
        StoppedStatement vars place ids (.conditional condition thenBranch elseBranch)
          (.conditional condition stopped elseBranch)
  | elseBranch {vars : ImplicitVars} {place : Place} {ids later : IdSupply}
      {condition : Expression} {thenBranch lowered elseBranch stopped : Statement} :
      (lowerStatement options ⟨some vars⟩ thenBranch ids).Leaves lowered later →
        StoppedStatement vars (.elseBranch :: place) later elseBranch stopped →
          StoppedStatement vars place ids (.conditional condition thenBranch (some elseBranch))
            (.conditional condition lowered (some stopped))
  | localType {vars : ImplicitVars} {place : Place} {ids : IdSupply}
      {declaration stopped : TypeDeclaration} :
      StoppedType place ids declaration stopped →
        StoppedStatement vars place ids (.localType declaration) (.localType stopped)

inductive StoppedStatements :
    ImplicitVars → Place → IdSupply → List Statement → List Statement → Prop
  | split {vars : ImplicitVars} {place : Place} {ids later : IdSupply}
      {front lowered rest : List Statement} {statement stopped : Statement} :
      (lowerStatements options ⟨some vars⟩ front ids).Leaves lowered later →
        StoppedStatement vars (.statement front.length :: place) later statement stopped →
          StoppedStatements vars place ids (front ++ statement :: rest)
            (lowered ++ stopped :: rest)

inductive StoppedMember : Place → IdSupply → Member → Member → Prop
  /-- The failing constructor finds less than two identities and stays as it is. -/
  | here {place : Place} {ids : IdSupply} {method : MethodDeclaration} :
      failing = ⟨place, method⟩ → method.binding.isEnumConstructor →
        last.toNat < ids.next.toNat + 2 →
          StoppedMember place ids (.method method) (.method method)
  /-- A constructor around the failing one is already widened. -/
  | body {place : Place} {ids later : IdSupply} {vars : ImplicitVars} {binding : MethodBinding}
      {modifiers : Modifiers} {parameters : List VariableBinding}
      {statements stopped : List Statement} :
      binding.isEnumConstructor →
        openConstructor .inactive binding ids = (.ok (vars, ⟨some vars⟩), later) →
          StoppedStatements vars place later statements stopped →
            StoppedMember place ids (.method ⟨binding, modifiers, parameters, some statements⟩)
              (.method
                { binding := binding.lowered
                  modifiers := modifiers.makePrivateSynthetic
                  parameters := parameters ++ vars.parameters
                  body := some stopped })
  | type {place : Place} {ids : IdSupply} {declaration stopped : TypeDeclaration} :
      StoppedType place ids declaration stopped →
        StoppedMember place ids (.type declaration) (.type stopped)

inductive StoppedMembers : Place → IdSupply → List Member → List Member → Prop
  | split {place : Place} {ids later : IdSupply} {front lowered rest : List Member}
      {member stopped : Member} :
      ((lowerMembers options .inactive front ids).map Prod.fst).Leaves lowered later →
        StoppedMember (.member front.length :: place) later member stopped →
          StoppedMembers place ids (front ++ member :: rest) (lowered ++ stopped :: rest)

inductive StoppedType : Place → IdSupply → TypeDeclaration → TypeDeclaration → Prop
  | ofClass {place : Place} {ids : IdSupply} {binding : TypeBinding}
      {members stopped : List Member} {initializers : List Statement} :
      StoppedMembers place ids members stopped →
        StoppedType place ids (.ofClass ⟨binding, members, initializers⟩)
          (.ofClass ⟨binding, stopped, initializers⟩)
  /-- An enum around the failing constructor is not finished. -/
  | ofEnum {place : Place} {ids : IdSupply} {binding : TypeBinding}
      {constants : List EnumConstant} {members stopped : List Member}
      {initializers : List Statement} :
      StoppedMembers place ids members stopped →
        StoppedType place ids (.ofEnum ⟨binding, constants, members, initializers⟩)
          (.ofEnum ⟨binding, constants, stopped, initializers⟩)

end

end Stopped

/-! How a failing run gets there. -/

/-- The error names the constructor at which the run stopped. -/
def LoweringError.BlamesOne (error : LoweringError) (Stopped : Located MethodDeclaration → Prop) :
    Prop :=
  ∃ failing, error = .idsExhausted failing.item.binding.signature ∧ Stopped failing

theorem LoweringError.BlamesOne.imp {error : LoweringError}
    {Stopped Around : Located MethodDeclaration → Prop} (blames : error.BlamesOne Stopped)
    (around : ∀ failing, Stopped failing → Around failing) : error.BlamesOne Around := by
  obtain ⟨failing, named, stopped⟩ := blames
  exact ⟨failing, named, around failing stopped⟩

/-- A list of which the front is lowered on its own, one item is stopped in, and the
rest is untouched. -/
def StoppedWithin {α : Type} (run : List α → IdSupply → Outcome (List α))
    (Stopped : Nat → IdSupply → α → α → Prop) (start : Nat) (ids : IdSupply)
    (items result : List α) : Prop :=
  ∃ front lowered rest item stopped later,
    items = front ++ item :: rest ∧ result = lowered ++ stopped :: rest ∧
      (run front ids).Leaves lowered later ∧ Stopped (start + front.length) later item stopped

/-- The step for a run over a list: it stops in the first item or within the others. -/
theorem stopped_within_cons {α : Type} (one : α → IdSupply → Outcome α)
    {run : List α → IdSupply → Outcome (List α)}
    {Stopped : Located MethodDeclaration → Nat → IdSupply → α → α → Prop} {start : Nat}
    {item : α} {items : List α} {ids : IdSupply} {error : LoweringError}
    (nil : run [] ids = .unchanged [] ids)
    (cons : ∀ items, run (item :: items) ids =
      (one item ids).andThen (· :: items) fun item ids => (run items ids).map (item :: ·))
    (head : (one item ids).error = some error →
      error.BlamesOne fun failing => Stopped failing start ids item (one item ids).value)
    (tail : ∀ later, (run items later).error = some error →
      error.BlamesOne fun failing =>
        StoppedWithin run (Stopped failing) (start + 1) later items (run items later).value)
    (failed : (run (item :: items) ids).error = some error) :
    error.BlamesOne fun failing =>
      StoppedWithin run (Stopped failing) start ids (item :: items)
        (run (item :: items) ids).value := by
  rw [cons items] at failed ⊢
  rcases Outcome.and_then_error failed with ⟨inHead, value⟩ | ⟨leaves, inTail, value⟩
  · rw [value]
    apply (head inHead).imp
    intro failing stopped
    exact ⟨[], [], items, item, _, ids, rfl, rfl, by rw [nil]; exact ⟨rfl, rfl, rfl⟩, stopped⟩
  · rw [value]
    apply (tail _ inTail).imp
    rintro failing ⟨front, lowered, rest, reached, stopped, later, same, result, frontLeaves,
      inside⟩
    have position : start + 1 + front.length = start + (item :: front).length := by
      rw [List.length_cons]
      omega
    refine ⟨item :: front, (one item ids).value :: lowered, rest, reached, stopped, later,
      congrArg (item :: ·) same, congrArg ((one item ids).value :: ·) result, ?_, ?_⟩
    · rw [cons front]
      exact leaves.and_then _ (frontLeaves.map _)
    · rw [← position]
      exact inside

theorem StoppedStatements.of_within {options : Options} {failing : Located MethodDeclaration}
    {vars : ImplicitVars} {place : Place} {ids : IdSupply} {statements stopped : List Statement}
    (within : StoppedWithin (lowerStatements options ⟨some vars⟩)
      (fun index => StoppedStatement options failing vars (.statement index :: place)) 0 ids
        statements stopped) :
    StoppedStatements options failing vars place ids statements stopped := by
  obtain ⟨front, lowered, rest, reached, halfway, later, rfl, rfl, leaves, inside⟩ := within
  rw [Nat.zero_add] at inside
  exact .split leaves inside

theorem StoppedMembers.of_within {options : Options} {failing : Located MethodDeclaration}
    {place : Place} {ids : IdSupply} {members stopped : List Member}
    (within : StoppedWithin
      (fun members ids => (lowerMembers options .inactive members ids).map Prod.fst)
      (fun index => StoppedMember options failing (.member index :: place)) 0 ids
        members stopped) :
    StoppedMembers options failing place ids members stopped := by
  obtain ⟨front, lowered, rest, reached, halfway, later, rfl, rfl, leaves, inside⟩ := within
  rw [Nat.zero_add] at inside
  exact .split leaves inside

theorem context_lower_member (options : Options) (member : Member) (ids : IdSupply)
    (noError : (lowerMember options .inactive member ids).error = none) :
    (lowerMember options .inactive member ids).value.2 = .inactive := by
  have leaves : (lowerMember options .inactive member ids).Leaves _ _ := ⟨noError, rfl, rfl⟩
  rw [((lower_member_spends options [] member ids).of_leaves leaves).1]

/-- A member leaves the context inactive for the next one. -/
theorem lower_members_cons (options : Options) (member : Member) (members : List Member)
    (ids : IdSupply) :
    (lowerMembers options .inactive (member :: members) ids).map Prod.fst =
      ((lowerMember options .inactive member ids).map Prod.fst).andThen (· :: members)
        fun member ids =>
          ((lowerMembers options .inactive members ids).map Prod.fst).map (member :: ·) := by
  rw [lowerMembers]
  cases outcome : (lowerMember options .inactive member ids).error with
  | some error => simp only [Outcome.andThen, Outcome.map, outcome]
  | none =>
      have inactive := context_lower_member options member ids outcome
      simp only [Outcome.andThen, Outcome.map, Outcome.after, outcome, inactive]

mutual

theorem lower_statement_stops (options : Options) (vars : ImplicitVars) (place : Place)
    (statement : Statement) (ids : IdSupply) (error : LoweringError)
    (failed : (lowerStatement options ⟨some vars⟩ statement ids).error = some error) :
    error.BlamesOne fun failing =>
      StoppedStatement options failing vars place ids statement
        (lowerStatement options ⟨some vars⟩ statement ids).value := by
  cases statement with
  | thisCall call => cases failed
  | superCall call => cases failed
  | block statements =>
      rw [lowerStatement] at failed ⊢
      apply (lower_statements_stops options vars place 0 statements ids error failed).imp
      intro failing within
      exact .block (.of_within within)
  | conditional condition thenBranch elseBranch =>
      cases elseBranch with
      | none =>
          rw [lowerStatement] at failed ⊢
          apply (lower_statement_stops options vars (.thenBranch :: place) thenBranch ids error
            failed).imp
          intro failing inside
          exact .thenBranch inside
      | some elseBranch =>
          rw [lowerStatement] at failed ⊢
          rcases Outcome.and_then_error failed with ⟨inThen, value⟩ | ⟨leaves, inElse, value⟩
          · rw [value]
            apply (lower_statement_stops options vars (.thenBranch :: place) thenBranch ids error
              inThen).imp
            intro failing inside
            exact .thenBranch inside
          · rw [value]
            apply (lower_statement_stops options vars (.elseBranch :: place) elseBranch _ error
              inElse).imp
            intro failing inside
            exact .elseBranch leaves inside
  | localType declaration =>
      rw [lowerStatement] at failed ⊢
      apply (lower_type_stops options place declaration ids error failed).imp
      intro failing inside
      exact .localType inside
  | expression value => cases failed
  | result value => cases failed
  | localVariable binding initializer => cases failed

theorem lower_statements_stops (options : Options) (vars : ImplicitVars) (place : Place)
    (start : Nat) (statements : List Statement) (ids : IdSupply) (error : LoweringError)
    (failed : (lowerStatements options ⟨some vars⟩ statements ids).error = some error) :
    error.BlamesOne fun failing =>
      StoppedWithin (lowerStatements options ⟨some vars⟩)
        (fun index => StoppedStatement options failing vars (.statement index :: place))
        start ids statements (lowerStatements options ⟨some vars⟩ statements ids).value := by
  cases statements with
  | nil => cases failed
  | cons statement statements =>
      exact stopped_within_cons (lowerStatement options ⟨some vars⟩) rfl
        (fun _ => by rw [lowerStatements])
        (lower_statement_stops options vars (.statement start :: place) statement ids error)
        (fun later => lower_statements_stops options vars place (start + 1) statements later error)
        failed

theorem lower_constructor_stops (options : Options) (place : Place) (method : MethodDeclaration)
    (ids : IdSupply) (error : LoweringError) (constructor : method.binding.isEnumConstructor)
    (failed : (lowerConstructor options .inactive method ids).error = some error) :
    error.BlamesOne fun failing =>
      StoppedMember options failing place ids (.method method)
        (.method (lowerConstructor options .inactive method ids).value.1) := by
  obtain ⟨binding, modifiers, parameters, body⟩ := method
  by_cases enough : ids.next.toNat + 2 ≤ last.toNat
  · obtain ⟨later, opened, _⟩ := open_constructor_enough binding ids constructor enough
    rw [lowerConstructor, opened] at failed ⊢
    cases body with
    | none => cases failed
    | some statements =>
        apply (lower_statements_stops options (.numbered binding ids.next.toNat) place 0 statements
          later error failed).imp
        intro failing within
        exact .body constructor opened (.of_within within)
  · obtain ⟨later, opened, _⟩ :=
      open_constructor_short .inactive binding ids constructor (by omega)
    rw [lowerConstructor, opened] at failed ⊢
    cases failed
    exact ⟨⟨place, binding, modifiers, parameters, body⟩, rfl, .here rfl constructor (by omega)⟩

theorem lower_member_stops (options : Options) (place : Place) (member : Member)
    (ids : IdSupply) (error : LoweringError)
    (failed : (lowerMember options .inactive member ids).error = some error) :
    error.BlamesOne fun failing =>
      StoppedMember options failing place ids member
        (lowerMember options .inactive member ids).value.1 := by
  cases member with
  | method method =>
      by_cases constructor : method.binding.isEnumConstructor
      · rw [lowerMember, if_pos constructor] at failed ⊢
        exact lower_constructor_stops options place method ids error constructor failed
      · rw [lowerMember, if_neg constructor] at failed
        cases failed
  | type declaration =>
      rw [lowerMember] at failed ⊢
      apply (lower_type_stops options place declaration ids error failed).imp
      intro failing inside
      exact .type inside
  | field declaration => cases failed
  | native block => cases failed

theorem lower_members_stops (options : Options) (place : Place) (start : Nat)
    (members : List Member) (ids : IdSupply) (error : LoweringError)
    (failed : ((lowerMembers options .inactive members ids).map Prod.fst).error = some error) :
    error.BlamesOne fun failing =>
      StoppedWithin (fun members ids => (lowerMembers options .inactive members ids).map Prod.fst)
        (fun index => StoppedMember options failing (.member index :: place))
        start ids members ((lowerMembers options .inactive members ids).map Prod.fst).value := by
  cases members with
  | nil => cases failed
  | cons member members =>
      exact stopped_within_cons
        (fun member ids => (lowerMember options .inactive member ids).map Prod.fst) rfl
        (fun members => lower_members_cons options member members ids)
        (lower_member_stops options (.member start :: place) member ids error)
        (fun later => lower_members_stops options place (start + 1) members later error)
        failed

theorem lower_type_stops (options : Options) (place : Place) (declaration : TypeDeclaration)
    (ids : IdSupply) (error : LoweringError)
    (failed : (lowerType options declaration ids).error = some error) :
    error.BlamesOne fun failing =>
      StoppedType options failing place ids declaration
        (lowerType options declaration ids).value := by
  rcases declaration with ⟨⟨binding, members, initializers⟩⟩ |
    ⟨⟨binding, constants, members, initializers⟩⟩
  · rw [lowerType] at failed ⊢
    apply (lower_members_stops options place 0 members ids error failed).imp
    intro failing within
    exact .ofClass (.of_within within)
  · rw [lowerType] at failed ⊢
    rcases Outcome.and_then_error failed with ⟨inMembers, value⟩ | ⟨_, finished, _⟩
    · rw [value]
      apply (lower_members_stops options place 0 members ids error inMembers).imp
      intro failing within
      exact .ofEnum (.of_within within)
    · cases finished

end

theorem lower_types_stops (options : Options) (start : Nat) (declarations : List TypeDeclaration)
    (ids : IdSupply) (error : LoweringError)
    (failed : (lowerTypes options declarations ids).error = some error) :
    error.BlamesOne fun failing =>
      StoppedWithin (lowerTypes options)
        (fun index => StoppedType options failing [.type index])
        start ids declarations (lowerTypes options declarations ids).value := by
  induction declarations generalizing start ids with
  | nil => cases failed
  | cons declaration declarations induction =>
      exact stopped_within_cons (lowerType options) rfl (fun _ => by rw [lowerTypes])
        (lower_type_stops options [.type start] declaration ids error)
        (induction (start + 1)) failed

end EnumLowering
