import EnumLowering.Proofs.InterruptedUnit

/-!
Reachability as a relation. It says step by step which types lowering has to reach,
without an order and without a traversal: the types of a unit, the member types of a
reached type, and the local types in the body of an enum constructor that a reached
type declares. The visits list exactly these types, and none of them twice.
-/

namespace EnumLowering

/-- A local type of a statement, at any depth of blocks and branches. The first place
is that of the statement and the second one that of the type. -/
inductive Statement.Declares : Place → Statement → Place → TypeDeclaration → Prop
  | here {place : Place} {declaration : TypeDeclaration} :
      Declares place (.localType declaration) place declaration
  | block {place there : Place} {index : Nat} {statements : List Statement}
      {statement : Statement} {declaration : TypeDeclaration} :
      statements[index]? = some statement →
        Declares (.statement index :: place) statement there declaration →
          Declares place (.block statements) there declaration
  | thenBranch {place there : Place} {condition : Expression} {thenBranch : Statement}
      {elseBranch : Option Statement} {declaration : TypeDeclaration} :
      Declares (.thenBranch :: place) thenBranch there declaration →
        Declares place (.conditional condition thenBranch elseBranch) there declaration
  | elseBranch {place there : Place} {condition : Expression} {thenBranch elseBranch : Statement}
      {declaration : TypeDeclaration} :
      Declares (.elseBranch :: place) elseBranch there declaration →
        Declares place (.conditional condition thenBranch (some elseBranch)) there declaration

/-- A local type in the body of a method at `place`. -/
def MethodDeclaration.DeclaresLocal (place : Place) (method : MethodDeclaration) (there : Place)
    (declaration : TypeDeclaration) : Prop :=
  ∃ statements index statement, method.body = some statements ∧
    statements[index]? = some statement ∧
      Statement.Declares (.statement index :: place) statement there declaration

inductive CompilationUnit.Reaches (compilationUnit : CompilationUnit) :
    Place → TypeDeclaration → Prop
  | topLevel {index : Nat} {declaration : TypeDeclaration} :
      compilationUnit.types[index]? = some declaration →
        Reaches compilationUnit [.type index] declaration
  | memberType {place : Place} {index : Nat} {declaration member : TypeDeclaration} :
      Reaches compilationUnit place declaration →
        declaration.members[index]? = some (.type member) →
          Reaches compilationUnit (.member index :: place) member
  | localType {place there : Place} {index : Nat} {declaration inner : TypeDeclaration}
      {method : MethodDeclaration} :
      Reaches compilationUnit place declaration →
        declaration.members[index]? = some (.method method) →
          method.binding.isEnumConstructor →
            method.DeclaresLocal (.member index :: place) there inner →
              Reaches compilationUnit there inner

/-! All that is reached is visited, together with what is visited from there. -/

theorem Statement.visits_subset_visits_from (place : Place) (start index : Nat)
    (statements : List Statement) (statement : Statement)
    (found : statements[index]? = some statement) :
    statement.visits (.statement (start + index) :: place) ⊆
      Statement.visitsFrom place start statements := by
  induction statements generalizing start index with
  | nil => cases found
  | cons head statements induction =>
      rw [Statement.visitsFrom]
      cases index with
      | zero =>
          cases found
          exact List.subset_append_left _ _
      | succ index =>
          have later := induction (start + 1) index found
          rw [Nat.add_right_comm] at later
          exact List.subset_append_of_subset_right _ later

theorem Member.visits_subset_visits_from (place : Place) (start index : Nat)
    (members : List Member) (member : Member) (found : members[index]? = some member) :
    member.visits (.member (start + index) :: place) ⊆ Member.visitsFrom place start members := by
  induction members generalizing start index with
  | nil => cases found
  | cons head members induction =>
      rw [Member.visitsFrom]
      cases index with
      | zero =>
          cases found
          exact List.subset_append_left _ _
      | succ index =>
          have later := induction (start + 1) index found
          rw [Nat.add_right_comm] at later
          exact List.subset_append_of_subset_right _ later

theorem TypeDeclaration.visits_subset_visits_from (start index : Nat)
    (declarations : List TypeDeclaration) (declaration : TypeDeclaration)
    (found : declarations[index]? = some declaration) :
    declaration.visits [.type (start + index)] ⊆
      TypeDeclaration.visitsFrom start declarations := by
  induction declarations generalizing start index with
  | nil => cases found
  | cons head declarations induction =>
      rw [TypeDeclaration.visitsFrom]
      cases index with
      | zero =>
          cases found
          exact List.subset_append_left _ _
      | succ index =>
          have later := induction (start + 1) index found
          rw [Nat.add_right_comm] at later
          exact List.subset_append_of_subset_right _ later

theorem Statement.Declares.visits_subset {place there : Place} {statement : Statement}
    {declaration : TypeDeclaration}
    (declares : Statement.Declares place statement there declaration) :
    declaration.visits there ⊆ statement.visits place := by
  induction declares with
  | here =>
      rw [Statement.visits]
      exact List.Subset.refl _
  | @block place _ _ _ _ _ found _ induction =>
      rw [Statement.visits]
      have inBlock := Statement.visits_subset_visits_from place 0 _ _ _ found
      rw [Nat.zero_add] at inBlock
      exact List.Subset.trans induction inBlock
  | @thenBranch _ _ _ _ elseBranch _ _ induction =>
      cases elseBranch with
      | none =>
          rw [Statement.visits]
          exact induction
      | some elseBranch =>
          rw [Statement.visits]
          exact List.subset_append_of_subset_left _ induction
  | elseBranch _ induction =>
      rw [Statement.visits]
      exact List.subset_append_of_subset_right _ induction

theorem MethodDeclaration.DeclaresLocal.visits_subset {place there : Place}
    {method : MethodDeclaration} {declaration : TypeDeclaration}
    (declares : method.DeclaresLocal place there declaration) :
    declaration.visits there ⊆ method.visits place := by
  obtain ⟨binding, modifiers, parameters, body⟩ := method
  obtain ⟨statements, index, statement, rfl, found, inside⟩ := declares
  have inBody := Statement.visits_subset_visits_from place 0 index statements statement found
  rw [Nat.zero_add] at inBody
  rw [MethodDeclaration.visits, Statement.visitsBody]
  exact List.subset_cons_of_subset _ (List.Subset.trans inside.visits_subset inBody)

theorem TypeDeclaration.visits_member_subset (place : Place) (declaration : TypeDeclaration)
    (index : Nat) (member : Member) (found : declaration.members[index]? = some member) :
    member.visits (.member index :: place) ⊆ declaration.visits place := by
  rcases declaration with ⟨⟨binding, members, initializers⟩⟩ |
    ⟨⟨binding, constants, members, initializers⟩⟩
  all_goals
    have inMembers := Member.visits_subset_visits_from place 0 index members member found
    rw [Nat.zero_add] at inMembers
    rw [TypeDeclaration.visits]
    exact List.subset_cons_of_subset _ inMembers

theorem CompilationUnit.Reaches.visits_subset {compilationUnit : CompilationUnit} {place : Place}
    {declaration : TypeDeclaration} (reaches : compilationUnit.Reaches place declaration) :
    declaration.visits place ⊆ compilationUnit.visits := by
  induction reaches with
  | topLevel found =>
      have inUnit := TypeDeclaration.visits_subset_visits_from 0 _ _ _ found
      rw [Nat.zero_add] at inUnit
      exact inUnit
  | @memberType place _ _ _ _ found induction =>
      have inType := TypeDeclaration.visits_member_subset place _ _ _ found
      rw [Member.visits] at inType
      exact List.Subset.trans inType induction
  | @localType place _ _ _ _ _ _ found constructor declares induction =>
      have inType := TypeDeclaration.visits_member_subset place _ _ _ found
      rw [Member.visits, if_pos constructor] at inType
      exact List.Subset.trans (List.Subset.trans declares.visits_subset inType) induction

/-! All that is visited is reached. -/

section

variable {compilationUnit : CompilationUnit}

mutual

theorem Statement.reaches_of_mem_visits (place : Place) (statement : Statement)
    (declares : ∀ there inner, Statement.Declares place statement there inner →
      compilationUnit.Reaches there inner)
    (visit : Located TypeDeclaration) (visited : .type visit ∈ statement.visits place) :
    compilationUnit.Reaches visit.place visit.item := by
  cases statement with
  | block statements =>
      rw [Statement.visits] at visited
      refine Statement.reaches_of_mem_visits_from place 0 statements ?_ visit visited
      intro index statement found there inner inside
      rw [Nat.zero_add] at inside
      exact declares there inner (.block found inside)
  | conditional condition thenBranch elseBranch =>
      have inThen := thenBranch.reaches_of_mem_visits (.thenBranch :: place)
        (fun there inner inside => declares there inner (.thenBranch inside)) visit
      cases elseBranch with
      | none =>
          rw [Statement.visits] at visited
          exact inThen visited
      | some elseBranch =>
          have inElse := elseBranch.reaches_of_mem_visits (.elseBranch :: place)
            (fun there inner inside => declares there inner (.elseBranch inside)) visit
          rw [Statement.visits, List.mem_append] at visited
          exact visited.elim inThen inElse
  | localType declaration =>
      rw [Statement.visits] at visited
      exact declaration.reaches_of_mem_visits place (declares place declaration .here) visit visited
  | expression value => cases visited
  | result value => cases visited
  | localVariable binding initializer => cases visited
  | thisCall call => cases visited
  | superCall call => cases visited

theorem Statement.reaches_of_mem_visits_from (place : Place) (start : Nat)
    (statements : List Statement)
    (declares : ∀ (index : Nat) statement, statements[index]? = some statement →
      ∀ there inner,
        Statement.Declares (.statement (start + index) :: place) statement there inner →
          compilationUnit.Reaches there inner)
    (visit : Located TypeDeclaration)
    (visited : .type visit ∈ Statement.visitsFrom place start statements) :
    compilationUnit.Reaches visit.place visit.item := by
  cases statements with
  | nil => cases visited
  | cons statement statements =>
      rw [Statement.visitsFrom, List.mem_append] at visited
      rcases visited with visited | visited
      · exact statement.reaches_of_mem_visits (.statement start :: place)
          (declares 0 statement rfl) visit visited
      · refine Statement.reaches_of_mem_visits_from place (start + 1) statements ?_ visit visited
        intro index later found
        rw [Nat.add_right_comm]
        exact declares (index + 1) later found

theorem Member.reaches_of_mem_visits (place : Place) (declaration : TypeDeclaration)
    (reached : compilationUnit.Reaches place declaration) (index : Nat) (member : Member)
    (found : declaration.members[index]? = some member) (visit : Located TypeDeclaration)
    (visited : .type visit ∈ member.visits (.member index :: place)) :
    compilationUnit.Reaches visit.place visit.item := by
  cases member with
  | method method =>
      obtain ⟨binding, modifiers, parameters, body⟩ := method
      rw [Member.visits] at visited
      by_cases constructor : binding.isEnumConstructor
      · rw [if_pos constructor, MethodDeclaration.visits, List.mem_cons] at visited
        rcases visited with impossible | visited
        · cases impossible
        · cases body with
          | none => cases visited
          | some statements =>
              rw [Statement.visitsBody] at visited
              refine Statement.reaches_of_mem_visits_from (.member index :: place) 0 statements ?_
                visit visited
              intro position statement standing there inner inside
              rw [Nat.zero_add] at inside
              exact .localType reached found constructor
                ⟨statements, position, statement, rfl, standing, inside⟩
      · rw [if_neg constructor] at visited
        cases visited
  | type inner =>
      rw [Member.visits] at visited
      exact inner.reaches_of_mem_visits (.member index :: place)
        (.memberType reached found) visit visited
  | field declaration => cases visited
  | native block => cases visited

/-- The members are taken from some position on. -/
theorem Member.reaches_of_mem_visits_from (place : Place) (declaration : TypeDeclaration)
    (reached : compilationUnit.Reaches place declaration) (start : Nat) (members : List Member)
    (found : ∀ (index : Nat) member, members[index]? = some member →
      declaration.members[start + index]? = some member)
    (visit : Located TypeDeclaration)
    (visited : .type visit ∈ Member.visitsFrom place start members) :
    compilationUnit.Reaches visit.place visit.item := by
  cases members with
  | nil => cases visited
  | cons member members =>
      rw [Member.visitsFrom, List.mem_append] at visited
      rcases visited with visited | visited
      · exact Member.reaches_of_mem_visits place declaration reached start member
          (found 0 member rfl) visit visited
      · refine Member.reaches_of_mem_visits_from place declaration reached (start + 1) members ?_
          visit visited
        intro index later standing
        rw [Nat.add_right_comm]
        exact found (index + 1) later standing

theorem TypeDeclaration.reaches_of_mem_visits (place : Place) (declaration : TypeDeclaration)
    (reached : compilationUnit.Reaches place declaration) (visit : Located TypeDeclaration)
    (visited : .type visit ∈ declaration.visits place) :
    compilationUnit.Reaches visit.place visit.item := by
  rcases declaration with ⟨⟨binding, members, initializers⟩⟩ |
    ⟨⟨binding, constants, members, initializers⟩⟩
  all_goals
    rw [TypeDeclaration.visits, List.mem_cons] at visited
    rcases visited with same | visited
    · cases same
      exact reached
    · refine Member.reaches_of_mem_visits_from place _ reached 0 members ?_ visit visited
      intro index member found
      rw [Nat.zero_add]
      exact found

end

theorem TypeDeclaration.reaches_of_mem_visits_from (start : Nat)
    (declarations : List TypeDeclaration)
    (reached : ∀ (index : Nat) declaration, declarations[index]? = some declaration →
      compilationUnit.Reaches [.type (start + index)] declaration)
    (visit : Located TypeDeclaration)
    (visited : .type visit ∈ TypeDeclaration.visitsFrom start declarations) :
    compilationUnit.Reaches visit.place visit.item := by
  induction declarations generalizing start with
  | nil => cases visited
  | cons declaration declarations induction =>
      rw [TypeDeclaration.visitsFrom, List.mem_append] at visited
      rcases visited with visited | visited
      · exact declaration.reaches_of_mem_visits [.type start]
          (reached 0 declaration rfl) visit visited
      · refine induction (start + 1) ?_ visited
        intro index later found
        rw [Nat.add_right_comm]
        exact reached (index + 1) later found

end

/-- The visited types are the reachable ones. -/
theorem CompilationUnit.mem_visited_types_iff (compilationUnit : CompilationUnit)
    (place : Place) (declaration : TypeDeclaration) :
    ⟨place, declaration⟩ ∈ compilationUnit.visitedTypes ↔
      compilationUnit.Reaches place declaration := by
  rw [visitedTypes, Visit.mem_types]
  constructor
  · intro visited
    refine TypeDeclaration.reaches_of_mem_visits_from 0 compilationUnit.types ?_
      ⟨place, declaration⟩ visited
    intro index declaration found
    rw [Nat.zero_add]
    exact .topLevel found
  · intro reached
    apply reached.visits_subset
    rcases declaration with ⟨⟨binding, members, initializers⟩⟩ |
      ⟨⟨binding, constants, members, initializers⟩⟩
    all_goals exact List.mem_cons_self

/-! No place is visited twice. Two visits in different parts of a node part ways at that
node, and a visit inside a node has a longer place than the node. -/

namespace Visit

theorem nodup_places_append {left right : List Visit} (inLeft : (left.map place).Nodup)
    (inRight : (right.map place).Nodup)
    (apart : ∀ first ∈ left, ∀ second ∈ right, first.place ≠ second.place) :
    ((left ++ right).map place).Nodup := by
  rw [List.map_append, List.nodup_append]
  refine ⟨inLeft, inRight, ?_⟩
  intro there inFirst other inSecond
  obtain ⟨first, firstVisited, rfl⟩ := List.mem_map.mp inFirst
  obtain ⟨second, secondVisited, rfl⟩ := List.mem_map.mp inSecond
  exact apart first firstVisited second secondVisited

theorem nodup_places_cons {head : Visit} {inside : List Visit}
    (inInside : (inside.map place).Nodup)
    (deeper : ∀ visit ∈ inside, ∃ turn, (turn :: head.place) <:+ visit.place) :
    ((head :: inside).map place).Nodup := by
  rw [List.map_cons, List.nodup_cons]
  refine ⟨?_, inInside⟩
  intro again
  obtain ⟨visit, visited, same⟩ := List.mem_map.mp again
  obtain ⟨turn, longer⟩ := deeper visit visited
  have lengths := longer.length_le
  rw [same, List.length_cons] at lengths
  omega

theorem place_ne_of_turn_ne {first second : Visit} {turn other : Turn} {place : Place}
    (different : turn ≠ other) (inFirst : (turn :: place) <:+ first.place)
    (inSecond : (other :: place) <:+ second.place) : first.place ≠ second.place := by
  intro same
  rw [same] at inFirst
  exact not_suffix_of_turn_ne different inFirst inSecond (List.suffix_refl _)

end Visit

mutual

theorem Statement.nodup_places_visits (place : Place) (statement : Statement) :
    ((statement.visits place).map Visit.place).Nodup := by
  cases statement with
  | block statements =>
      rw [Statement.visits]
      exact Statement.nodup_places_visits_from place 0 statements
  | conditional condition thenBranch elseBranch =>
      have inThen := thenBranch.nodup_places_visits (.thenBranch :: place)
      cases elseBranch with
      | none =>
          rw [Statement.visits]
          exact inThen
      | some elseBranch =>
          rw [Statement.visits]
          refine Visit.nodup_places_append inThen
            (elseBranch.nodup_places_visits (.elseBranch :: place)) ?_
          intro first firstVisited second secondVisited
          exact Visit.place_ne_of_turn_ne (by decide)
            (thenBranch.suffix_of_mem_visits _ first firstVisited)
            (elseBranch.suffix_of_mem_visits _ second secondVisited)
  | localType declaration =>
      rw [Statement.visits]
      exact declaration.nodup_places_visits place
  | expression value => exact List.nodup_nil
  | result value => exact List.nodup_nil
  | localVariable binding initializer => exact List.nodup_nil
  | thisCall call => exact List.nodup_nil
  | superCall call => exact List.nodup_nil

theorem Statement.nodup_places_visits_from (place : Place) (start : Nat)
    (statements : List Statement) :
    ((Statement.visitsFrom place start statements).map Visit.place).Nodup := by
  cases statements with
  | nil => exact List.nodup_nil
  | cons statement statements =>
      rw [Statement.visitsFrom]
      refine Visit.nodup_places_append (statement.nodup_places_visits _)
        (Statement.nodup_places_visits_from place (start + 1) statements) ?_
      intro first firstVisited second secondVisited
      obtain ⟨index, later, _, inSecond⟩ :=
        Statement.suffix_of_mem_visits_from place (start + 1) statements second secondVisited
      exact Visit.place_ne_of_turn_ne (by simp; omega)
        (statement.suffix_of_mem_visits _ first firstVisited) inSecond

theorem Member.nodup_places_visits (place : Place) (member : Member) :
    ((member.visits place).map Visit.place).Nodup := by
  cases member with
  | method method =>
      obtain ⟨binding, modifiers, parameters, body⟩ := method
      rw [Member.visits]
      by_cases constructor : binding.isEnumConstructor
      · rw [if_pos constructor, MethodDeclaration.visits]
        cases body with
        | none => exact List.nodup_cons.mpr ⟨List.not_mem_nil, List.nodup_nil⟩
        | some statements =>
            rw [Statement.visitsBody]
            refine Visit.nodup_places_cons
              (Statement.nodup_places_visits_from place 0 statements) ?_
            intro visit visited
            obtain ⟨index, _, _, inside⟩ :=
              Statement.suffix_of_mem_visits_from place 0 statements visit visited
            exact ⟨_, inside⟩
      · rw [if_neg constructor]
        exact List.nodup_nil
  | type declaration =>
      rw [Member.visits]
      exact declaration.nodup_places_visits place
  | field declaration => exact List.nodup_nil
  | native block => exact List.nodup_nil

theorem Member.nodup_places_visits_from (place : Place) (start : Nat) (members : List Member) :
    ((Member.visitsFrom place start members).map Visit.place).Nodup := by
  cases members with
  | nil => exact List.nodup_nil
  | cons member members =>
      rw [Member.visitsFrom]
      refine Visit.nodup_places_append (member.nodup_places_visits _)
        (Member.nodup_places_visits_from place (start + 1) members) ?_
      intro first firstVisited second secondVisited
      obtain ⟨index, later, _, inSecond⟩ :=
        Member.suffix_of_mem_visits_from place (start + 1) members second secondVisited
      exact Visit.place_ne_of_turn_ne (by simp; omega)
        (member.suffix_of_mem_visits _ first firstVisited) inSecond

theorem TypeDeclaration.nodup_places_visits (place : Place) (declaration : TypeDeclaration) :
    ((declaration.visits place).map Visit.place).Nodup := by
  rcases declaration with ⟨⟨binding, members, initializers⟩⟩ |
    ⟨⟨binding, constants, members, initializers⟩⟩
  all_goals
    rw [TypeDeclaration.visits]
    refine Visit.nodup_places_cons (Member.nodup_places_visits_from place 0 members) ?_
    intro visit visited
    obtain ⟨index, _, _, inside⟩ :=
      Member.suffix_of_mem_visits_from place 0 members visit visited
    exact ⟨_, inside⟩

end

theorem TypeDeclaration.nodup_places_visits_from (start : Nat)
    (declarations : List TypeDeclaration) :
    ((TypeDeclaration.visitsFrom start declarations).map Visit.place).Nodup := by
  induction declarations generalizing start with
  | nil => exact List.nodup_nil
  | cons declaration declarations induction =>
      rw [TypeDeclaration.visitsFrom]
      refine Visit.nodup_places_append (declaration.nodup_places_visits _)
        (induction (start + 1)) ?_
      intro first firstVisited second secondVisited
      obtain ⟨index, later, _, inSecond⟩ :=
        TypeDeclaration.suffix_of_mem_visits_from (start + 1) declarations second secondVisited
      exact Visit.place_ne_of_turn_ne (by simp; omega)
        (declaration.suffix_of_mem_visits _ first firstVisited) inSecond

end EnumLowering
