import EnumLowering.Proofs.Interruption

/-!
A unit after a failing run, seen through its visits. The constructor at which the run
stopped is the one that the supply could not serve, and it is visited in the same turn
and at the same place as before. A declaration encloses it exactly when the place of
the declaration ends its place, and every enum that does is unfinished.
-/

namespace EnumLowering

open IdSupply (last last_toNat)

/-! Places: a visit inside a node has the place of the node at its end. -/

def Visit.place : Visit → Place
  | .type declaration => declaration.place
  | .constructor method => method.place

mutual

theorem Statement.suffix_of_mem_visits (place : Place) (statement : Statement) (visit : Visit)
    (visited : visit ∈ statement.visits place) : place <:+ visit.place := by
  cases statement with
  | block statements =>
      rw [Statement.visits] at visited
      obtain ⟨index, _, _, inside⟩ :=
        Statement.suffix_of_mem_visits_from place 0 statements visit visited
      exact (List.suffix_cons _ place).trans inside
  | conditional condition thenBranch elseBranch =>
      have inThen := thenBranch.suffix_of_mem_visits (.thenBranch :: place) visit
      cases elseBranch with
      | none =>
          rw [Statement.visits] at visited
          exact (List.suffix_cons _ place).trans (inThen visited)
      | some elseBranch =>
          have inElse := elseBranch.suffix_of_mem_visits (.elseBranch :: place) visit
          rw [Statement.visits, List.mem_append] at visited
          rcases visited with visited | visited
          · exact (List.suffix_cons _ place).trans (inThen visited)
          · exact (List.suffix_cons _ place).trans (inElse visited)
  | localType declaration =>
      rw [Statement.visits] at visited
      exact declaration.suffix_of_mem_visits place visit visited
  | expression value => cases visited
  | result value => cases visited
  | localVariable binding initializer => cases visited
  | thisCall call => cases visited
  | superCall call => cases visited

theorem Statement.suffix_of_mem_visits_from (place : Place) (start : Nat)
    (statements : List Statement) (visit : Visit)
    (visited : visit ∈ Statement.visitsFrom place start statements) :
    ∃ index, start ≤ index ∧ index < start + statements.length ∧
      (.statement index :: place) <:+ visit.place := by
  cases statements with
  | nil => cases visited
  | cons statement statements =>
      rw [Statement.visitsFrom, List.mem_append] at visited
      rw [List.length_cons]
      rcases visited with visited | visited
      · have inside := statement.suffix_of_mem_visits (.statement start :: place) visit visited
        exact ⟨start, by omega, by omega, inside⟩
      · obtain ⟨index, lower, upper, inside⟩ :=
          Statement.suffix_of_mem_visits_from place (start + 1) statements visit visited
        exact ⟨index, by omega, by omega, inside⟩

theorem MethodDeclaration.suffix_of_mem_visits (place : Place) (method : MethodDeclaration)
    (visit : Visit) (visited : visit ∈ method.visits place) : place <:+ visit.place := by
  obtain ⟨binding, modifiers, parameters, body⟩ := method
  rw [MethodDeclaration.visits, List.mem_cons] at visited
  rcases visited with rfl | visited
  · exact List.suffix_refl place
  · cases body with
    | none => cases visited
    | some statements =>
        obtain ⟨index, _, _, inside⟩ :=
          Statement.suffix_of_mem_visits_from place 0 statements visit visited
        exact (List.suffix_cons _ place).trans inside

theorem Member.suffix_of_mem_visits (place : Place) (member : Member) (visit : Visit)
    (visited : visit ∈ member.visits place) : place <:+ visit.place := by
  cases member with
  | method method =>
      have inMethod := method.suffix_of_mem_visits place visit
      rw [Member.visits] at visited
      by_cases constructor : method.binding.isEnumConstructor
      · rw [if_pos constructor] at visited
        exact inMethod visited
      · rw [if_neg constructor] at visited
        cases visited
  | type declaration =>
      rw [Member.visits] at visited
      exact declaration.suffix_of_mem_visits place visit visited
  | field declaration => cases visited
  | native block => cases visited

theorem Member.suffix_of_mem_visits_from (place : Place) (start : Nat) (members : List Member)
    (visit : Visit) (visited : visit ∈ Member.visitsFrom place start members) :
    ∃ index, start ≤ index ∧ index < start + members.length ∧
      (.member index :: place) <:+ visit.place := by
  cases members with
  | nil => cases visited
  | cons member members =>
      rw [Member.visitsFrom, List.mem_append] at visited
      rw [List.length_cons]
      rcases visited with visited | visited
      · have inside := member.suffix_of_mem_visits (.member start :: place) visit visited
        exact ⟨start, by omega, by omega, inside⟩
      · obtain ⟨index, lower, upper, inside⟩ :=
          Member.suffix_of_mem_visits_from place (start + 1) members visit visited
        exact ⟨index, by omega, by omega, inside⟩

theorem TypeDeclaration.suffix_of_mem_visits (place : Place) (declaration : TypeDeclaration)
    (visit : Visit) (visited : visit ∈ declaration.visits place) : place <:+ visit.place := by
  rcases declaration with ⟨⟨binding, members, initializers⟩⟩ |
    ⟨⟨binding, constants, members, initializers⟩⟩ <;>
  · rw [TypeDeclaration.visits, List.mem_cons] at visited
    rcases visited with rfl | visited
    · exact List.suffix_refl place
    · obtain ⟨index, _, _, inside⟩ :=
        Member.suffix_of_mem_visits_from place 0 members visit visited
      exact (List.suffix_cons _ place).trans inside

end

theorem TypeDeclaration.suffix_of_mem_visits_from (start : Nat)
    (declarations : List TypeDeclaration) (visit : Visit)
    (visited : visit ∈ TypeDeclaration.visitsFrom start declarations) :
    ∃ index, start ≤ index ∧ index < start + declarations.length ∧
      [.type index] <:+ visit.place := by
  induction declarations generalizing start with
  | nil => cases visited
  | cons declaration declarations induction =>
      rw [TypeDeclaration.visitsFrom, List.mem_append] at visited
      rw [List.length_cons]
      rcases visited with visited | visited
      · have inside := declaration.suffix_of_mem_visits [.type start] visit visited
        exact ⟨start, by omega, by omega, inside⟩
      · obtain ⟨index, lower, upper, inside⟩ := induction (start + 1) visited
        exact ⟨index, by omega, by omega, inside⟩

/-- After a different turn there is no way back to the same node. -/
theorem not_suffix_of_turn_ne {turn other : Turn} {place visited reached : Place}
    (different : turn ≠ other) (inVisited : (turn :: place) <:+ visited)
    (inReached : (other :: place) <:+ reached) : ¬ visited <:+ reached := by
  intro encloses
  have sameTurn := (List.suffix_of_suffix_length_le (inVisited.trans encloses) inReached
    (Nat.le_refl _)).eq_of_length rfl
  exact different (List.cons.inj sameTurn).1

/-- An enum whose members may have changed, one for one, and nothing else. -/
structure EnumDeclaration.Unfinished (source stopped : EnumDeclaration) : Prop where
  binding : stopped.binding = source.binding
  constants : stopped.constants = source.constants
  initializers : stopped.initializers = source.initializers
  memberCount : stopped.members.length = source.members.length
  nativeMembers : stopped.nativeMembers = source.nativeMembers

namespace Visit

/-- The visits of a node before and after a run that enters it with `ids` and stops at
`failing` inside it. -/
structure Stops (failing : Located MethodDeclaration) (ids : IdSupply)
    (before after : List Visit) : Prop where
  named : (constructors before)[(last.toNat - ids.next.toNat) / 2]? = some failing
  kept : (constructors after)[(last.toNat - ids.next.toNat) / 2]? = some failing
  enclosing : ∀ (place : Place) (source : EnumDeclaration),
    .type ⟨place, .ofEnum source⟩ ∈ before → place <:+ failing.place →
      ∃ stopped : EnumDeclaration,
        .type ⟨place, .ofEnum stopped⟩ ∈ after ∧ source.Unfinished stopped

variable {failing : Located MethodDeclaration} {ids later : IdSupply} {before after : List Visit}

theorem Stops.constructor_mem (stops : Stops failing ids before after) :
    .constructor failing ∈ before := by
  obtain ⟨visit, visited, same⟩ := List.mem_filterMap.mp (List.mem_of_getElem? stops.named)
  cases visit with
  | type declaration => cases same
  | constructor method =>
      cases same
      exact visited

/-- Other nodes in front and behind: those in front are lowered and have drawn from the
supply, those behind stay as they are, and none of them is around the constructor. -/
theorem Stops.between {front lowered rest : List Visit}
    (stops : Stops failing later before after)
    (counts : (constructors lowered).length = (constructors front).length)
    (next : later.next.toNat = ids.next.toNat + 2 * (constructors front).length)
    (inRange : later.next.toNat ≤ last.toNat)
    (frontApart : ∀ visit ∈ front, ¬ visit.place <:+ failing.place)
    (restApart : ∀ visit ∈ rest, ¬ visit.place <:+ failing.place) :
    Stops failing ids (front ++ (before ++ rest)) (lowered ++ (after ++ rest)) := by
  have position : (last.toNat - ids.next.toNat) / 2 =
      (constructors front).length + (last.toNat - later.next.toNat) / 2 := by omega
  constructor
  case named =>
    have inside := (List.getElem?_eq_some_iff.mp stops.named).1
    rw [position, constructors_append, constructors_append,
      List.getElem?_append_right (Nat.le_add_right _ _), Nat.add_sub_cancel_left,
      List.getElem?_append_left inside]
    exact stops.named
  case kept =>
    have inside := (List.getElem?_eq_some_iff.mp stops.kept).1
    rw [position, ← counts, constructors_append, constructors_append,
      List.getElem?_append_right (Nat.le_add_right _ _), Nat.add_sub_cancel_left,
      List.getElem?_append_left inside]
    exact stops.kept
  case enclosing =>
    intro place source visited encloses
    rw [List.mem_append, List.mem_append] at visited
    rcases visited with inFront | inside | inRest
    · exact absurd encloses (frontApart _ inFront)
    · obtain ⟨stopped, stoppedVisited, unfinished⟩ :=
        stops.enclosing place source inside encloses
      refine ⟨stopped, ?_, unfinished⟩
      rw [List.mem_append, List.mem_append]
      exact Or.inr (Or.inl stoppedVisited)
    · exact absurd encloses (restApart _ inRest)

/-- A constructor around the failing one is visited first and takes two identities. -/
theorem Stops.cons_constructor {method lowered : Located MethodDeclaration}
    (stops : Stops failing later before after)
    (next : later.next.toNat = ids.next.toNat + 2) (inRange : later.next.toNat ≤ last.toNat) :
    Stops failing ids (.constructor method :: before) (.constructor lowered :: after) := by
  have position : (last.toNat - ids.next.toNat) / 2 =
      (last.toNat - later.next.toNat) / 2 + 1 := by omega
  constructor
  case named =>
    rw [position, constructors_cons_constructor, List.getElem?_cons_succ]
    exact stops.named
  case kept =>
    rw [position, constructors_cons_constructor, List.getElem?_cons_succ]
    exact stops.kept
  case enclosing =>
    intro place source visited encloses
    rcases List.mem_cons.mp visited with head | inside
    · cases head
    · obtain ⟨stopped, stoppedVisited, unfinished⟩ :=
        stops.enclosing place source inside encloses
      exact ⟨stopped, List.mem_cons_of_mem _ stoppedVisited, unfinished⟩

/-- A type around the failing constructor is visited first, and is unfinished if it is
an enum. -/
theorem Stops.cons_type {place : Place} {declaration stoppedType : TypeDeclaration}
    (stops : Stops failing ids before after)
    (unfinished : ∀ source, declaration = .ofEnum source →
      ∃ stopped, stoppedType = .ofEnum stopped ∧ source.Unfinished stopped) :
    Stops failing ids (.type ⟨place, declaration⟩ :: before)
      (.type ⟨place, stoppedType⟩ :: after) := by
  constructor
  case named => exact stops.named
  case kept => exact stops.kept
  case enclosing =>
    intro other source visited encloses
    rcases List.mem_cons.mp visited with head | inside
    · cases head
      obtain ⟨stopped, rfl, same⟩ := unfinished source rfl
      exact ⟨stopped, List.mem_cons_self, same⟩
    · obtain ⟨stopped, stoppedVisited, same⟩ := stops.enclosing other source inside encloses
      exact ⟨stopped, List.mem_cons_of_mem _ stoppedVisited, same⟩

end Visit

/-! Lists of nodes, cut at one of them. -/

theorem Statement.visits_from_append (place : Place) (start : Nat)
    (left right : List Statement) :
    Statement.visitsFrom place start (left ++ right) =
      Statement.visitsFrom place start left ++
        Statement.visitsFrom place (start + left.length) right := by
  induction left generalizing start with
  | nil => rfl
  | cons statement left induction =>
      have shifted : start + 1 + left.length = start + (left.length + 1) := by omega
      rw [List.cons_append, Statement.visitsFrom, Statement.visitsFrom, induction (start + 1),
        List.length_cons, shifted, List.append_assoc]

theorem Member.visits_from_append (place : Place) (start : Nat) (left right : List Member) :
    Member.visitsFrom place start (left ++ right) =
      Member.visitsFrom place start left ++
        Member.visitsFrom place (start + left.length) right := by
  induction left generalizing start with
  | nil => rfl
  | cons member left induction =>
      have shifted : start + 1 + left.length = start + (left.length + 1) := by omega
      rw [List.cons_append, Member.visitsFrom, Member.visitsFrom, induction (start + 1),
        List.length_cons, shifted, List.append_assoc]

theorem TypeDeclaration.visits_from_append (start : Nat) (left right : List TypeDeclaration) :
    TypeDeclaration.visitsFrom start (left ++ right) =
      TypeDeclaration.visitsFrom start left ++
        TypeDeclaration.visitsFrom (start + left.length) right := by
  induction left generalizing start with
  | nil => rfl
  | cons declaration left induction =>
      have shifted : start + 1 + left.length = start + (left.length + 1) := by omega
      rw [List.cons_append, TypeDeclaration.visitsFrom, TypeDeclaration.visitsFrom,
        induction (start + 1), List.length_cons, shifted, List.append_assoc]

theorem length_lowered_statements (options : Options) (vars : ImplicitVars) (first : Nat)
    (statements : List Statement) :
    (loweredStatements options vars first statements).length = statements.length := by
  induction statements generalizing first with
  | nil => rfl
  | cons statement statements induction =>
      rw [loweredStatements, List.length_cons, List.length_cons, induction]

theorem length_lowered_members (options : Options) (first : Nat) (members : List Member) :
    (loweredMembers options first members).length = members.length := by
  induction members generalizing first with
  | nil => rfl
  | cons member members induction =>
      rw [loweredMembers, List.length_cons, List.length_cons, induction]

theorem length_lowered_types (options : Options) (first : Nat)
    (declarations : List TypeDeclaration) :
    (loweredTypes options first declarations).length = declarations.length := by
  induction declarations generalizing first with
  | nil => rfl
  | cons declaration declarations induction =>
      rw [loweredTypes, List.length_cons, List.length_cons, induction]

theorem Visit.stops_statements {options : Options} {failing : Located MethodDeclaration}
    {vars : ImplicitVars} {place : Place} {ids later : IdSupply}
    {front lowered rest : List Statement} {statement stopped : Statement}
    (leaves : (lowerStatements options ⟨some vars⟩ front ids).Leaves lowered later)
    (stops : Visit.Stops failing later (statement.visits (.statement front.length :: place))
      (stopped.visits (.statement front.length :: place))) :
    Visit.Stops failing ids (Statement.visitsFrom place 0 (front ++ statement :: rest))
      (Statement.visitsFrom place 0 (lowered ++ stopped :: rest)) := by
  obtain ⟨rfl, next, inRange⟩ :=
    (lower_statements_spends options vars place 0 front ids).of_leaves leaves
  have reached := statement.suffix_of_mem_visits _ _ stops.constructor_mem
  rw [Statement.visits_from_append, Statement.visits_from_append, Statement.visitsFrom,
    Statement.visitsFrom, length_lowered_statements, Nat.zero_add]
  apply stops.between _ next inRange
  · intro visit visited
    obtain ⟨index, _, upper, inside⟩ :=
      Statement.suffix_of_mem_visits_from place 0 front visit visited
    exact not_suffix_of_turn_ne (by simp; omega) inside reached
  · intro visit visited
    obtain ⟨index, lower, _, inside⟩ :=
      Statement.suffix_of_mem_visits_from place _ rest visit visited
    exact not_suffix_of_turn_ne (by simp; omega) inside reached
  · rw [visits_lowered_statements, Visit.length_constructors_lowered]

theorem Visit.stops_members {options : Options} {failing : Located MethodDeclaration}
    {place : Place} {ids later : IdSupply} {front lowered rest : List Member}
    {member stopped : Member}
    (leaves : ((lowerMembers options .inactive front ids).map Prod.fst).Leaves lowered later)
    (stops : Visit.Stops failing later (member.visits (.member front.length :: place))
      (stopped.visits (.member front.length :: place))) :
    Visit.Stops failing ids (Member.visitsFrom place 0 (front ++ member :: rest))
      (Member.visitsFrom place 0 (lowered ++ stopped :: rest)) := by
  obtain ⟨rfl, next, inRange⟩ :=
    ((lower_members_spends options place 0 front ids).map Prod.fst).of_leaves leaves
  have reached := member.suffix_of_mem_visits _ _ stops.constructor_mem
  rw [Member.visits_from_append, Member.visits_from_append, Member.visitsFrom,
    Member.visitsFrom, length_lowered_members, Nat.zero_add]
  apply stops.between _ next inRange
  · intro visit visited
    obtain ⟨index, _, upper, inside⟩ :=
      Member.suffix_of_mem_visits_from place 0 front visit visited
    exact not_suffix_of_turn_ne (by simp; omega) inside reached
  · intro visit visited
    obtain ⟨index, lower, _, inside⟩ :=
      Member.suffix_of_mem_visits_from place _ rest visit visited
    exact not_suffix_of_turn_ne (by simp; omega) inside reached
  · rw [visits_lowered_members, Visit.length_constructors_lowered]

/-- What is visited in a conditional after its first branch. -/
theorem Statement.visits_conditional (place : Place) (condition : Expression)
    (elseBranch : Option Statement) :
    ∃ rest : List Visit,
      (∀ visit ∈ rest, (.elseBranch :: place) <:+ visit.place) ∧
        ∀ thenBranch, (Statement.conditional condition thenBranch elseBranch).visits place =
          thenBranch.visits (.thenBranch :: place) ++ rest := by
  cases elseBranch with
  | none =>
      refine ⟨[], by simp, ?_⟩
      intro thenBranch
      rw [Statement.visits, List.append_nil]
  | some elseBranch =>
      refine ⟨elseBranch.visits (.elseBranch :: place), ?_, ?_⟩
      · exact elseBranch.suffix_of_mem_visits (.elseBranch :: place)
      · intro thenBranch
        rw [Statement.visits]

theorem Visit.stops_then_branch {failing : Located MethodDeclaration} {place : Place}
    {ids : IdSupply} {thenBranch stopped : Statement} (condition : Expression)
    (elseBranch : Option Statement)
    (stops : Visit.Stops failing ids (thenBranch.visits (.thenBranch :: place))
      (stopped.visits (.thenBranch :: place))) :
    Visit.Stops failing ids ((Statement.conditional condition thenBranch elseBranch).visits place)
      ((Statement.conditional condition stopped elseBranch).visits place) := by
  obtain ⟨rest, inRest, visits⟩ := Statement.visits_conditional place condition elseBranch
  have reached := thenBranch.suffix_of_mem_visits _ _ stops.constructor_mem
  have inRange : ids.next.toNat ≤ last.toNat := by
    have bound := ids.next.toNat_lt
    rw [last_toNat]
    omega
  have between : Visit.Stops failing ids
      ([] ++ (thenBranch.visits (.thenBranch :: place) ++ rest))
      ([] ++ (stopped.visits (.thenBranch :: place) ++ rest)) := by
    apply stops.between rfl rfl inRange
    · intro visit visited
      cases visited
    · intro visit visited
      exact not_suffix_of_turn_ne (by decide) (inRest visit visited) reached
  rw [visits thenBranch, visits stopped]
  exact between

theorem Visit.stops_else_branch {options : Options} {failing : Located MethodDeclaration}
    {vars : ImplicitVars} {place : Place} {ids later : IdSupply}
    {thenBranch lowered elseBranch stopped : Statement} (condition : Expression)
    (leaves : (lowerStatement options ⟨some vars⟩ thenBranch ids).Leaves lowered later)
    (stops : Visit.Stops failing later (elseBranch.visits (.elseBranch :: place))
      (stopped.visits (.elseBranch :: place))) :
    Visit.Stops failing ids
      ((Statement.conditional condition thenBranch (some elseBranch)).visits place)
      ((Statement.conditional condition lowered (some stopped)).visits place) := by
  obtain ⟨rfl, next, inRange⟩ :=
    (lower_statement_spends options vars (.thenBranch :: place) thenBranch ids).of_leaves leaves
  have reached := elseBranch.suffix_of_mem_visits _ _ stops.constructor_mem
  have between : Visit.Stops failing ids
      (thenBranch.visits (.thenBranch :: place) ++
        (elseBranch.visits (.elseBranch :: place) ++ []))
      ((loweredStatement options vars ids.next.toNat thenBranch).visits (.thenBranch :: place) ++
        (stopped.visits (.elseBranch :: place) ++ [])) := by
    apply stops.between _ next inRange
    · intro visit visited
      have inThen := thenBranch.suffix_of_mem_visits _ visit visited
      exact not_suffix_of_turn_ne (by decide) inThen reached
    · intro visit visited
      cases visited
    · rw [visits_lowered_statement, Visit.length_constructors_lowered]
  rw [Statement.visits, Statement.visits]
  simpa only [List.append_nil] using between

/-- The failing constructor itself. What its body declares lies deeper than it. -/
theorem Visit.stops_here (failing : Located MethodDeclaration) {ids : IdSupply}
    (short : last.toNat < ids.next.toNat + 2) :
    Visit.Stops failing ids (failing.item.visits failing.place)
      (failing.item.visits failing.place) := by
  obtain ⟨place, binding, modifiers, parameters, body⟩ := failing
  have first : (last.toNat - ids.next.toNat) / 2 = 0 := by omega
  refine ⟨by rw [first]; rfl, by rw [first]; rfl, ?_⟩
  intro other source visited encloses
  rw [MethodDeclaration.visits, List.mem_cons] at visited
  rcases visited with head | inBody
  · cases head
  · cases body with
    | none => cases inBody
    | some statements =>
        obtain ⟨index, _, _, inside⟩ :=
          Statement.suffix_of_mem_visits_from place 0 statements _ inBody
        exact absurd (inside.trans encloses).length_le (Nat.not_succ_le_self _)

theorem Visit.stops_body {failing : Located MethodDeclaration} {place : Place}
    {ids later : IdSupply} {vars : ImplicitVars} {binding : MethodBinding}
    {statements stopped : List Statement} (modifiers : Modifiers)
    (parameters : List VariableBinding) (constructor : binding.isEnumConstructor)
    (opened : openConstructor .inactive binding ids = (.ok (vars, ⟨some vars⟩), later))
    (stops : Visit.Stops failing later (Statement.visitsFrom place 0 statements)
      (Statement.visitsFrom place 0 stopped)) :
    Visit.Stops failing ids
      ((Member.method ⟨binding, modifiers, parameters, some statements⟩).visits place)
      ((Member.method
        { binding := binding.lowered
          modifiers := modifiers.makePrivateSynthetic
          parameters := parameters ++ vars.parameters
          body := some stopped }).visits place) := by
  have enough : ids.next.toNat + 2 ≤ last.toNat := by
    apply Nat.le_of_not_lt
    intro short
    obtain ⟨_, failed, _⟩ := open_constructor_short .inactive binding ids constructor short
    rw [opened] at failed
    cases failed
  obtain ⟨middle, sameOpened, next⟩ := open_constructor_enough binding ids constructor enough
  rw [opened] at sameOpened
  cases sameOpened
  have stays : binding.lowered.isEnumConstructor := constructor
  rw [Member.visits, Member.visits, if_pos constructor, if_pos stays]
  exact stops.cons_constructor next (by omega)

def Member.native? : Member → Option NativeBlock
  | .native block => some block
  | .method _ | .field _ | .type _ => none

theorem EnumDeclaration.native_members_eq (declaration : EnumDeclaration) :
    declaration.nativeMembers = declaration.members.filterMap Member.native? := rfl

theorem native?_lowered_member (options : Options) (first : Nat) (member : Member) :
    (loweredMember options first member).native? = member.native? := by
  cases member with
  | method method =>
      rw [loweredMember]
      split <;> rfl
  | type declaration => rfl
  | field declaration => rfl
  | native block => rfl

theorem native?_lowered_members (options : Options) (first : Nat) (members : List Member) :
    (loweredMembers options first members).filterMap Member.native? =
      members.filterMap Member.native? := by
  induction members generalizing first with
  | nil => rfl
  | cons member members induction =>
      rw [loweredMembers, List.filterMap_cons, List.filterMap_cons, native?_lowered_member,
        induction]

theorem StoppedMember.native? {options : Options} {failing : Located MethodDeclaration}
    {place : Place} {ids : IdSupply} {member stopped : Member}
    (halfway : StoppedMember options failing place ids member stopped) :
    stopped.native? = member.native? := by
  cases halfway <;> rfl

theorem StoppedMembers.unfinished {options : Options} {failing : Located MethodDeclaration}
    {place : Place} {ids : IdSupply} {members stopped : List Member}
    (halfway : StoppedMembers options failing place ids members stopped)
    (binding : TypeBinding) (constants : List EnumConstant) (initializers : List Statement) :
    EnumDeclaration.Unfinished ⟨binding, constants, members, initializers⟩
      ⟨binding, constants, stopped, initializers⟩ := by
  obtain ⟨leaves, inside⟩ := halfway
  rename_i later front lowered rest member halfwayMember
  obtain ⟨rfl, _⟩ :=
    ((lower_members_spends options place 0 front ids).map Prod.fst).of_leaves leaves
  constructor
  case binding => rfl
  case constants => rfl
  case initializers => rfl
  case memberCount => simp only [List.length_append, List.length_cons, length_lowered_members]
  case nativeMembers =>
    simp only [EnumDeclaration.native_members_eq, List.filterMap_append, List.filterMap_cons,
      native?_lowered_members, inside.native?]

mutual

theorem StoppedStatement.stops {options : Options} {failing : Located MethodDeclaration}
    {vars : ImplicitVars} {place : Place} {ids : IdSupply} {statement stopped : Statement}
    (halfway : StoppedStatement options failing vars place ids statement stopped) :
    Visit.Stops failing ids (statement.visits place) (stopped.visits place) := by
  match halfway with
  | .block inside => exact inside.stops
  | .thenBranch inside => exact Visit.stops_then_branch _ _ inside.stops
  | .elseBranch leaves inside => exact Visit.stops_else_branch _ leaves inside.stops
  | .localType inside => exact inside.stops

theorem StoppedStatements.stops {options : Options} {failing : Located MethodDeclaration}
    {vars : ImplicitVars} {place : Place} {ids : IdSupply} {statements stopped : List Statement}
    (halfway : StoppedStatements options failing vars place ids statements stopped) :
    Visit.Stops failing ids (Statement.visitsFrom place 0 statements)
      (Statement.visitsFrom place 0 stopped) := by
  match halfway with
  | .split leaves inside => exact Visit.stops_statements leaves inside.stops

theorem StoppedMember.stops {options : Options} {failing : Located MethodDeclaration}
    {place : Place} {ids : IdSupply} {member stopped : Member}
    (halfway : StoppedMember options failing place ids member stopped) :
    Visit.Stops failing ids (member.visits place) (stopped.visits place) := by
  match halfway with
  | .here rfl constructor short =>
      rw [Member.visits, if_pos constructor]
      exact Visit.stops_here failing short
  | .body constructor opened inside =>
      exact Visit.stops_body _ _ constructor opened inside.stops
  | .type inside => exact inside.stops

theorem StoppedMembers.stops {options : Options} {failing : Located MethodDeclaration}
    {place : Place} {ids : IdSupply} {members stopped : List Member}
    (halfway : StoppedMembers options failing place ids members stopped) :
    Visit.Stops failing ids (Member.visitsFrom place 0 members)
      (Member.visitsFrom place 0 stopped) := by
  match halfway with
  | .split leaves inside => exact Visit.stops_members leaves inside.stops

theorem StoppedType.stops {options : Options} {failing : Located MethodDeclaration}
    {place : Place} {ids : IdSupply} {declaration stopped : TypeDeclaration}
    (halfway : StoppedType options failing place ids declaration stopped) :
    Visit.Stops failing ids (declaration.visits place) (stopped.visits place) := by
  match halfway with
  | .ofClass inside => exact inside.stops.cons_type (by rintro _ ⟨⟩)
  | .ofEnum inside =>
      refine inside.stops.cons_type ?_
      rintro _ ⟨⟩
      exact ⟨_, rfl, inside.unfinished _ _ _⟩

end

theorem Visit.stops_types {options : Options} {failing : Located MethodDeclaration}
    {ids later : IdSupply} {front lowered rest : List TypeDeclaration}
    {reached stopped : TypeDeclaration}
    (leaves : (lowerTypes options front ids).Leaves lowered later)
    (stops : Visit.Stops failing later (reached.visits [.type front.length])
      (stopped.visits [.type front.length])) :
    Visit.Stops failing ids (TypeDeclaration.visitsFrom 0 (front ++ reached :: rest))
      (TypeDeclaration.visitsFrom 0 (lowered ++ stopped :: rest)) := by
  obtain ⟨rfl, next, inRange⟩ := (lower_types_spends options 0 front ids).of_leaves leaves
  have inReached := reached.suffix_of_mem_visits _ _ stops.constructor_mem
  rw [TypeDeclaration.visits_from_append, TypeDeclaration.visits_from_append,
    TypeDeclaration.visitsFrom, TypeDeclaration.visitsFrom, length_lowered_types, Nat.zero_add]
  apply stops.between _ next inRange
  · intro visit visited
    obtain ⟨index, _, upper, inside⟩ :=
      TypeDeclaration.suffix_of_mem_visits_from 0 front visit visited
    exact not_suffix_of_turn_ne (by simp; omega) inside inReached
  · intro visit visited
    obtain ⟨index, lower, _, inside⟩ :=
      TypeDeclaration.suffix_of_mem_visits_from _ rest visit visited
    exact not_suffix_of_turn_ne (by simp; omega) inside inReached
  · rw [visits_lowered_types, Visit.length_constructors_lowered]

namespace CompilationUnit

theorem next_var_id_of_failure (options : Options) (source : CompilationUnit)
    {error : LoweringError} (failed : (source.lowerEnums options).error = some error) :
    (source.lowerEnums options).value.nextVarId = last := by
  have spends := lower_enums_spends options source
  apply (spends.short _).1
  apply Nat.lt_of_not_le
  intro fits
  have noError := (spends.enough fits).1
  rw [failed] at noError
  cases noError

/-- A failing run names one constructor, which it leaves as it is. The types in front
of the one that holds it are those that a run over them alone leaves, without an
error; the types behind it are as before; and inside it the run has stopped on the way
to the constructor. Every enum around the constructor is unfinished. -/
theorem failing_run_stops_at_one_constructor (options : Options) (source : CompilationUnit)
    (error : LoweringError) (failed : (source.lowerEnums options).error = some error) :
    ∃ (failing : Located MethodDeclaration) (front rest : List TypeDeclaration)
      (reached stopped : TypeDeclaration),
      error = .idsExhausted failing.item.binding.signature ∧
      source.visitedConstructors[(2 ^ 32 - 1 - source.nextVarId.toNat) / 2]? = some failing ∧
      (source.lowerEnums options).value.visitedConstructors[
        (2 ^ 32 - 1 - source.nextVarId.toNat) / 2]? = some failing ∧
      source.types = front ++ reached :: rest ∧
      ({ source with types := front }.lowerEnums options).error = none ∧
      (source.lowerEnums options).value =
        { source with
          types := ({ source with types := front }.lowerEnums options).value.types ++
            stopped :: rest
          nextVarId := last } ∧
      StoppedType options failing [.type front.length]
        ({ source with types := front }.lowerEnums options).ids reached stopped ∧
      ∀ (place : Place) (enclosing : EnumDeclaration),
        ⟨place, .ofEnum enclosing⟩ ∈ source.visitedTypes → place <:+ failing.place →
          ∃ unfinished : EnumDeclaration,
            ⟨place, .ofEnum unfinished⟩ ∈ (source.lowerEnums options).value.visitedTypes ∧
              enclosing.Unfinished unfinished := by
  have spent := next_var_id_of_failure options source failed
  obtain ⟨failing, named, front, lowered, rest, reached, stopped, later, same, result, leaves,
    inside⟩ := lower_types_stops options 0 source.types ⟨source.nextVarId⟩ error failed
  rw [Nat.zero_add] at inside
  have frontTypes : ({ source with types := front }.lowerEnums options).value.types = lowered :=
    leaves.value
  have frontIds : ({ source with types := front }.lowerEnums options).ids = later := leaves.ids
  have types : (source.lowerEnums options).value.types = lowered ++ stopped :: rest := result
  have stops : Visit.Stops failing ⟨source.nextVarId⟩
      (TypeDeclaration.visitsFrom 0 (front ++ reached :: rest))
      (TypeDeclaration.visitsFrom 0 (lowered ++ stopped :: rest)) :=
    Visit.stops_types leaves inside.stops
  rw [← same, ← types] at stops
  refine ⟨failing, front, rest, reached, stopped, named, stops.named, stops.kept, same,
    leaves.noError, ?_, ?_, ?_⟩
  · rw [frontTypes, ← types, ← spent]
    rfl
  · rw [frontIds]
    exact inside
  · intro place enclosing visited encloses
    rw [visitedTypes, Visit.mem_types] at visited
    obtain ⟨unfinished, there, same⟩ := stops.enclosing place enclosing visited encloses
    exact ⟨unfinished, (Visit.mem_types _ _).mpr there, same⟩

end CompilationUnit

namespace Sample

/-- The place of the only constructor of the local enum in `palette`. -/
def shadePlace : Place := [.member 0, .thenBranch, .statement 0, .member 0, .type 0]

/-- With three identities left, the run over `palette` stops at the constructor of the
local enum. It is left alone, and the enum around the constructor that declares it has
no assignment for its constant yet. -/
theorem palette_stops :
    ((palette 0xFFFFFFFC).lowerEnums {}).error =
        some (.idsExhausted (MethodBinding.constructorOf shade []).signature) ∧
      ((palette 0xFFFFFFFC).lowerEnums {}).value.visitedConstructors[1]? =
        some ⟨shadePlace, .ofBinding (.constructorOf shade []) [] [superCall]⟩ ∧
      ∃ unfinished : EnumDeclaration,
        ⟨[.type 0], .ofEnum unfinished⟩ ∈
          ((palette 0xFFFFFFFC).lowerEnums {}).value.visitedTypes ∧
        unfinished.initializers = [] ∧ unfinished.nativeMembers = [] := by
  have failed : ((palette 0xFFFFFFFC).lowerEnums {}).error =
      some (.idsExhausted (MethodBinding.constructorOf shade []).signature) := rfl
  obtain ⟨failing, front, rest, reached, stopped, _, named, kept, _, _, _, _, enclosing⟩ :=
    (palette 0xFFFFFFFC).failing_run_stops_at_one_constructor {} _ failed
  cases named
  obtain ⟨unfinished, there, same⟩ :=
    enclosing [.type 0] colorEnum List.mem_cons_self (by decide)
  exact ⟨failed, kept, unfinished, there, same.initializers, same.nativeMembers⟩

end Sample

end EnumLowering
