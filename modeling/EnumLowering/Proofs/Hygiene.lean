import EnumLowering.Proofs.AddedOccurrences
import EnumLowering.Proofs.ImplicitParameters
import Mathlib.Data.List.Nodup

/-!
Hygiene of the implicit parameters. When every identity that occurs in a unit lies
below its first unused one, those of the implicit parameters are counted off from
there in the order of the visits. So they are distinct and new, each is declared
once, and it is named only where its own constructor hands it on. All identities of
the lowered unit lie below its first unused one again.
-/

namespace EnumLowering

theorem ImplicitVars.number_of_mem {first : Nat} (fits : first + 2 ≤ 2 ^ 32)
    {binding : MethodBinding} {parameter : VariableBinding}
    (member : parameter ∈ (numbered binding first).parameters) :
    parameter.id.number.toNat = first ∨ parameter.id.number.toNat = first + 1 := by
  obtain ⟨nameNumber, ordinalNumber⟩ := toNat_numbered fits binding
  simp only [parameters, List.mem_cons, List.not_mem_nil, or_false] at member
  rcases member with rfl | rfl
  · exact Or.inl nameNumber
  · exact Or.inr ordinalNumber

/-- The two variables of a constructor do not share their identity. -/
theorem ImplicitVars.name_id_ne_ordinal_id {first : Nat} (fits : first + 2 ≤ 2 ^ 32)
    (binding : MethodBinding) :
    (numbered binding first).name.id ≠ (numbered binding first).ordinal.id := by
  intro same
  obtain ⟨nameNumber, ordinalNumber⟩ := toNat_numbered fits binding
  rw [same, ordinalNumber] at nameNumber
  omega

theorem ImplicitVars.eq_of_id_eq {first : Nat} (fits : first + 2 ≤ 2 ^ 32)
    {binding : MethodBinding} {left right : VariableBinding}
    (leftMember : left ∈ (numbered binding first).parameters)
    (rightMember : right ∈ (numbered binding first).parameters) (same : left.id = right.id) :
    left = right := by
  have different := name_id_ne_ordinal_id fits binding
  simp only [parameters, List.mem_cons, List.not_mem_nil, or_false] at leftMember rightMember
  rcases leftMember with rfl | rfl
  · rcases rightMember with rfl | rfl
    · rfl
    · exact absurd same different
  · rcases rightMember with rfl | rfl
    · exact absurd same.symm different
    · rfl

/-! Added occurrences, one by one. -/

theorem mem_added_from {first : Nat} {methods : List (Located MethodDeclaration)}
    {occurrence : Located Occurrence} (member : occurrence ∈ addedFrom first methods) :
    ∃ (index : Nat) (method : Located MethodDeclaration), methods[index]? = some method ∧
      occurrence ∈ method.added (first + 2 * index) := by
  induction methods generalizing first with
  | nil => cases member
  | cons head methods induction =>
      rcases List.mem_append.mp member with inHead | inTail
      · exact ⟨0, head, rfl, inHead⟩
      · obtain ⟨index, method, found, added⟩ := induction inTail
        have shifted : first + 2 + 2 * index = first + 2 * (index + 1) := by omega
        rw [shifted] at added
        exact ⟨index + 1, method, found, added⟩

theorem Located.mem_handed_on {vars : ImplicitVars} {call : Located ForwardingCall}
    {occurrence : Located Occurrence} (member : occurrence ∈ call.handedOn vars) :
    ∃ position, (call.handOn vars).item.call.arguments[position]? =
        some (.name occurrence.item.binding) ∧
      occurrence = ⟨.argument position :: call.place, .name, occurrence.item.binding⟩ ∧
      occurrence.item.binding ∈ vars.parameters := by
  have behind (offset : Nat) :
      (call.handOn vars).item.call.arguments[call.item.call.arguments.length + offset]? =
        vars.arguments[offset]? := by
    rw [Located.handOn, ConstructorCall.handOn, List.getElem?_append_right (by omega),
      Nat.add_sub_cancel_left]
  simp only [handedOn, List.mem_cons, List.not_mem_nil, or_false] at member
  rcases member with rfl | rfl
  · exact ⟨_, behind 0, rfl, List.mem_cons_self⟩
  · exact ⟨_, behind 1, rfl, List.mem_cons_of_mem _ List.mem_cons_self⟩

theorem Located.mem_added_parameters {first : Nat} {method : Located MethodDeclaration}
    {occurrence : Located Occurrence} (member : occurrence ∈ method.addedParameters first) :
    occurrence.item.role = .parameter ∧
      occurrence.item.binding ∈ (ImplicitVars.numbered method.item.binding first).parameters := by
  simp only [addedParameters, List.mem_cons, List.not_mem_nil, or_false] at member
  rcases member with rfl | rfl
  · exact ⟨rfl, List.mem_cons_self⟩
  · exact ⟨rfl, List.mem_cons_of_mem _ List.mem_cons_self⟩

theorem Located.binding_of_mem_added {first : Nat} {method : Located MethodDeclaration}
    {occurrence : Located Occurrence} (member : occurrence ∈ method.added first) :
    occurrence.item.binding ∈ (ImplicitVars.numbered method.item.binding first).parameters := by
  rcases List.mem_append.mp member with declared | named
  · exact (mem_added_parameters declared).2
  · obtain ⟨call, _, handed⟩ := List.mem_flatMap.mp named
    obtain ⟨_, _, _, own⟩ := mem_handed_on handed
    exact own

/-- An added name is an argument of a call of the lowered constructor. -/
theorem Located.handed_on_of_mem_added (options : Options) {first : Nat}
    {method : Located MethodDeclaration} {occurrence : Located Occurrence}
    (member : occurrence ∈ method.added first) (role : occurrence.item.role = .name) :
    ∃ call ∈ (loweredConstructor options first method.item).calls method.place, ∃ position,
      call.item.call.arguments[position]? = some (.name occurrence.item.binding) ∧
        occurrence = ⟨.argument position :: call.place, .name, occurrence.item.binding⟩ := by
  rcases List.mem_append.mp member with declared | named
  · rw [(mem_added_parameters declared).1] at role
    cases role
  · obtain ⟨call, calls, handed⟩ := List.mem_flatMap.mp named
    obtain ⟨position, argument, there, _⟩ := mem_handed_on handed
    refine ⟨call.handOn (.numbered method.item.binding first), ?_, position, argument, there⟩
    rw [calls_lowered_constructor]
    exact List.mem_map_of_mem calls

theorem number_of_mem_added_from {first : Nat} {methods : List (Located MethodDeclaration)}
    (fits : first + 2 * methods.length ≤ 2 ^ 32) {occurrence : Located Occurrence}
    (member : occurrence ∈ addedFrom first methods) :
    first ≤ occurrence.item.number ∧ occurrence.item.number < first + 2 * methods.length := by
  obtain ⟨index, method, found, added⟩ := mem_added_from member
  have bounded := (List.getElem?_eq_some_iff.mp found).1
  have numbers := ImplicitVars.number_of_mem (by omega) (Located.binding_of_mem_added added)
  rw [Occurrence.number]
  omega

/-! Declarations among the added occurrences. -/

/-- The declarations of a variable, of whatever kind. -/
def declarationsOf (id : VarId) (occurrences : Occurrences) : Occurrences :=
  occurrences.filter fun occurrence =>
    occurrence.item.role ≠ .name ∧ occurrence.item.binding.id = id

theorem declarations_of_append (id : VarId) (left right : Occurrences) :
    declarationsOf id (left ++ right) = declarationsOf id left ++ declarationsOf id right :=
  List.filter_append left right

theorem declarations_of_perm (id : VarId) {left right : Occurrences} (same : left.Perm right) :
    (declarationsOf id left).Perm (declarationsOf id right) :=
  same.filter _

theorem declarations_of_eq_nil {id : VarId} {occurrences : Occurrences}
    (apart : ∀ occurrence ∈ occurrences,
      occurrence.item.role = .name ∨ occurrence.item.number ≠ id.number.toNat) :
    declarationsOf id occurrences = [] := by
  rw [declarationsOf, List.filter_eq_nil_iff]
  intro occurrence member declares
  obtain ⟨declared, same⟩ := of_decide_eq_true declares
  rcases apart occurrence member with named | different
  · exact declared named
  · exact different (by rw [Occurrence.number, same])

/-- No declaration of a variable from `bound` on is lost below `bound`. -/
theorem declarations_of_since {bound : Nat} {id : VarId} (reached : bound ≤ id.number.toNat)
    (occurrences : Occurrences) :
    declarationsOf id (since bound occurrences) = declarationsOf id occurrences := by
  rw [declarationsOf, declarationsOf, since, List.filter_filter]
  apply List.filter_congr
  intro occurrence _
  by_cases same : occurrence.item.binding.id = id
  · have number : bound ≤ occurrence.item.number := by rw [Occurrence.number, same]; exact reached
    rw [decide_eq_true number, Bool.and_true]
  · rw [decide_eq_false (fun both => same both.2), Bool.false_and]

theorem declarations_of_added (id : VarId) (first : Nat) (method : Located MethodDeclaration) :
    declarationsOf id (method.added first) = declarationsOf id (method.addedParameters first) := by
  have named : declarationsOf id ((method.item.calls method.place).flatMap
      (Located.handedOn (.numbered method.item.binding first))) = [] := by
    apply declarations_of_eq_nil
    intro occurrence member
    obtain ⟨call, _, handed⟩ := List.mem_flatMap.mp member
    obtain ⟨_, _, there, _⟩ := Located.mem_handed_on handed
    exact Or.inl (by rw [there])
  rw [Located.added, declarations_of_append, named, List.append_nil]

/-- Only the constructor with the numbers of a variable declares it. -/
theorem declarations_of_added_from {first index : Nat} {methods : List (Located MethodDeclaration)}
    (fits : first + 2 * methods.length ≤ 2 ^ 32) {method : Located MethodDeclaration}
    (found : methods[index]? = some method) {id : VarId}
    (own : id.number.toNat = first + 2 * index ∨ id.number.toNat = first + 2 * index + 1) :
    declarationsOf id (addedFrom first methods) =
      declarationsOf id (method.addedParameters (first + 2 * index)) := by
  induction methods generalizing first index with
  | nil => cases found
  | cons head methods induction =>
      rw [List.length_cons] at fits
      rw [addedFrom, declarations_of_append]
      -- two numbers for each constructor: those of the others lie before or behind
      cases index with
      | zero =>
          cases found
          have inTail : declarationsOf id (addedFrom (first + 2) methods) = [] := by
            apply declarations_of_eq_nil
            intro occurrence member
            have numbers := number_of_mem_added_from (by omega) member
            exact Or.inr (by omega)
          rw [inTail, List.append_nil]
          exact declarations_of_added id first method
      | succ index =>
          have inHead : declarationsOf id (head.added first) = [] := by
            apply declarations_of_eq_nil
            intro occurrence member
            have numbers :=
              ImplicitVars.number_of_mem (by omega) (Located.binding_of_mem_added member)
            exact Or.inr (by rw [Occurrence.number]; omega)
          have shifted : first + 2 + 2 * index = first + 2 * (index + 1) := by omega
          rw [inHead, List.nil_append, ← shifted]
          exact induction (by omega) found (by omega)

theorem declarations_of_added_parameters {first : Nat} (fits : first + 2 ≤ 2 ^ 32)
    (method : Located MethodDeclaration) {parameter : VariableBinding}
    (member : parameter ∈ (ImplicitVars.numbered method.item.binding first).parameters) :
    ∃ position,
      (method.item.parameters ++
        (ImplicitVars.numbered method.item.binding first).parameters)[position]? =
          some parameter ∧
      declarationsOf parameter.id (method.addedParameters first) =
        [⟨.parameter position :: method.place, .parameter, parameter⟩] := by
  have different := ImplicitVars.name_id_ne_ordinal_id fits method.item.binding
  have behind (offset : Nat) :
      (method.item.parameters ++ (ImplicitVars.numbered method.item.binding first).parameters)[
        method.item.parameters.length + offset]? =
          (ImplicitVars.numbered method.item.binding first).parameters[offset]? := by
    rw [List.getElem?_append_right (by omega), Nat.add_sub_cancel_left]
  simp only [ImplicitVars.parameters, List.mem_cons, List.not_mem_nil, or_false] at member
  rcases member with rfl | rfl
  · refine ⟨_, behind 0, ?_⟩
    simp [declarationsOf, Located.addedParameters, different.symm]
  · refine ⟨_, behind 1, ?_⟩
    simp [declarationsOf, Located.addedParameters, different]

namespace CompilationUnit

/-- Every identity that occurs lies below the first unused one. -/
def IdsBelowNext (compilationUnit : CompilationUnit) : Prop :=
  ∀ occurrence ∈ compilationUnit.occurrences,
    occurrence.item.binding.id.number < compilationUnit.nextVarId

/-- The parameters at the ends of the visited constructors, in the order of the visits. -/
def implicitParameters (compilationUnit : CompilationUnit) : List VariableBinding :=
  compilationUnit.visitedConstructors.flatMap fun method => method.item.lastTwoParameters

/-- What keeps the implicit parameters of a lowered unit apart from each other and
from the variables of its source. -/
structure Hygienic (source lowered : CompilationUnit) : Prop where
  count : lowered.visitedConstructors.length = source.visitedConstructors.length
  numbered : ∀ index place before, source.visitedConstructors[index]? = some ⟨place, before⟩ →
    ∃ after name ordinal, lowered.visitedConstructors[index]? = some ⟨place, after⟩ ∧
      after.parameters = before.parameters ++ [name, ordinal] ∧
      name.name = "__name" ∧ name.id.number.toNat = source.nextVarId.toNat + 2 * index ∧
      ordinal.name = "__ordinal" ∧
        ordinal.id.number.toNat = source.nextVarId.toNat + 2 * index + 1
  distinct : (lowered.implicitParameters.map VariableBinding.id).Nodup
  unused : ∀ parameter ∈ lowered.implicitParameters, ∀ occurrence ∈ source.occurrences,
    occurrence.item.binding.id ≠ parameter.id
  declaredOnce : ∀ method ∈ lowered.visitedConstructors,
    ∀ parameter ∈ method.item.lastTwoParameters,
      ∃ position, method.item.parameters[position]? = some parameter ∧
        declarationsOf parameter.id lowered.occurrences =
          [⟨.parameter position :: method.place, .parameter, parameter⟩]
  handedOn : ∀ method ∈ lowered.visitedConstructors,
    ∀ parameter ∈ method.item.lastTwoParameters, ∀ occurrence ∈ lowered.occurrences,
      occurrence.item.binding.id = parameter.id → occurrence.item.role = .name →
        ∃ call ∈ method.item.calls method.place, ∃ position,
          call.item.call.arguments[position]? = some (.name parameter) ∧
            occurrence = ⟨.argument position :: call.place, .name, parameter⟩
  idsBelowNext : lowered.IdsBelowNext

theorem visited_lower_enums (options : Options) (source : CompilationUnit)
    (succeeds : (source.lowerEnums options).error = none) {method : Located MethodDeclaration}
    (visited : method ∈ (source.lowerEnums options).value.visitedConstructors) :
    ∃ (index : Nat) (before : Located MethodDeclaration),
      source.visitedConstructors[index]? = some before ∧
        method = ⟨before.place,
          loweredConstructor options (source.nextVarId.toNat + 2 * index) before.item⟩ := by
  obtain ⟨index, there⟩ := List.mem_iff_getElem?.mp visited
  rw [visited_constructors_lower_enums_getElem? options source succeeds] at there
  obtain ⟨before, found, same⟩ := Option.map_eq_some_iff.mp there
  exact ⟨index, before, found, same.symm⟩

/-- The occurrences of a lowered unit from the old first unused identity on. -/
theorem since_lower_enums (options : Options) (source : CompilationUnit)
    (bounded : source.IdsBelowNext) (succeeds : (source.lowerEnums options).error = none) :
    (since source.nextVarId.toNat (source.lowerEnums options).value.occurrences).Perm
      (addedFrom source.nextVarId.toNat source.visitedConstructors) := by
  rw [occurrences, types_lower_enums options source succeeds]
  exact since_lowered_types options _ _ 0 source.types (Nat.le_refl _)
    (count_fits options source succeeds) bounded

/-- The numbers of the implicit parameters follow each other without a gap. -/
theorem numbers_last_two_parameters {first : Nat} {methods : List (Located MethodDeclaration)}
    (pairs : ∀ index method, methods[index]? = some method →
      ∃ name ordinal, method.item.lastTwoParameters = [name, ordinal] ∧
        name.id.number.toNat = first + 2 * index ∧
        ordinal.id.number.toNat = first + 2 * index + 1) :
    (methods.flatMap fun method => method.item.lastTwoParameters).map
        (fun parameter => parameter.id.number.toNat) =
      List.range' first (2 * methods.length) := by
  induction methods generalizing first with
  | nil => rfl
  | cons method methods induction =>
      obtain ⟨name, ordinal, lastTwo, nameNumber, ordinalNumber⟩ := pairs 0 method rfl
      have inTail := @induction (first + 2) (by
        intro index later found
        obtain ⟨name, ordinal, lastTwo, nameNumber, ordinalNumber⟩ := pairs (index + 1) later found
        exact ⟨name, ordinal, lastTwo, by omega, by omega⟩)
      have twoMore : 2 * (methods.length + 1) = 2 * methods.length + 1 + 1 := by omega
      rw [List.flatMap_cons, List.map_append, inTail, lastTwo, List.length_cons, twoMore,
        List.range'_succ, List.range'_succ, List.map_cons, List.map_cons, nameNumber,
        ordinalNumber]
      rfl

section Lowered

variable (options : Options) (source : CompilationUnit)
  (succeeds : (source.lowerEnums options).error = none)

include succeeds

theorem numbers_implicit_parameters :
    (source.lowerEnums options).value.implicitParameters.map
        (fun parameter => parameter.id.number.toNat) =
      List.range' source.nextVarId.toNat
        (2 * (source.lowerEnums options).value.visitedConstructors.length) :=
  numbers_last_two_parameters (last_two_parameters_lower_enums options source succeeds)

theorem nodup_implicit_parameters :
    ((source.lowerEnums options).value.implicitParameters.map VariableBinding.id).Nodup := by
  apply List.Nodup.of_map fun id : VarId => id.number.toNat
  rw [List.map_map]
  change (List.map (fun parameter : VariableBinding => parameter.id.number.toNat) _).Nodup
  rw [numbers_implicit_parameters options source succeeds]
  exact List.nodup_range'

theorem next_var_id_le_implicit_parameters {parameter : VariableBinding}
    (member : parameter ∈ (source.lowerEnums options).value.implicitParameters) :
    source.nextVarId.toNat ≤ parameter.id.number.toNat := by
  have number : parameter.id.number.toNat ∈
      (source.lowerEnums options).value.implicitParameters.map
        (fun parameter => parameter.id.number.toNat) := List.mem_map_of_mem member
  rw [numbers_implicit_parameters options source succeeds, List.mem_range'_1] at number
  exact number.1

theorem declarations_of_lower_enums (bounded : source.IdsBelowNext)
    {method : Located MethodDeclaration}
    (visited : method ∈ (source.lowerEnums options).value.visitedConstructors)
    {parameter : VariableBinding} (member : parameter ∈ method.item.lastTwoParameters) :
    ∃ position, method.item.parameters[position]? = some parameter ∧
      declarationsOf parameter.id (source.lowerEnums options).value.occurrences =
        [⟨.parameter position :: method.place, .parameter, parameter⟩] := by
  obtain ⟨index, before, found, rfl⟩ := visited_lower_enums options source succeeds visited
  have inRange := numbers_fit options source succeeds found
  rw [last_two_parameters_lowered_constructor] at member
  have own := ImplicitVars.number_of_mem inRange member
  obtain ⟨position, there, declared⟩ := declarations_of_added_parameters inRange before member
  have widened := widened_to_lowered_constructor options (source.nextVarId.toNat + 2 * index)
    before.place before.item
  refine ⟨position, widened.parameters ▸ there, ?_⟩
  have onlyOwn : (declarationsOf parameter.id (source.lowerEnums options).value.occurrences).Perm
      (declarationsOf parameter.id
        (before.addedParameters (source.nextVarId.toNat + 2 * index))) := by
    rw [← declarations_of_added_from (count_fits options source succeeds) found own,
      ← declarations_of_since (by omega : source.nextVarId.toNat ≤ parameter.id.number.toNat)]
    exact declarations_of_perm parameter.id (since_lower_enums options source bounded succeeds)
  rw [declared] at onlyOwn
  exact List.perm_singleton.mp onlyOwn

theorem handed_on_lower_enums (bounded : source.IdsBelowNext) {method : Located MethodDeclaration}
    (visited : method ∈ (source.lowerEnums options).value.visitedConstructors)
    {parameter : VariableBinding} (member : parameter ∈ method.item.lastTwoParameters)
    {occurrence : Located Occurrence}
    (occurs : occurrence ∈ (source.lowerEnums options).value.occurrences)
    (same : occurrence.item.binding.id = parameter.id) (role : occurrence.item.role = .name) :
    ∃ call ∈ method.item.calls method.place, ∃ position,
      call.item.call.arguments[position]? = some (.name parameter) ∧
        occurrence = ⟨.argument position :: call.place, .name, parameter⟩ := by
  obtain ⟨index, before, found, rfl⟩ := visited_lower_enums options source succeeds visited
  have inRange := numbers_fit options source succeeds found
  rw [last_two_parameters_lowered_constructor] at member
  have own := ImplicitVars.number_of_mem inRange member
  have added : occurrence ∈ addedFrom source.nextVarId.toNat source.visitedConstructors := by
    apply (since_lower_enums options source bounded succeeds).mem_iff.mp
    refine List.mem_filter.mpr ⟨occurs, decide_eq_true ?_⟩
    rw [Occurrence.number, same]
    omega
  obtain ⟨other, adder, otherFound, inAdder⟩ := mem_added_from added
  have adderBinding := Located.binding_of_mem_added inAdder
  -- the number of the occurrence tells which constructor added it
  have sameIndex : other = index := by
    have numbers := ImplicitVars.number_of_mem (numbers_fit options source succeeds otherFound)
      adderBinding
    rw [same] at numbers
    omega
  subst sameIndex
  rw [found] at otherFound
  cases otherFound
  have sameParameter := ImplicitVars.eq_of_id_eq inRange adderBinding member same
  rw [← sameParameter]
  exact Located.handed_on_of_mem_added options inAdder role

theorem ids_below_next_lower_enums (bounded : source.IdsBelowNext) :
    (source.lowerEnums options).value.IdsBelowNext := by
  intro occurrence occurs
  rw [UInt32.lt_iff_toNat_lt, next_var_id_of_success options source succeeds]
  by_cases reached : source.nextVarId.toNat ≤ occurrence.item.number
  · have added := (since_lower_enums options source bounded succeeds).mem_iff.mp
      (List.mem_filter.mpr ⟨occurs, decide_eq_true reached⟩)
    exact (number_of_mem_added_from (count_fits options source succeeds) added).2
  · rw [Occurrence.number] at reached
    omega

end Lowered

/-- A unit whose identities lie below `nextVarId` is lowered hygienically. Those of
the result lie below its own `nextVarId`, so any further run is hygienic as well. -/
theorem implicit_parameters_are_hygienic (options : Options) (source : CompilationUnit)
    (bounded : source.IdsBelowNext) (succeeds : (source.lowerEnums options).error = none) :
    source.Hygienic (source.lowerEnums options).value where
  count := length_visited_constructors_lower_enums options source succeeds
  numbered := by
    intro index place before visited
    have inRange := numbers_fit options source succeeds visited
    obtain ⟨nameNumber, ordinalNumber⟩ := ImplicitVars.toNat_numbered inRange before.binding
    refine ⟨loweredConstructor options (source.nextVarId.toNat + 2 * index) before, _, _, ?_,
      (widened_to_lowered_constructor options _ place before).parameters, rfl, nameNumber, rfl,
      ordinalNumber⟩
    rw [visited_constructors_lower_enums_getElem? options source succeeds, visited]
    rfl
  distinct := nodup_implicit_parameters options source succeeds
  unused := by
    intro parameter member occurrence occurs same
    have upper := next_var_id_le_implicit_parameters options source succeeds member
    have lower := UInt32.lt_iff_toNat_lt.mp (bounded occurrence occurs)
    rw [same] at lower
    omega
  declaredOnce _ visited _ member :=
    declarations_of_lower_enums options source succeeds bounded visited member
  handedOn _ visited _ member _ occurs same role :=
    handed_on_lower_enums options source succeeds bounded visited member occurs same role
  idsBelowNext := ids_below_next_lower_enums options source succeeds bounded

end CompilationUnit

/-- In `palette` the identities 0 to 2 occur, and lowering adds 3 to 8: the local
enum takes 5 and 6, between those of the two constructors of `Color`. -/
theorem Sample.palette_is_hygienic :
    (Sample.palette 3).IdsBelowNext ∧ ((Sample.palette 3).lowerEnums {}).error = none ∧
      (Sample.palette 3).Hygienic ((Sample.palette 3).lowerEnums {}).value ∧
      ((Sample.palette 3).lowerEnums {}).value.implicitParameters.map
        (fun parameter => parameter.id.number) = [3, 4, 5, 6, 7, 8] := by
  have bounded : (Sample.palette 3).IdsBelowNext := by
    unfold CompilationUnit.IdsBelowNext
    decide
  have succeeds : ((Sample.palette 3).lowerEnums {}).error = none := rfl
  exact ⟨bounded, succeeds,
    (Sample.palette 3).implicit_parameters_are_hygienic {} bounded succeeds, rfl⟩

end EnumLowering
