import EnumLowering.Log.Record
import EnumLowering.Proofs.WorkDone
import Mathlib.Data.Finset.Card
import Mathlib.Data.Finset.Lattice.Lemmas

/-!
The events of a run as an audit trail. The trail is read off the source: a visited
constructor is reported before the local types of its body, and a visited enum after
all its members, behind a warning for each constant whose name stood before. A run that
does not fail emits the trail, and a failing run emits it up to the constructor at which
it stops.
-/

namespace EnumLowering

open IdSupply (last)

namespace EnumDeclaration

/-- A warning for each constant whose name stands at an earlier position. -/
def warnings (declaration : EnumDeclaration) : List Event :=
  declaration.constants.zipIdx.filterMap fun (constant, position) =>
    if constant.name ∈ (declaration.constants.take position).map EnumConstant.name then
      some (.duplicateConstant declaration.binding.qualifiedName constant.name)
    else none

/-- What is reported of an enum itself, after its members. -/
def closing (declaration : EnumDeclaration) : List Event :=
  declaration.warnings ++
    [.enumLowered declaration.binding.outputName declaration.constants.length]

-- The invariant of the scan: the names seen are those of the constants in front.
theorem repeated_names_eq_filterMap (enumType : String) (seen : List String)
    (front rest : List EnumConstant)
    (known : ∀ name, name ∈ seen ↔ name ∈ front.map EnumConstant.name) :
    repeatedNames enumType seen rest =
      (rest.zipIdx front.length).filterMap fun (constant, position) =>
        if constant.name ∈ ((front ++ rest).take position).map EnumConstant.name then
          some (.duplicateConstant enumType constant.name)
        else none := by
  induction rest generalizing seen front with
  | nil => rfl
  | cons constant rest induction =>
      have regroup : front ++ constant :: rest = (front ++ [constant]) ++ rest :=
        List.append_cons front constant rest
      have position : front.length + 1 = (front ++ [constant]).length := by
        rw [List.length_append]
        rfl
      rw [repeatedNames, List.zipIdx_cons, List.filterMap_cons]
      dsimp only
      rw [List.take_left, regroup, position]
      by_cases repeated : constant.name ∈ front.map EnumConstant.name
      · have contained : seen.contains constant.name = true := by
          rw [List.contains_iff_mem]
          exact (known _).mpr repeated
        have tail := induction seen (front ++ [constant]) (by
          intro name
          rw [known, List.map_append, List.mem_append]
          constructor
          · exact Or.inl
          · rintro (inFront | here)
            · exact inFront
            · rw [List.mem_singleton.mp here]
              exact repeated)
        rw [if_pos contained, if_pos repeated, tail]
      · have absent : ¬ seen.contains constant.name = true := by
          rw [List.contains_iff_mem, known]
          exact repeated
        have tail := induction (constant.name :: seen) (front ++ [constant]) (by
          intro name
          rw [List.mem_cons, known, List.map_append, List.mem_append, or_comm]
          exact or_congr_right List.mem_singleton.symm)
        rw [if_neg absent, if_neg repeated, tail]

theorem duplicate_warnings_eq_warnings (declaration : EnumDeclaration) :
    declaration.duplicateWarnings = declaration.warnings :=
  repeated_names_eq_filterMap _ [] [] declaration.constants fun _ => Iff.rfl

/-- Each constant is warned about or brings a name that was not seen yet. -/
theorem length_repeated_names (enumType : String) (seen : List String)
    (constants : List EnumConstant) :
    (repeatedNames enumType seen constants).length +
        (seen ++ constants.map EnumConstant.name).toFinset.card =
      constants.length + seen.toFinset.card := by
  induction constants generalizing seen with
  | nil => rw [List.map_nil, List.append_nil]; rfl
  | cons constant constants induction =>
      have moved : (seen ++ (constant :: constants).map EnumConstant.name).toFinset =
          (constant.name :: seen ++ constants.map EnumConstant.name).toFinset := by
        ext name
        simp only [List.map_cons, List.mem_toFinset, List.mem_append, List.mem_cons]
        tauto
      rw [repeatedNames, moved, List.length_cons]
      by_cases repeated : constant.name ∈ seen
      · have known : (constant.name :: seen ++ constants.map EnumConstant.name).toFinset =
            (seen ++ constants.map EnumConstant.name).toFinset := by
          rw [List.cons_append, List.toFinset_cons, Finset.insert_eq_of_mem]
          rw [List.mem_toFinset, List.mem_append]
          exact Or.inl repeated
        have tail := induction seen
        rw [if_pos (List.contains_iff_mem.mpr repeated), known, List.length_cons]
        omega
      · have fresh : (constant.name :: seen).toFinset.card = seen.toFinset.card + 1 := by
          rw [List.toFinset_cons, Finset.card_insert_of_notMem]
          rwa [List.mem_toFinset]
        have tail := induction (constant.name :: seen)
        rw [if_neg (by rwa [List.contains_iff_mem])]
        omega

/-- There is a warning for each constant beyond one for each name. -/
theorem length_warnings (declaration : EnumDeclaration) :
    declaration.warnings.length +
        (declaration.constants.map EnumConstant.name).toFinset.card =
      declaration.constants.length := by
  rw [← duplicate_warnings_eq_warnings]
  exact length_repeated_names declaration.binding.qualifiedName [] declaration.constants

end EnumDeclaration

mutual

/-- The events of the local types in a statement. -/
def Statement.trail : Statement → List Event
  | .block statements => Statement.trails statements
  | .conditional _ thenBranch none => thenBranch.trail
  | .conditional _ thenBranch (some elseBranch) => thenBranch.trail ++ elseBranch.trail
  | .localType declaration => declaration.trail
  | .expression _ | .result _ | .localVariable _ _ | .thisCall _ | .superCall _ => []

def Statement.trails : List Statement → List Event
  | [] => []
  | statement :: statements => statement.trail ++ Statement.trails statements

/-- The events of an enum constructor: its own comes first. -/
def MethodDeclaration.trail : MethodDeclaration → List Event
  | ⟨binding, _, _, none⟩ => [.constructorWidened binding.widen.signature]
  | ⟨binding, _, _, some statements⟩ =>
      .constructorWidened binding.widen.signature :: Statement.trails statements

def Member.trail : Member → List Event
  | .method method => if method.binding.isEnumConstructor then method.trail else []
  | .type declaration => declaration.trail
  | .field _ | .native _ => []

def Member.trails : List Member → List Event
  | [] => []
  | member :: members => member.trail ++ Member.trails members

/-- The events of a type: those of an enum itself come last. -/
def TypeDeclaration.trail : TypeDeclaration → List Event
  | .ofClass ⟨_, members, _⟩ => Member.trails members
  | .ofEnum ⟨binding, constants, members, initializers⟩ =>
      Member.trails members ++ EnumDeclaration.closing ⟨binding, constants, members, initializers⟩

end

def CompilationUnit.trail (compilationUnit : CompilationUnit) : List Event :=
  compilationUnit.types.flatMap TypeDeclaration.trail

/-! What a run emits. -/

namespace Outcome

variable {α β : Type}

/-- The step emits the trail, or stops with an error before the end of it. -/
structure Emits (outcome : Outcome α) (trail : List Event) : Prop where
  finished : outcome.error = none → outcome.work.events = trail
  stopped : ∀ error, outcome.error = some error →
    ∃ missing rest, trail = outcome.work.events ++ missing :: rest

theorem emits_unchanged (value : α) (ids : IdSupply) : (unchanged value ids).Emits [] where
  finished _ := rfl
  stopped := by
    intro error failed
    cases failed

theorem Emits.map {outcome : Outcome α} {trail : List Event} (emits : outcome.Emits trail)
    (make : α → β) : (outcome.map make).Emits trail :=
  ⟨emits.finished, emits.stopped⟩

theorem Emits.after {outcome : Outcome α} {trail : List Event} (emits : outcome.Emits trail)
    (work : Work) : (outcome.after work).Emits (work.events ++ trail) where
  finished noError := congrArg (work.events ++ ·) (emits.finished noError)
  stopped := by
    intro error failed
    obtain ⟨missing, rest, same⟩ := emits.stopped error failed
    refine ⟨missing, rest, ?_⟩
    rw [same, ← List.append_assoc]
    rfl

/-- What a first step lacks of its trail is lacking from the whole. -/
theorem Emits.and_then {first : Outcome α} {trail others : List Event} (emits : first.Emits trail)
    (untouched : α → β) {rest : α → IdSupply → Outcome β}
    (restEmits : first.error = none → (rest first.value first.ids).Emits others) :
    (first.andThen untouched rest).Emits (trail ++ others) := by
  cases outcome : first.error with
  | none =>
      rw [and_then_eq_after untouched rest outcome, ← emits.finished outcome]
      exact (restEmits outcome).after first.work
  | some error =>
      rw [and_then_eq_map untouched rest outcome]
      constructor
      · intro noError
        cases outcome.symm.trans noError
      · intro _ _
        obtain ⟨missing, behind, same⟩ := emits.stopped error outcome
        refine ⟨missing, behind ++ others, ?_⟩
        rw [same, List.append_assoc]
        rfl

end Outcome

theorem lower_call_emits (vars : ImplicitVars) (call : ConstructorCall) (ids : IdSupply) :
    (lowerCall ⟨some vars⟩ call ids).Emits [] where
  finished _ := rfl
  stopped := by
    intro error failed
    cases failed

/-- A constructor without its two identities emits nothing, not even its own event. -/
theorem lower_constructor_emits_of_body (options : Options) (binding : MethodBinding)
    (modifiers : Modifiers) (parameters : List VariableBinding) (body : Option (List Statement))
    (ids : IdSupply) (constructor : binding.isEnumConstructor) (trail : List Event)
    (bodyEmits : ∀ vars later, (lowerBody options ⟨some vars⟩ body later).Emits trail) :
    (lowerConstructor options .inactive ⟨binding, modifiers, parameters, body⟩ ids).Emits
      (.constructorWidened binding.widen.signature :: trail) := by
  by_cases enough : ids.next.toNat + 2 ≤ last.toNat
  · obtain ⟨later, opened, _⟩ := open_constructor_enough binding ids constructor enough
    rw [lowerConstructor, opened]
    exact ((bodyEmits _ later).map _).after (constructorWork binding)
  · obtain ⟨later, opened, _⟩ :=
      open_constructor_short .inactive binding ids constructor (by omega)
    rw [lowerConstructor, opened]
    constructor
    · intro noError
      cases noError
    · intro _ _
      exact ⟨_, trail, rfl⟩

mutual

theorem lower_statement_emits (options : Options) (vars : ImplicitVars) (statement : Statement)
    (ids : IdSupply) :
    (lowerStatement options ⟨some vars⟩ statement ids).Emits statement.trail := by
  cases statement with
  | thisCall call =>
      rw [lowerStatement]
      exact (lower_call_emits vars call ids).map _
  | superCall call =>
      rw [lowerStatement]
      exact (lower_call_emits vars call ids).map _
  | block statements =>
      rw [lowerStatement, Statement.trail]
      exact (lower_statements_emits options vars statements ids).map _
  | conditional condition thenBranch elseBranch =>
      have thenEmits := lower_statement_emits options vars thenBranch ids
      cases elseBranch with
      | none =>
          rw [lowerStatement, Statement.trail]
          exact thenEmits.map _
      | some elseBranch =>
          rw [lowerStatement, Statement.trail]
          apply thenEmits.and_then
          intro _
          exact (lower_statement_emits options vars elseBranch _).map _
  | localType declaration =>
      rw [lowerStatement, Statement.trail]
      exact (lower_type_emits options declaration ids).map _
  | expression value => exact Outcome.emits_unchanged _ ids
  | result value => exact Outcome.emits_unchanged _ ids
  | localVariable binding initializer => exact Outcome.emits_unchanged _ ids

theorem lower_statements_emits (options : Options) (vars : ImplicitVars)
    (statements : List Statement) (ids : IdSupply) :
    (lowerStatements options ⟨some vars⟩ statements ids).Emits (Statement.trails statements) := by
  cases statements with
  | nil => exact Outcome.emits_unchanged [] ids
  | cons statement statements =>
      have headEmits := lower_statement_emits options vars statement ids
      rw [lowerStatements, Statement.trails]
      apply headEmits.and_then
      intro _
      exact (lower_statements_emits options vars statements _).map _

theorem lower_constructor_emits (options : Options) (method : MethodDeclaration) (ids : IdSupply)
    (constructor : method.binding.isEnumConstructor) :
    (lowerConstructor options .inactive method ids).Emits method.trail := by
  obtain ⟨binding, modifiers, parameters, body⟩ := method
  cases body with
  | none =>
      exact lower_constructor_emits_of_body options binding modifiers parameters none ids
        constructor [] fun _ later => Outcome.emits_unchanged none later
  | some statements =>
      exact lower_constructor_emits_of_body options binding modifiers parameters (some statements)
        ids constructor (Statement.trails statements) fun vars later =>
          (lower_statements_emits options vars statements later).map some

theorem lower_member_emits (options : Options) (member : Member) (ids : IdSupply) :
    (lowerMember options .inactive member ids).Emits member.trail := by
  cases member with
  | method method =>
      by_cases constructor : method.binding.isEnumConstructor
      · have methodEmits := lower_constructor_emits options method ids constructor
        rw [lowerMember, Member.trail, if_pos constructor, if_pos constructor]
        exact methodEmits.map _
      · rw [lowerMember, Member.trail, if_neg constructor, if_neg constructor]
        exact Outcome.emits_unchanged _ ids
  | type declaration =>
      rw [lowerMember, Member.trail]
      exact (lower_type_emits options declaration ids).map _
  | field declaration => exact Outcome.emits_unchanged _ ids
  | native block => exact Outcome.emits_unchanged _ ids

theorem lower_members_emits (options : Options) (members : List Member) (ids : IdSupply) :
    (lowerMembers options .inactive members ids).Emits (Member.trails members) := by
  cases members with
  | nil => exact Outcome.emits_unchanged _ ids
  | cons member members =>
      have headEmits := lower_member_emits options member ids
      rw [lowerMembers, Member.trails]
      apply headEmits.and_then
      intro noError
      have tailEmits : (lowerMembers options (lowerMember options .inactive member ids).value.2
          members (lowerMember options .inactive member ids).ids).Emits (Member.trails members) := by
        rw [context_lower_member options member ids noError]
        exact lower_members_emits options members _
      exact tailEmits.map _

theorem lower_type_emits (options : Options) (declaration : TypeDeclaration) (ids : IdSupply) :
    (lowerType options declaration ids).Emits declaration.trail := by
  rcases declaration with ⟨⟨binding, members, initializers⟩⟩ |
    ⟨⟨binding, constants, members, initializers⟩⟩
  · rw [lowerType, TypeDeclaration.trail]
    exact (lower_members_emits options members ids).map _
  · have membersEmit := lower_members_emits options members ids
    rw [lowerType, TypeDeclaration.trail, EnumDeclaration.closing,
      ← EnumDeclaration.duplicate_warnings_eq_warnings]
    apply membersEmit.and_then
    intro _
    rw [← List.append_nil (EnumDeclaration.duplicateWarnings _ ++ _)]
    exact (Outcome.emits_unchanged _ _).after _

end

theorem lower_types_emits (options : Options) (declarations : List TypeDeclaration)
    (ids : IdSupply) :
    (lowerTypes options declarations ids).Emits (declarations.flatMap TypeDeclaration.trail) := by
  induction declarations generalizing ids with
  | nil => exact Outcome.emits_unchanged [] ids
  | cons declaration declarations induction =>
      have headEmits := lower_type_emits options declaration ids
      rw [lowerTypes, List.flatMap_cons]
      apply headEmits.and_then
      intro _
      exact (induction _).map _

theorem CompilationUnit.lower_enums_emits (options : Options) (source : CompilationUnit) :
    (source.lowerEnums options).Emits source.trail :=
  have emits := lower_types_emits options source.types ⟨source.nextVarId⟩
  ⟨emits.finished, emits.stopped⟩

/-! The trail reports each visit once. -/

namespace Event

/-- The signature that a constructor is reported with. -/
def constructor? : Event → Option String
  | .constructorWidened signature => some signature
  | .duplicateConstant _ _ | .enumLowered _ _ => none

/-- The output name and the number of constants that an enum is reported with. -/
def enum? : Event → Option (String × Nat)
  | .enumLowered outputName constants => some (outputName, constants)
  | .constructorWidened _ | .duplicateConstant _ _ => none

/-- The enum and the constant that a warning names. -/
def warning? : Event → Option (String × String)
  | .duplicateConstant enumType constant => some (enumType, constant)
  | .constructorWidened _ | .enumLowered _ _ => none

/-- The constructors that some events report, in their order. -/
def constructors (events : List Event) : List String := events.filterMap constructor?

def enums (events : List Event) : List (String × Nat) := events.filterMap enum?

def warnings (events : List Event) : List (String × String) := events.filterMap warning?

/-- Events of one kind are told in the log by their message. -/
theorem count_message {α : Type} {message : String} {ofKind? : Event → Option α}
    (told : ∀ event : Event, event.record.message = message ↔ (ofKind? event).isSome)
    (events : List Event) :
    events.countP (fun event => event.record.message = message) =
      (events.filterMap ofKind?).length := by
  rw [List.length_filterMap_eq_countP]
  apply List.countP_congr
  intro event _
  rw [decide_eq_true_iff, told]

theorem count_message_constructors (events : List Event) :
    events.countP (fun event => event.record.message = "rewrote enum constructor") =
      (constructors events).length := by
  apply count_message
  intro event
  cases event <;> simp [record, constructor?]

theorem count_message_enums (events : List Event) :
    events.countP (fun event => event.record.message = "lowered enum") =
      (enums events).length := by
  apply count_message
  intro event
  cases event <;> simp [record, enum?]

theorem count_message_warnings (events : List Event) :
    events.countP (fun event => event.record.message = "duplicate enum constant name") =
      (warnings events).length := by
  apply count_message
  intro event
  cases event <;> simp [record, warning?]

end Event

theorem EnumDeclaration.mem_warnings {declaration : EnumDeclaration} {event : Event}
    (warned : event ∈ declaration.warnings) :
    ∃ constant, event = .duplicateConstant declaration.binding.qualifiedName constant := by
  obtain ⟨⟨constant, position⟩, _, same⟩ := List.mem_filterMap.mp warned
  dsimp only at same
  split at same
  · exact ⟨constant.name, (Option.some.inj same).symm⟩
  · cases same

theorem EnumDeclaration.constructors_closing (declaration : EnumDeclaration) :
    Event.constructors declaration.closing = [] := by
  rw [Event.constructors, List.filterMap_eq_nil_iff]
  intro event reported
  rcases List.mem_append.mp reported with warned | finished
  · obtain ⟨constant, rfl⟩ := mem_warnings warned
    rfl
  · rw [List.mem_singleton.mp finished]
    rfl

theorem EnumDeclaration.enums_closing (declaration : EnumDeclaration) :
    Event.enums declaration.closing =
      [(declaration.binding.outputName, declaration.constants.length)] := by
  have noEnum : declaration.warnings.filterMap Event.enum? = [] := by
    rw [List.filterMap_eq_nil_iff]
    intro event warned
    obtain ⟨constant, rfl⟩ := mem_warnings warned
    rfl
  rw [Event.enums, closing, List.filterMap_append, noEnum]
  rfl

theorem EnumDeclaration.length_warnings_closing (declaration : EnumDeclaration) :
    (Event.warnings declaration.closing).length = declaration.warnings.length := by
  have each : (declaration.warnings.filterMap Event.warning?).length =
      declaration.warnings.length := by
    rw [List.filterMap_length_eq_length]
    intro event warned
    obtain ⟨constant, rfl⟩ := mem_warnings warned
    rfl
  rw [Event.warnings, closing, List.filterMap_append, List.length_append, each]
  rfl

namespace Visit

/-- The events report the constructors in the order of the visits, and every visited
enum once: one that holds others is visited before them and reported after them. All
warnings belong to visited enums. -/
structure Reported (visits : List Visit) (events : List Event) : Prop where
  constructors : Event.constructors events =
    (constructors visits).map fun method => method.item.binding.widen.signature
  enums : (Event.enums events).Perm ((enums visits).map fun declaration =>
    (declaration.item.binding.outputName, declaration.item.constants.length))
  warnings : (Event.warnings events).length =
    ((Visit.enums visits).map fun declaration => declaration.item.warnings.length).sum

theorem reported_nil : Reported [] [] := ⟨rfl, List.Perm.refl _, rfl⟩

theorem Reported.append {visits laterVisits : List Visit} {events laterEvents : List Event}
    (reported : Reported visits events) (laterReported : Reported laterVisits laterEvents) :
    Reported (visits ++ laterVisits) (events ++ laterEvents) := by
  constructor
  · rw [Event.constructors, List.filterMap_append, constructors_append, List.map_append,
      ← reported.constructors, ← laterReported.constructors]
    rfl
  · rw [Event.enums, List.filterMap_append, enums_append, List.map_append]
    exact reported.enums.append laterReported.enums
  · rw [Event.warnings, List.filterMap_append, List.length_append, enums_append, List.map_append,
      List.sum_append, ← reported.warnings, ← laterReported.warnings]
    rfl

theorem Reported.cons_constructor {visits : List Visit} {events : List Event}
    (reported : Reported visits events) (method : Located MethodDeclaration) :
    Reported (.constructor method :: visits)
      (.constructorWidened method.item.binding.widen.signature :: events) where
  constructors := congrArg (method.item.binding.widen.signature :: ·) reported.constructors
  enums := reported.enums
  warnings := reported.warnings

theorem Reported.cons_class {visits : List Visit} {events : List Event}
    (reported : Reported visits events) (place : Place) (declaration : ClassDeclaration) :
    Reported (.type ⟨place, .ofClass declaration⟩ :: visits) events :=
  ⟨reported.constructors, reported.enums, reported.warnings⟩

theorem Reported.cons_enum {visits : List Visit} {events : List Event}
    (reported : Reported visits events) (place : Place) (declaration : EnumDeclaration) :
    Reported (.type ⟨place, .ofEnum declaration⟩ :: visits) (events ++ declaration.closing) := by
  constructor
  · have closed : List.filterMap Event.constructor? declaration.closing = [] :=
      declaration.constructors_closing
    rw [Event.constructors, List.filterMap_append, closed, List.append_nil]
    exact reported.constructors
  · have closed : List.filterMap Event.enum? declaration.closing =
        [(declaration.binding.outputName, declaration.constants.length)] :=
      declaration.enums_closing
    rw [Event.enums, List.filterMap_append, closed, enums_cons_enum, List.map_cons]
    exact (List.perm_append_singleton _ _).trans (reported.enums.cons _)
  · have closed : (List.filterMap Event.warning? declaration.closing).length =
        declaration.warnings.length := declaration.length_warnings_closing
    rw [Event.warnings, List.filterMap_append, List.length_append, closed, enums_cons_enum,
      List.map_cons, List.sum_cons, Nat.add_comm, ← reported.warnings]
    rfl

end Visit

mutual

theorem Statement.reported_visits (place : Place) (statement : Statement) :
    Visit.Reported (statement.visits place) statement.trail := by
  cases statement with
  | block statements =>
      rw [Statement.visits, Statement.trail]
      exact Statement.reported_visits_from place 0 statements
  | conditional condition thenBranch elseBranch =>
      have inThen := thenBranch.reported_visits (.thenBranch :: place)
      cases elseBranch with
      | none =>
          rw [Statement.visits, Statement.trail]
          exact inThen
      | some elseBranch =>
          rw [Statement.visits, Statement.trail]
          exact inThen.append (elseBranch.reported_visits (.elseBranch :: place))
  | localType declaration =>
      rw [Statement.visits, Statement.trail]
      exact declaration.reported_visits place
  | expression value => exact Visit.reported_nil
  | result value => exact Visit.reported_nil
  | localVariable binding initializer => exact Visit.reported_nil
  | thisCall call => exact Visit.reported_nil
  | superCall call => exact Visit.reported_nil

theorem Statement.reported_visits_from (place : Place) (index : Nat)
    (statements : List Statement) :
    Visit.Reported (Statement.visitsFrom place index statements)
      (Statement.trails statements) := by
  cases statements with
  | nil => exact Visit.reported_nil
  | cons statement statements =>
      have inHead := statement.reported_visits (.statement index :: place)
      rw [Statement.visitsFrom, Statement.trails]
      exact inHead.append (Statement.reported_visits_from place (index + 1) statements)

theorem MethodDeclaration.reported_visits (place : Place) (method : MethodDeclaration) :
    Visit.Reported (method.visits place) method.trail := by
  obtain ⟨binding, modifiers, parameters, body⟩ := method
  cases body with
  | none => exact Visit.reported_nil.cons_constructor ⟨place, binding, modifiers, parameters, none⟩
  | some statements =>
      have inBody := Statement.reported_visits_from place 0 statements
      exact inBody.cons_constructor ⟨place, binding, modifiers, parameters, some statements⟩

theorem Member.reported_visits (place : Place) (member : Member) :
    Visit.Reported (member.visits place) member.trail := by
  cases member with
  | method method =>
      have inMethod := method.reported_visits place
      rw [Member.visits, Member.trail]
      split
      · exact inMethod
      · exact Visit.reported_nil
  | type declaration =>
      rw [Member.visits, Member.trail]
      exact declaration.reported_visits place
  | field declaration => exact Visit.reported_nil
  | native block => exact Visit.reported_nil

theorem Member.reported_visits_from (place : Place) (index : Nat) (members : List Member) :
    Visit.Reported (Member.visitsFrom place index members) (Member.trails members) := by
  cases members with
  | nil => exact Visit.reported_nil
  | cons member members =>
      have inHead := member.reported_visits (.member index :: place)
      rw [Member.visitsFrom, Member.trails]
      exact inHead.append (Member.reported_visits_from place (index + 1) members)

theorem TypeDeclaration.reported_visits (place : Place) (declaration : TypeDeclaration) :
    Visit.Reported (declaration.visits place) declaration.trail := by
  rcases declaration with ⟨⟨binding, members, initializers⟩⟩ |
    ⟨⟨binding, constants, members, initializers⟩⟩
  all_goals
    have inMembers := Member.reported_visits_from place 0 members
    rw [TypeDeclaration.visits, TypeDeclaration.trail]
  · exact inMembers.cons_class place _
  · exact inMembers.cons_enum place _

end

theorem TypeDeclaration.reported_visits_from (index : Nat) (declarations : List TypeDeclaration) :
    Visit.Reported (TypeDeclaration.visitsFrom index declarations)
      (declarations.flatMap TypeDeclaration.trail) := by
  induction declarations generalizing index with
  | nil => exact Visit.reported_nil
  | cons declaration declarations induction =>
      rw [TypeDeclaration.visitsFrom, List.flatMap_cons]
      exact (declaration.reported_visits [.type index]).append (induction (index + 1))

namespace CompilationUnit

theorem events_lower_enums (options : Options) (source : CompilationUnit)
    (succeeds : (source.lowerEnums options).error = none) :
    (source.lowerEnums options).work.events = source.trail :=
  (lower_enums_emits options source).finished succeeds

/-- A constructor is reported with the signature that it has in the lowered unit. -/
theorem signatures_lower_enums (options : Options) (source : CompilationUnit)
    (succeeds : (source.lowerEnums options).error = none) :
    (source.lowerEnums options).value.visitedConstructors.map
        (fun method => method.item.binding.signature) =
      source.visitedConstructors.map fun method => method.item.binding.widen.signature := by
  apply List.ext_getElem?
  intro index
  rw [List.getElem?_map, List.getElem?_map,
    visited_constructors_lower_enums_getElem? options source succeeds, Option.map_map]
  simp only [Function.comp_def, binding_lowered_constructor]
  rfl

end CompilationUnit

namespace Sample

/-- `palette` with the constant `RED` declared twice. -/
def redTwice (nextVarId : UInt32) : CompilationUnit :=
  .ofTypes [.ofEnum { colorEnum with constants := colorEnum.constants ++ colorEnum.constants }]
    nextVarId

end Sample

end EnumLowering
