import EnumLowering.Proofs.AuditTrail
import EnumLowering.Proofs.NativeListing
import EnumLowering.Proofs.StackPrinter

/-!
The native text of a lowered unit against the support text of a single enum. The text of
a unit collects blocks from the tree, while the support text of an enum needs only a name
and a number of constants. Where no constructor declares a type, both print the same
sections: the text of the unit has, for each enum in the order in which the run completes
them, the sections of that enum alone, all headers first.
-/

namespace EnumLowering

/-! The order of completion: an enum is completed after the enums inside it. -/

mutual

def TypeDeclaration.completedEnums : TypeDeclaration → List EnumDeclaration
  | .ofClass ⟨_, members, _⟩ => Member.completedEnums members
  | .ofEnum ⟨binding, constants, members, initializers⟩ =>
      Member.completedEnums members ++ [⟨binding, constants, members, initializers⟩]

def Member.completedEnums : List Member → List EnumDeclaration
  | [] => []
  | .type declaration :: members =>
      declaration.completedEnums ++ Member.completedEnums members
  | .method _ :: members => Member.completedEnums members
  | .field _ :: members => Member.completedEnums members
  | .native _ :: members => Member.completedEnums members

end

/-- The enums of a unit and of its member types, each behind the enums inside it. -/
def CompilationUnit.completedEnums (compilationUnit : CompilationUnit) : List EnumDeclaration :=
  compilationUnit.types.flatMap TypeDeclaration.completedEnums

/-- What a run reports of an enum when it completes it. -/
def EnumDeclaration.report (declaration : EnumDeclaration) : String × Nat :=
  (declaration.binding.outputName, declaration.constants.length)

mutual

theorem Statement.visits_eq_nil (place : Place) (statement : Statement)
    (noTypes : ∀ there inner, ¬ Statement.Declares place statement there inner) :
    statement.visits place = [] := by
  cases statement with
  | block statements =>
      rw [Statement.visits]
      apply Statement.visits_from_eq_nil
      intro index statement found there inner inside
      rw [Nat.zero_add] at inside
      exact noTypes there inner (.block found inside)
  | conditional condition thenBranch elseBranch =>
      have inThen := thenBranch.visits_eq_nil (.thenBranch :: place) fun there inner inside =>
        noTypes there inner (.thenBranch inside)
      cases elseBranch with
      | none => rw [Statement.visits, inThen]
      | some elseBranch =>
          have inElse := elseBranch.visits_eq_nil (.elseBranch :: place) fun there inner inside =>
            noTypes there inner (.elseBranch inside)
          rw [Statement.visits, inThen, inElse]
          rfl
  | localType declaration => exact absurd .here (noTypes place declaration)
  | expression value => rw [Statement.visits]
  | result value => rw [Statement.visits]
  | localVariable binding initializer => rw [Statement.visits]
  | thisCall call => rw [Statement.visits]
  | superCall call => rw [Statement.visits]

theorem Statement.visits_from_eq_nil (place : Place) (start : Nat) (statements : List Statement)
    (noTypes : ∀ (index : Nat) statement, statements[index]? = some statement →
      ∀ there inner,
        ¬ Statement.Declares (.statement (start + index) :: place) statement there inner) :
    Statement.visitsFrom place start statements = [] := by
  cases statements with
  | nil => rfl
  | cons statement statements =>
      have inHead := statement.visits_eq_nil (.statement start :: place) (noTypes 0 statement rfl)
      have inTail := Statement.visits_from_eq_nil place (start + 1) statements (by
        intro index later found
        rw [Nat.add_right_comm]
        exact noTypes (index + 1) later found)
      rw [Statement.visitsFrom, inHead, inTail]
      rfl

end

/-- No constructor among the visits declares a type in its body. -/
def Visit.WithoutLocalTypes (visits : List Visit) : Prop :=
  ∀ method ∈ constructors visits, ∀ there inner,
    ¬ method.item.DeclaresLocal method.place there inner

theorem MethodDeclaration.visits_of_without_local_types (place : Place) (method : MethodDeclaration)
    (noLocals : Visit.WithoutLocalTypes (method.visits place)) :
    method.visits place = [.constructor ⟨place, method⟩] := by
  obtain ⟨binding, modifiers, parameters, body⟩ := method
  rw [MethodDeclaration.visits] at noLocals ⊢
  have noTypes := noLocals _ List.mem_cons_self
  cases body with
  | none => rfl
  | some statements =>
      rw [Statement.visitsBody, Statement.visits_from_eq_nil]
      intro index statement found there inner inside
      rw [Nat.zero_add] at inside
      exact noTypes there inner ⟨statements, index, statement, rfl, found, inside⟩

namespace Visit

theorem without_local_types_append (left right : List Visit) :
    WithoutLocalTypes (left ++ right) ↔ WithoutLocalTypes left ∧ WithoutLocalTypes right := by
  simp only [WithoutLocalTypes, constructors_append, List.mem_append, or_imp, forall_and]

/-- The completed enums are those among the visits, and the events report them in the
order of completion. -/
structure Completes (visits : List Visit) (events : List Event)
    (completed : List EnumDeclaration) : Prop where
  each : completed.Perm ((enums visits).map Located.item)
  reported : Event.enums events = completed.map EnumDeclaration.report

theorem completes_nil : Completes [] [] [] := ⟨List.Perm.refl _, rfl⟩

theorem Completes.append {visits laterVisits : List Visit} {events laterEvents : List Event}
    {completed later : List EnumDeclaration} (completes : Completes visits events completed)
    (laterCompletes : Completes laterVisits laterEvents later) :
    Completes (visits ++ laterVisits) (events ++ laterEvents) (completed ++ later) := by
  constructor
  · rw [enums_append, List.map_append]
    exact completes.each.append laterCompletes.each
  · rw [Event.enums, List.filterMap_append, List.map_append, ← completes.reported,
      ← laterCompletes.reported]
    rfl

theorem Completes.cons_class {visits : List Visit} {events : List Event}
    {completed : List EnumDeclaration} (completes : Completes visits events completed)
    (place : Place) (declaration : ClassDeclaration) :
    Completes (.type ⟨place, .ofClass declaration⟩ :: visits) events completed :=
  ⟨completes.each, completes.reported⟩

theorem Completes.cons_enum {visits : List Visit} {events : List Event}
    {completed : List EnumDeclaration} (completes : Completes visits events completed)
    (place : Place) (declaration : EnumDeclaration) :
    Completes (.type ⟨place, .ofEnum declaration⟩ :: visits) (events ++ declaration.closing)
      (completed ++ [declaration]) := by
  constructor
  · rw [enums_cons_enum, List.map_cons]
    exact (List.perm_append_singleton _ _).trans (completes.each.cons _)
  · have closed : List.filterMap Event.enum? declaration.closing = [declaration.report] :=
      declaration.enums_closing
    rw [Event.enums, List.filterMap_append, closed, List.map_append, ← completes.reported]
    rfl

end Visit

/-- A method completes no enum. -/
theorem Member.completes_method (place : Place) (method : MethodDeclaration)
    (noLocals : Visit.WithoutLocalTypes ((Member.method method).visits place)) :
    Visit.Completes ((Member.method method).visits place) (Member.method method).trail [] := by
  have reported := (Member.method method).reported_visits place
  have noEnum : Visit.enums ((Member.method method).visits place) = [] := by
    rw [Member.visits] at noLocals ⊢
    split
    next constructor =>
      rw [if_pos constructor] at noLocals
      rw [method.visits_of_without_local_types place noLocals]
      rfl
    next => rfl
  have nothing := reported.enums
  rw [noEnum, List.map_nil, List.perm_nil] at nothing
  refine ⟨?_, nothing⟩
  rw [noEnum]
  exact List.Perm.refl _

mutual

theorem Member.completes_visits_from (place : Place) (index : Nat) (members : List Member)
    (noLocals : Visit.WithoutLocalTypes (Member.visitsFrom place index members)) :
    Visit.Completes (Member.visitsFrom place index members) (Member.trails members)
      (Member.completedEnums members) := by
  cases members with
  | nil => exact Visit.completes_nil
  | cons member members =>
      rw [Member.visitsFrom] at noLocals
      obtain ⟨inHead, inTail⟩ := (Visit.without_local_types_append _ _).mp noLocals
      have rest := Member.completes_visits_from place (index + 1) members inTail
      rw [Member.visitsFrom, Member.trails]
      cases member with
      | method method =>
          rw [Member.completedEnums, ← List.nil_append (Member.completedEnums members)]
          exact (Member.completes_method _ method inHead).append rest
      | type declaration =>
          have inType := declaration.completes_visits (.member index :: place) (by
            rwa [Member.visits] at inHead)
          rw [Member.completedEnums, Member.visits, Member.trail]
          exact inType.append rest
      | field declaration =>
          rw [Member.completedEnums]
          exact rest
      | native block =>
          rw [Member.completedEnums]
          exact rest

theorem TypeDeclaration.completes_visits (place : Place) (declaration : TypeDeclaration)
    (noLocals : Visit.WithoutLocalTypes (declaration.visits place)) :
    Visit.Completes (declaration.visits place) declaration.trail declaration.completedEnums := by
  rcases declaration with ⟨⟨binding, members, initializers⟩⟩ |
    ⟨⟨binding, constants, members, initializers⟩⟩
  all_goals
    rw [TypeDeclaration.visits] at noLocals
    have inMembers := Member.completes_visits_from place 0 members noLocals
    rw [TypeDeclaration.visits, TypeDeclaration.trail, TypeDeclaration.completedEnums]
  · exact inMembers.cons_class place _
  · exact inMembers.cons_enum place _

end

theorem TypeDeclaration.completes_visits_from (index : Nat) (declarations : List TypeDeclaration)
    (noLocals : Visit.WithoutLocalTypes (TypeDeclaration.visitsFrom index declarations)) :
    Visit.Completes (TypeDeclaration.visitsFrom index declarations)
      (declarations.flatMap TypeDeclaration.trail)
      (declarations.flatMap TypeDeclaration.completedEnums) := by
  induction declarations generalizing index with
  | nil => exact Visit.completes_nil
  | cons declaration declarations induction =>
      rw [TypeDeclaration.visitsFrom] at noLocals
      obtain ⟨inHead, inTail⟩ := (Visit.without_local_types_append _ _).mp noLocals
      rw [TypeDeclaration.visitsFrom, List.flatMap_cons, List.flatMap_cons]
      exact (declaration.completes_visits _ inHead).append (induction (index + 1) inTail)

/-! The collector meets the support of an enum behind the blocks of its members. -/

theorem Member.native_blocks_append (owner : String) (left right : List Member) :
    Member.nativeBlocks owner (left ++ right) =
      Member.nativeBlocks owner left ++ Member.nativeBlocks owner right := by
  induction left with
  | nil => rfl
  | cons member left induction =>
      cases member <;> simp [Member.nativeBlocks, induction]

mutual

theorem native_blocks_lowered_members (options : Options) (first : Nat) (owner : String)
    (members : List Member) (noBlocks : Member.nativeBlocks owner members = []) :
    Member.nativeBlocks owner (loweredMembers options first members) =
      (Member.completedEnums members).flatMap (EnumDeclaration.supportBlocks options) := by
  cases members with
  | nil => rfl
  | cons member members =>
      have rest := native_blocks_lowered_members options
        (first + 2 * member.constructorCount) owner members
      rw [loweredMembers]
      cases member with
      | method method =>
          rw [Member.nativeBlocks] at noBlocks
          rw [loweredMember, Member.completedEnums, ← rest noBlocks]
          split <;> rw [Member.nativeBlocks]
      | type declaration =>
          rw [Member.nativeBlocks, List.append_eq_nil_iff] at noBlocks
          rw [loweredMember, Member.nativeBlocks, Member.completedEnums, List.flatMap_append,
            native_blocks_lowered_type options first declaration noBlocks.1, rest noBlocks.2]
      | field declaration =>
          rw [Member.nativeBlocks] at noBlocks
          rw [loweredMember, Member.nativeBlocks, Member.completedEnums, rest noBlocks]
      | native block =>
          rw [Member.nativeBlocks] at noBlocks
          cases noBlocks

theorem native_blocks_lowered_type (options : Options) (first : Nat) (declaration : TypeDeclaration)
    (noBlocks : declaration.nativeBlocks = []) :
    (loweredType options first declaration).nativeBlocks =
      declaration.completedEnums.flatMap (EnumDeclaration.supportBlocks options) := by
  rcases declaration with ⟨⟨binding, members, initializers⟩⟩ |
    ⟨⟨binding, constants, members, initializers⟩⟩
  all_goals
    rw [TypeDeclaration.nativeBlocks] at noBlocks
    have inMembers :=
      native_blocks_lowered_members options first binding.outputName members noBlocks
  · rw [loweredType, TypeDeclaration.nativeBlocks, TypeDeclaration.completedEnums, inMembers]
  · rw [loweredType, EnumDeclaration.finish, EnumDeclaration.lowerConstants,
      TypeDeclaration.nativeBlocks, TypeDeclaration.completedEnums, Member.native_blocks_append,
      inMembers, List.flatMap_append]
    rfl

end

theorem native_blocks_lowered_types (options : Options) (first : Nat)
    (declarations : List TypeDeclaration)
    (noBlocks : declarations.flatMap TypeDeclaration.nativeBlocks = []) :
    (loweredTypes options first declarations).flatMap TypeDeclaration.nativeBlocks =
      (declarations.flatMap TypeDeclaration.completedEnums).flatMap
        (EnumDeclaration.supportBlocks options) := by
  induction declarations generalizing first with
  | nil => rfl
  | cons declaration declarations induction =>
      rw [List.flatMap_cons, List.append_eq_nil_iff] at noBlocks
      rw [loweredTypes, List.flatMap_cons, List.flatMap_cons, List.flatMap_append,
        native_blocks_lowered_type options first declaration noBlocks.1,
        induction _ noBlocks.2]

/-! The sections of a single enum. -/

namespace Native

/-- The sections that the support text of an enum starts with. -/
def headerSections (options : Options) (typeName : String) (count : Nat) : List Section :=
  let support := enumSupport typeName count options
  [⟨typeName ++ " (header)", support.inner.header⟩,
    ⟨typeName ++ " (header, file scope)", support.outer.header⟩]

/-- The sections that the support text of an enum ends with. -/
def implementationSections (options : Options) (typeName : String) (count : Nat) : List Section :=
  let support := enumSupport typeName count options
  [⟨typeName ++ " (implementation)", support.inner.implementation⟩,
    ⟨typeName ++ " (implementation, file scope)", support.outer.implementation⟩]

end Native

namespace EnumDeclaration

variable (options : Options) (declaration : EnumDeclaration)

def headerSections : List Native.Section :=
  Native.headerSections options declaration.binding.outputName declaration.constants.length

def implementationSections : List Native.Section :=
  Native.implementationSections options declaration.binding.outputName
    declaration.constants.length

theorem header_sections_eq :
    (declaration.supportBlocks options).map
        (fun (name, block) => Native.headerSection name block) =
      declaration.headerSections options := by
  simp [supportBlocks, headerSections, Native.headerSections, Native.headerSection,
    Native.placeLabel, Native.enumSupport, String.append_assoc]

theorem implementation_sections_eq :
    (declaration.supportBlocks options).map
        (fun (name, block) => Native.implementationSection name block) =
      declaration.implementationSections options := by
  simp [supportBlocks, implementationSections, Native.implementationSections,
    Native.implementationSection, Native.placeLabel, Native.enumSupport, String.append_assoc]

end EnumDeclaration

namespace Native

theorem block_listing_support_blocks (options : Options) (declarations : List EnumDeclaration) :
    blockListing (declarations.flatMap (EnumDeclaration.supportBlocks options)) =
      listing (declarations.flatMap (EnumDeclaration.headerSections options) ++
        declarations.flatMap (EnumDeclaration.implementationSections options)) := by
  rw [blockListing, List.map_flatMap, List.map_flatMap]
  simp only [EnumDeclaration.header_sections_eq, EnumDeclaration.implementation_sections_eq]

theorem support_text_eq_listing (options : Options) (typeName : String) (count : Nat) :
    supportText typeName count options =
      listing (headerSections options typeName count ++
        implementationSections options typeName count) := by
  simp [supportText, headerSections, implementationSections, String.append_assoc]

theorem print_eq_empty_or_ends_line (doc : Doc) (width : Nat) :
    doc.print width = "" ∨ (doc.print width).toList.getLast? = some '\n' := by
  rw [Doc.print_eq_end_line_layout, Doc.end_line_eq_ite]
  split
  next => simp
  next ended => simpa [or_iff_not_imp_left] using ended

/-- A section ends its last line, its title alone if it has no text. -/
theorem Section.ends_line_print (title : String) (doc : Doc) (width : Nat) :
    (Section.render ⟨title, doc.print width⟩).toList.getLast? = some '\n' := by
  have titled : ("// " ++ title ++ "\n").toList.getLast? = some '\n' := by
    rw [String.toList_append, List.getLast?_append]
    rfl
  rw [Section.render, String.toList_append, List.getLast?_append, titled]
  rcases print_eq_empty_or_ends_line doc width with blank | ended
  · simp [blank]
  · simp [ended]

theorem ends_line_sections (options : Options) (typeName : String) (count : Nat) :
    ∀ entry ∈ headerSections options typeName count ++
        implementationSections options typeName count,
      entry.render.toList.getLast? = some '\n' := by
  simp only [headerSections, implementationSections, enumSupport, List.cons_append,
    List.nil_append, List.forall_mem_cons, List.not_mem_nil, false_implies, implies_true,
    Section.ends_line_print, and_self]

end Native

namespace CompilationUnit

variable (options : Options) (source : CompilationUnit)
  (succeeds : (source.lowerEnums options).error = none)
  (noBlocks : ∀ declaration ∈ source.visitedTypes, declaration.item.ownBlocks = [])
  (noLocals : ∀ method ∈ source.visitedConstructors, ∀ there inner,
    ¬ method.item.DeclaresLocal method.place there inner)

include noBlocks in
theorem native_blocks_eq_nil : source.types.flatMap TypeDeclaration.nativeBlocks = [] := by
  have nothing : Visit.memberBlocks source.visits = [] := by
    rw [Visit.memberBlocks, List.flatMap_eq_nil_iff]
    intro declaration visited
    exact noBlocks declaration (List.mem_of_mem_filter visited)
  have collected := TypeDeclaration.perm_native_blocks_all 0 source.types
  rwa [← visits, nothing, List.perm_nil] at collected

include succeeds noBlocks in
theorem native_text_lower_enums :
    (source.lowerEnums options).value.nativeText =
      Native.listing (source.completedEnums.flatMap (EnumDeclaration.headerSections options) ++
        source.completedEnums.flatMap (EnumDeclaration.implementationSections options)) := by
  rw [nativeText, types_lower_enums options source succeeds,
    native_blocks_lowered_types options _ source.types (source.native_blocks_eq_nil noBlocks),
    Native.block_listing_support_blocks]
  rfl

end CompilationUnit

namespace Sample

def tone : TypeBinding := (TypeBinding.topLevel .enumType none "Tone").nestedIn color

/-- `enum Tone { WARM, COLD; Tone() { super(); } }`, a member of `Color`. -/
def toneEnum : EnumDeclaration :=
  { binding := tone
    constants := [⟨.field ⟨1⟩ "WARM" tone tone, .constructorOf tone [], []⟩,
      ⟨.field ⟨2⟩ "COLD" tone tone, .constructorOf tone [], []⟩]
    members := [.method (.ofBinding (.constructorOf tone []) [] [superCall])]
    initializers := [] }

/-- `enum Color { RED; Color() { super(); } enum Tone }` -/
def tonedColor : EnumDeclaration :=
  { colorEnum with
    members := [.method (.ofBinding (.constructorOf color []) [] [superCall]),
      .type (.ofEnum toneEnum)] }

theorem super_call_declares_nothing (binding : MethodBinding) (place there : Place)
    (inner : TypeDeclaration) :
    ¬ (MethodDeclaration.ofBinding binding [] [superCall]).DeclaresLocal place there inner := by
  rintro ⟨statements, index, statement, body, found, inside⟩
  cases body
  cases index with
  | zero =>
      cases found
      cases inside
  | succ index => cases found

def tonedUnit : CompilationUnit := .ofTypes [.ofEnum tonedColor] 3

def toneUnit : CompilationUnit := .ofTypes [.ofEnum toneEnum] 3

end Sample

end EnumLowering
