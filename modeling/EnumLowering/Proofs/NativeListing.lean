import EnumLowering.Native.Listing
import EnumLowering.Proofs.Signatures
import EnumLowering.Proofs.VisitedEnums

/-!
Which native blocks the text of a unit shows. The text collects the blocks of types and
of their member types. Lowering reaches further, into the local types of constructor
bodies, and attaches its support there as well; those blocks are in the tree but not in
the text. So the text of a lowered unit shows every block that was attached exactly when
no enum constructor declares an enum in its body.
-/

namespace EnumLowering

/-! The length of a listing tells how much is listed, in whatever order. -/

namespace Native

/-- What a section takes up, together with the line feed that sets it apart. -/
def Section.size (entry : Section) : Nat := entry.render.length + 1

theorem length_listing (sections : List Section) :
    (listing sections).length = (sections.map Section.size).sum - 1 := by
  have padded (head : Section) (rest : List Section) :
      (listing (head :: rest)).length + 1 = ((head :: rest).map Section.size).sum := by
    induction rest generalizing head with
    | nil => simp [listing, Section.size]
    | cons next rest induction =>
        have tail := induction next
        have newline : ("\n" : String).length = 1 := rfl
        rw [listing, List.map_cons, List.map_cons, String.intercalate_cons_cons,
          String.length_append, String.length_append, newline, List.map_cons, List.sum_cons, ← tail,
          Section.size, listing, List.map_cons]
        omega
  cases sections with
  | nil => rfl
  | cons head rest =>
      rw [← padded head rest]
      omega

/-- What the two sections of a block take up. -/
def blockSize (entry : String × NativeBlock) : Nat :=
  (headerSection entry.1 entry.2).size + (implementationSection entry.1 entry.2).size

theorem block_size_pos (entry : String × NativeBlock) : 2 ≤ blockSize entry := by
  rw [blockSize, Section.size, Section.size]
  omega

theorem length_block_listing (blocks : List (String × NativeBlock)) :
    (blockListing blocks).length = (blocks.map blockSize).sum - 1 := by
  have sizes : ((blocks.map (fun (name, block) => headerSection name block) ++
      blocks.map (fun (name, block) => implementationSection name block)).map Section.size).sum =
        (blocks.map blockSize).sum := by
    induction blocks with
    | nil => rfl
    | cons entry blocks induction =>
        simp only [List.map_append, List.sum_append, List.map_cons, List.sum_cons,
          List.map_map] at induction ⊢
        rw [← induction, blockSize]
        omega
  rw [blockListing, length_listing, sizes]

/-- A listing of some blocks is no listing of more of them. -/
theorem block_listing_ne_of_missing {listed all shown missing : List (String × NativeBlock)}
    (permutes : listed.Perm shown) (splits : all.Perm (shown ++ missing)) (some : missing ≠ []) :
    blockListing listed ≠ blockListing all := by
  intro same
  have lengths := congrArg String.length same
  have listedSize := (permutes.map blockSize).sum_nat
  have allSize := (splits.map blockSize).sum_nat
  rw [List.map_append, List.sum_append] at allSize
  rw [length_block_listing, length_block_listing, listedSize, allSize] at lengths
  cases missing with
  | nil => exact some rfl
  | cons entry missing =>
      have positive := block_size_pos entry
      rw [List.map_cons, List.sum_cons] at lengths
      omega

end Native

/-! The collector and the walk. Both come to the types of a unit and to their member
types; a type that only the walk comes to has a statement on its way. -/

def Turn.isStatement : Turn → Bool
  | .statement _ => true
  | _ => false

/-- The declaration stands in the body of a constructor, or inside one that does. -/
def Located.isLocal {α : Type} (declaration : Located α) : Bool :=
  declaration.place.any Turn.isStatement

/-- The native blocks among the members of a type. -/
def TypeDeclaration.ownBlocks (declaration : TypeDeclaration) : List (String × NativeBlock) :=
  (declaration.members.filterMap Member.native?).map fun block =>
    (declaration.binding.outputName, block)

namespace Visit

/-- The types among some visits that are reached through member types alone. -/
def memberTypes (visits : List Visit) : List (Located TypeDeclaration) :=
  (types visits).filter fun declaration => !declaration.isLocal

def memberBlocks (visits : List Visit) : List (String × NativeBlock) :=
  (memberTypes visits).flatMap fun declaration => declaration.item.ownBlocks

theorem member_blocks_append (left right : List Visit) :
    memberBlocks (left ++ right) = memberBlocks left ++ memberBlocks right := by
  simp only [memberBlocks, memberTypes, types, List.filterMap_append, List.filter_append,
    List.flatMap_append]

theorem member_blocks_of_local {visits : List Visit}
    (allLocal : ∀ visit ∈ visits, visit.place.any Turn.isStatement = true) :
    memberBlocks visits = [] := by
  have none : memberTypes visits = [] := by
    rw [memberTypes, List.filter_eq_nil_iff]
    intro declaration visited
    have isLocal := allLocal _ ((mem_types visits declaration).mp visited)
    rw [Located.isLocal]
    change declaration.place.any Turn.isStatement = true at isLocal
    rw [isLocal]
    exact Bool.false_ne_true
  rw [memberBlocks, none, List.flatMap_nil]

theorem member_blocks_cons_type (place : Place) (declaration : TypeDeclaration)
    (visits : List Visit) (onMembers : place.any Turn.isStatement = false) :
    memberBlocks (.type ⟨place, declaration⟩ :: visits) =
      declaration.ownBlocks ++ memberBlocks visits := by
  have split : types (.type ⟨place, declaration⟩ :: visits) =
      ⟨place, declaration⟩ :: types visits := rfl
  have kept : (!(⟨place, declaration⟩ : Located TypeDeclaration).isLocal) = true := by
    rw [Located.isLocal, onMembers]
    rfl
  rw [memberBlocks, memberTypes, split, List.filter_cons, if_pos kept, List.flatMap_cons]
  rfl

end Visit

/-- A constructor has all its visits behind a statement of its body. -/
theorem MethodDeclaration.member_blocks_visits (place : Place) (method : MethodDeclaration) :
    Visit.memberBlocks (method.visits place) = [] := by
  obtain ⟨binding, modifiers, parameters, body⟩ := method
  rw [MethodDeclaration.visits]
  cases body with
  | none => rfl
  | some statements =>
      have inBody : Visit.memberBlocks (Statement.visitsFrom place 0 statements) = [] := by
        apply Visit.member_blocks_of_local
        intro visit visited
        obtain ⟨index, _, _, inside⟩ :=
          Statement.suffix_of_mem_visits_from place 0 statements visit visited
        exact List.any_eq_true.mpr ⟨.statement index, inside.subset List.mem_cons_self, rfl⟩
      exact inBody

mutual

theorem Member.perm_native_blocks (owner : String) (place : Place) (index : Nat)
    (members : List Member) (onMembers : place.any Turn.isStatement = false) :
    (Member.nativeBlocks owner members).Perm
      ((members.filterMap Member.native?).map (fun block => (owner, block)) ++
        Visit.memberBlocks (Member.visitsFrom place index members)) := by
  cases members with
  | nil => exact List.Perm.refl _
  | cons member members =>
      have inRest := Member.perm_native_blocks owner place (index + 1) members onMembers
      rw [Member.visitsFrom, Visit.member_blocks_append]
      cases member with
      | method method =>
          have inMethod : Visit.memberBlocks
              ((Member.method method).visits (.member index :: place)) = [] := by
            rw [Member.visits]
            split
            · exact method.member_blocks_visits _
            · rfl
          rw [Member.nativeBlocks, inMethod]
          exact inRest
      | field declaration =>
          rw [Member.nativeBlocks]
          exact inRest
      | type declaration =>
          have inType := declaration.perm_native_blocks (.member index :: place) onMembers
          rw [Member.nativeBlocks, Member.visits]
          -- the blocks of the member type stand between those of its owner
          refine (inType.append inRest).trans ?_
          rw [← List.append_assoc, ← List.append_assoc]
          exact List.perm_append_comm.append_right _
      | native block =>
          rw [Member.nativeBlocks]
          exact inRest.cons (owner, block)

theorem TypeDeclaration.perm_native_blocks (place : Place) (declaration : TypeDeclaration)
    (onMembers : place.any Turn.isStatement = false) :
    declaration.nativeBlocks.Perm (Visit.memberBlocks (declaration.visits place)) := by
  rcases declaration with ⟨⟨binding, members, initializers⟩⟩ |
    ⟨⟨binding, constants, members, initializers⟩⟩
  all_goals
    have inMembers := Member.perm_native_blocks binding.outputName place 0 members onMembers
    rw [TypeDeclaration.nativeBlocks, TypeDeclaration.visits,
      Visit.member_blocks_cons_type _ _ _ onMembers]
    exact inMembers

end

theorem TypeDeclaration.perm_native_blocks_all (index : Nat)
    (declarations : List TypeDeclaration) :
    (declarations.flatMap TypeDeclaration.nativeBlocks).Perm
      (Visit.memberBlocks (TypeDeclaration.visitsFrom index declarations)) := by
  induction declarations generalizing index with
  | nil => exact List.Perm.refl _
  | cons declaration declarations induction =>
      rw [List.flatMap_cons, TypeDeclaration.visitsFrom, Visit.member_blocks_append]
      exact (declaration.perm_native_blocks [.type index] rfl).append (induction (index + 1))

/-! Lowered units. The blocks of a visited type are those it had, and for an enum its
support. -/

/-- The support of an enum, with the name that it is listed under. -/
def EnumDeclaration.supportBlocks (options : Options) (declaration : EnumDeclaration) :
    List (String × NativeBlock) :=
  let name := declaration.binding.outputName
  let support := Native.enumSupport name declaration.constants.length options
  [(name, support.inner), (name, support.outer)]

theorem own_blocks_lowered_class (options : Options) (first : Nat)
    (declaration : ClassDeclaration) :
    (loweredType options first (.ofClass declaration)).ownBlocks =
      (TypeDeclaration.ofClass declaration).ownBlocks := by
  obtain ⟨binding, members, initializers⟩ := declaration
  rw [TypeDeclaration.ownBlocks, TypeDeclaration.ownBlocks, loweredType]
  simp only [TypeDeclaration.members, TypeDeclaration.binding, native?_lowered_members]

theorem own_blocks_lowered_enum (options : Options) (first : Nat) (declaration : EnumDeclaration) :
    (TypeDeclaration.ofEnum (loweredEnum options first declaration)).ownBlocks =
      (TypeDeclaration.ofEnum declaration).ownBlocks ++ declaration.supportBlocks options := by
  have natives : (loweredEnum options first declaration).members.filterMap Member.native? =
      declaration.members.filterMap Member.native? ++
        (declaration.supportBlocks options).map Prod.snd := by
    rw [loweredEnum, EnumDeclaration.finish]
    dsimp only
    rw [List.filterMap_append, EnumDeclaration.lowerConstants, native?_lowered_members]
    rfl
  rw [TypeDeclaration.ownBlocks, TypeDeclaration.ownBlocks]
  simp only [TypeDeclaration.members, natives, List.map_append]
  rfl

/-- From types without blocks of their own, only the support of the enums is left,
whichever places are looked at. -/
theorem Visit.own_blocks_lowered (options : Options) (first : Nat) (visits : List Visit)
    (noBlocks : ∀ declaration ∈ types visits, declaration.item.ownBlocks = [])
    (isKept : Place → Bool) :
    ((types (lowered options first visits)).filter fun declaration =>
        isKept declaration.place).flatMap (fun declaration => declaration.item.ownBlocks) =
      ((enums visits).filter fun declaration =>
        isKept declaration.place).flatMap fun declaration =>
          declaration.item.supportBlocks options := by
  induction visits generalizing first with
  | nil => rfl
  | cons visit visits induction =>
      rcases visit with ⟨place, source | source⟩ | ⟨place, method⟩
      · have inRest := induction first fun declaration visited =>
          noBlocks declaration (List.mem_cons_of_mem _ visited)
        have own : (loweredType options first (.ofClass source)).ownBlocks = [] := by
          rw [own_blocks_lowered_class]
          exact noBlocks ⟨place, .ofClass source⟩ List.mem_cons_self
        have split : types (lowered options first (.type ⟨place, .ofClass source⟩ :: visits)) =
            ⟨place, loweredType options first (.ofClass source)⟩ ::
              types (lowered options first visits) := rfl
        rw [split, List.filter_cons, enums_cons_class, ← inRest]
        split
        · rw [List.flatMap_cons, own, List.nil_append]
        · rfl
      · have inRest := induction first fun declaration visited =>
          noBlocks declaration (List.mem_cons_of_mem _ visited)
        have own : (loweredType options first (.ofEnum source)).ownBlocks =
            source.supportBlocks options := by
          rw [lowered_type_of_enum, own_blocks_lowered_enum,
            noBlocks ⟨place, .ofEnum source⟩ List.mem_cons_self, List.nil_append]
        have split : types (lowered options first (.type ⟨place, .ofEnum source⟩ :: visits)) =
            ⟨place, loweredType options first (.ofEnum source)⟩ ::
              types (lowered options first visits) := rfl
        rw [split, List.filter_cons, enums_cons_enum, List.filter_cons]
        split
        · rw [List.flatMap_cons, List.flatMap_cons, own, inRest]
        · exact inRest
      · exact induction (first + 2) noBlocks

namespace CompilationUnit

/-- All native blocks of visited types, those of local types included. -/
def attachedBlocks (compilationUnit : CompilationUnit) : List (String × NativeBlock) :=
  compilationUnit.visitedTypes.flatMap fun declaration => declaration.item.ownBlocks

/-- The text shows each of the blocks once, in some order, and nothing else. -/
def Shows (compilationUnit : CompilationUnit) (blocks : List (String × NativeBlock)) : Prop :=
  ∃ listed, listed.Perm blocks ∧ compilationUnit.nativeText = Native.blockListing listed

theorem shows_member_blocks (compilationUnit : CompilationUnit) :
    compilationUnit.Shows (Visit.memberBlocks compilationUnit.visits) :=
  ⟨_, TypeDeclaration.perm_native_blocks_all 0 compilationUnit.types, rfl⟩

theorem Shows.not_more {compilationUnit : CompilationUnit}
    {shown missing all : List (String × NativeBlock)} (shows : compilationUnit.Shows shown)
    (splits : all.Perm (shown ++ missing)) (some : missing ≠ []) :
    ¬ compilationUnit.Shows all := by
  obtain ⟨listed, permutes, text⟩ := shows
  rintro ⟨other, allPermutes, sameText⟩
  apply Native.block_listing_ne_of_missing permutes (allPermutes.trans splits) some
  rw [← text, sameText]

variable (options : Options) (source : CompilationUnit)
  (succeeds : (source.lowerEnums options).error = none)
  (noBlocks : ∀ declaration ∈ source.visitedTypes, declaration.item.ownBlocks = [])
include succeeds noBlocks

theorem attached_blocks_lower_enums :
    (source.lowerEnums options).value.attachedBlocks =
      source.visitedEnums.flatMap fun declaration => declaration.item.supportBlocks options := by
  have kept := Visit.own_blocks_lowered options source.nextVarId.toNat source.visits noBlocks
    fun _ => true
  rw [List.filter_eq_self.mpr fun _ _ => rfl, List.filter_eq_self.mpr fun _ _ => rfl] at kept
  rw [attachedBlocks, visitedTypes, visits_lower_enums options source succeeds, kept, visitedEnums]

theorem member_blocks_lower_enums :
    Visit.memberBlocks (source.lowerEnums options).value.visits =
      (source.visitedEnums.filter fun declaration => !declaration.isLocal).flatMap
        fun declaration => declaration.item.supportBlocks options := by
  rw [visits_lower_enums options source succeeds]
  exact Visit.own_blocks_lowered options source.nextVarId.toNat source.visits noBlocks
    fun place => !place.any Turn.isStatement

/-- A run attaches two blocks for each enum that it counts. The text of the lowered unit
shows the blocks of the enums that are not local; so it shows all that was attached if
and only if no visited enum is local. -/
theorem native_text_shows_all_iff_no_local_enum :
    (source.lowerEnums options).value.attachedBlocks.length =
      2 * (source.lowerEnums options).work.stats.enums ∧
    (source.lowerEnums options).value.Shows
      ((source.visitedEnums.filter fun declaration => !declaration.isLocal).flatMap
        fun declaration => declaration.item.supportBlocks options) ∧
    ((source.lowerEnums options).value.Shows (source.lowerEnums options).value.attachedBlocks ↔
      ∀ declaration ∈ source.visitedEnums, declaration.isLocal = false) := by
  have attached := attached_blocks_lower_enums options source succeeds noBlocks
  have shows := (source.lowerEnums options).value.shows_member_blocks
  rw [member_blocks_lower_enums options source succeeds noBlocks] at shows
  have splits := ((List.filter_append_perm (fun declaration => !declaration.isLocal)
    source.visitedEnums).flatMap_right fun declaration =>
      declaration.item.supportBlocks options).symm
  rw [List.flatMap_append] at splits
  refine ⟨?_, shows, ?_, ?_⟩
  · have two (declaration : Located EnumDeclaration) :
        (declaration.item.supportBlocks options).length = 2 := rfl
    rw [attached, stats_lower_enums options source succeeds, List.length_flatMap,
      funext two, List.map_const', List.sum_replicate_nat, Nat.mul_comm]
    rfl
  · intro showsAll declaration visited
    rw [attached] at showsAll
    by_contra isLocal
    rw [Bool.not_eq_false] at isLocal
    -- its two blocks are among those that are missing from the text
    have missing : (declaration.item.binding.outputName, (Native.enumSupport
        declaration.item.binding.outputName declaration.item.constants.length options).inner) ∈
        (source.visitedEnums.filter fun declaration => !!declaration.isLocal).flatMap
          fun declaration => declaration.item.supportBlocks options := by
      refine List.mem_flatMap.mpr ⟨declaration, ?_, List.mem_cons_self⟩
      exact List.mem_filter.mpr ⟨visited, by rw [isLocal]; rfl⟩
    exact shows.not_more splits (List.ne_nil_of_mem missing) showsAll
  · intro noLocal
    have allShown : (source.visitedEnums.filter fun declaration => !declaration.isLocal) =
        source.visitedEnums := by
      apply List.filter_eq_self.mpr
      intro declaration visited
      rw [noLocal declaration visited]
      rfl
    rw [allShown, ← attached] at shows
    exact shows

end CompilationUnit

/-- In `palette` the enum `Shade` is declared in a constructor of `Color`: of the four
blocks that are attached the text shows two. -/
theorem Sample.palette_shows_two_of_four :
    ((palette 3).lowerEnums {}).error = none ∧
      (∀ declaration ∈ (palette 3).visitedTypes, declaration.item.ownBlocks = []) ∧
      ((palette 3).lowerEnums {}).value.attachedBlocks.length = 4 ∧
      ((palette 3).lowerEnums {}).value.Shows (colorEnum.supportBlocks {}) ∧
      ¬ ((palette 3).lowerEnums {}).value.Shows
        ((palette 3).lowerEnums {}).value.attachedBlocks := by
  have succeeds : ((palette 3).lowerEnums {}).error = none := rfl
  have noBlocks : ∀ declaration ∈ (palette 3).visitedTypes, declaration.item.ownBlocks = [] := by
    intro declaration visited
    rw [visited_types_palette] at visited
    fin_cases visited <;> rfl
  obtain ⟨count, shows, showsAll⟩ :=
    (palette 3).native_text_shows_all_iff_no_local_enum {} succeeds noBlocks
  refine ⟨succeeds, noBlocks, count, shows, ?_⟩
  rw [showsAll]
  intro noLocal
  have isLocal := noLocal ⟨[.thenBranch, .statement 0, .member 0, .type 0], _⟩
    (List.mem_cons_of_mem _ List.mem_cons_self)
  cases isLocal

end EnumLowering
