import EnumLowering.Proofs.Overloads
import EnumLowering.Proofs.SupportMeaning

/-!
The two halves of a lowered enum fit together. The class initializer makes the constants,
each with its name and its position, and the support finds them again: all of them in the
order of their declaration, one by its name and one by its ordinal.
-/

namespace EnumLowering

/-- An object that the class initializer makes and keeps. -/
structure Instance where
  target : VariableBinding
  name : String
  ordinal : Int64

namespace Instance

def ofConstant (ordinal : Nat) (constant : EnumConstant) : Instance :=
  { target := constant.binding, name := constant.name, ordinal := Int64.ofNat ordinal }

def position (made : Instance) : Nat := made.ordinal.toInt.toNat

theorem position_of_constant {ordinal : Nat} (small : ordinal < 2 ^ 31)
    (constant : EnumConstant) : (ofConstant ordinal constant).position = ordinal := by
  have inRange : ordinal < 2 ^ 63 := by omega
  rw [position, ofConstant, Int64.toInt_ofNat_of_lt inRange]
  rfl

end Instance

/-- The last two arguments are what the constructor hands on as name and ordinal. -/
def Creation.nameAndOrdinal? (creation : Creation) : Option (String × Int64) :=
  match creation.arguments.reverse with
  | .number ordinal :: .string name :: _ => some (name, ordinal)
  | _ => none

def Statement.instance? : Statement → Option Instance
  | .expression (.assignment (.name target) (.creation creation)) =>
      creation.nameAndOrdinal?.map fun (name, ordinal) => { target, name, ordinal }
  | _ => none

theorem EnumConstant.instance?_assignment (members : List Member) (ordinal : Nat)
    (constant : EnumConstant) :
    (constant.assignment members ordinal).instance? =
      some (Instance.ofConstant ordinal constant) := by
  simp only [assignment, instantiate, Statement.instance?, Creation.nameAndOrdinal?,
    List.reverse_append, List.reverse_cons, List.reverse_nil, List.nil_append, List.cons_append]
  rfl

namespace EnumDeclaration

/-- What the first statements of the class initializer make, one for each constant. -/
def instances (declaration : EnumDeclaration) : List Instance :=
  (declaration.initializers.take declaration.constants.length).filterMap Statement.instance?

/-- A lowered enum once its class is loaded. -/
def runtime (options : Options) (declaration : EnumDeclaration) : Native.Runtime Instance where
  names := { type := declaration.binding.outputName }
  options := options
  constants := declaration.instances
  nameOf := Instance.name
  ordinalOf := Instance.position

end EnumDeclaration

theorem instances_lowered_enum (options : Options) (first : Nat) (declaration : EnumDeclaration) :
    (loweredEnum options first declaration).instances =
      declaration.constants.mapIdx Instance.ofConstant := by
  have assigned : (loweredEnum options first declaration).initializers.take
      declaration.constants.length = declaration.constants.mapIdx
        (EnumConstant.assignment (loweredMembers options first declaration.members)) := by
    rw [initializers_lowered_enum, List.take_append_of_le_length (by simp)]
    exact List.take_of_length_le (by simp)
  have made : Statement.instance? ∘ (fun entry : EnumConstant × Nat =>
      entry.1.assignment (loweredMembers options first declaration.members) entry.2) =
        some ∘ fun entry : EnumConstant × Nat => Instance.ofConstant entry.2 entry.1 := by
    funext entry
    exact EnumConstant.instance?_assignment _ _ _
  calc (loweredEnum options first declaration).instances
    _ = (declaration.constants.mapIdx (EnumConstant.assignment
          (loweredMembers options first declaration.members))).filterMap Statement.instance? :=
        congrArg (List.filterMap Statement.instance?) assigned
    _ = declaration.constants.zipIdx.filterMap (Statement.instance? ∘ fun entry =>
          entry.1.assignment (loweredMembers options first declaration.members) entry.2) := by
        rw [List.mapIdx_eq_zipIdx_map, List.filterMap_map]
    _ = declaration.constants.zipIdx.map fun entry => Instance.ofConstant entry.2 entry.1 := by
        rw [made, List.filterMap_eq_map]
    _ = declaration.constants.mapIdx Instance.ofConstant := by
        rw [List.mapIdx_eq_zipIdx_map]

theorem members_lowered_enum_support (options : Options) (first : Nat)
    (declaration : EnumDeclaration) :
    (loweredEnum options first declaration).members =
      loweredMembers options first declaration.members ++
        [.native ((loweredEnum options first declaration).runtime options).support.inner,
          .native ((loweredEnum options first declaration).runtime options).support.outer] := by
  have counted : (loweredEnum options first declaration).instances.length =
      declaration.constants.length := by
    rw [instances_lowered_enum, List.length_mapIdx]
  rw [Native.Runtime.support, EnumDeclaration.runtime, counted]
  rfl

/-- How the support of a lowered enum serves the constants that it was declared with. -/
structure EnumDeclaration.Serves (options : Options) (before after : EnumDeclaration) : Prop where
  named : after.binding = before.binding
  instances : after.instances = before.constants.mapIdx Instance.ofConstant
  blocks : ∃ members, after.members = members ++
    [.native (after.runtime options).support.inner, .native (after.runtime options).support.outer]
  answers : ∀ (depth : Nat) (ready : Bool), (after.runtime options).Answers depth ready
  byOrdinal : ∀ (depth : Nat) (ready : Bool) (made : Instance), made ∈ after.instances →
    (after.runtime options).call (depth + 1) (after.runtime options).names.fromOrdinalFunction
      [.number made.position] ready = .ok (.object made, true)
  byName : (before.constants.map EnumConstant.name).Nodup →
    ∀ (depth : Nat) (ready : Bool) (made : Instance), made ∈ after.instances →
      (after.runtime options).call (depth + 1) (after.runtime options).names.valueOfFunction
        [.text made.name] ready = .ok (.object made, true)

section

variable (options : Options) (first : Nat) (declaration : EnumDeclaration)

theorem instances_lowered_enum_getElem? {made : Instance}
    (member : made ∈ (loweredEnum options first declaration).instances) :
    ∃ ordinal constant, declaration.constants[ordinal]? = some constant ∧
      made = Instance.ofConstant ordinal constant ∧
      (loweredEnum options first declaration).instances[ordinal]? = some made := by
  obtain ⟨ordinal, there⟩ := List.mem_iff_getElem?.mp member
  have found := there
  rw [instances_lowered_enum, List.getElem?_mapIdx] at found
  obtain ⟨constant, declared, rfl⟩ := Option.map_eq_some_iff.mp found
  exact ⟨ordinal, constant, declared, rfl, there⟩

theorem instances_lowered_enum_names :
    (loweredEnum options first declaration).instances.map Instance.name =
      declaration.constants.map EnumConstant.name := by
  apply List.ext_getElem?
  intro ordinal
  rw [instances_lowered_enum, List.getElem?_map, List.getElem?_mapIdx, Option.map_map,
    List.getElem?_map]
  rfl

theorem serves_lowered_enum (small : declaration.constants.length < 2 ^ 31) :
    declaration.Serves options (loweredEnum options first declaration) := by
  have counted : (loweredEnum options first declaration).instances.length < 2 ^ 31 := by
    rw [instances_lowered_enum, List.length_mapIdx]
    exact small
  refine ⟨rfl, instances_lowered_enum options first declaration,
    ⟨_, members_lowered_enum_support options first declaration⟩,
    Native.Runtime.answers _ counted, ?_, ?_⟩
  · intro depth ready made member
    obtain ⟨ordinal, constant, declared, rfl, there⟩ :=
      instances_lowered_enum_getElem? options first declaration member
    have bound : ordinal < declaration.constants.length := (List.getElem?_eq_some_iff.mp declared).1
    have nonempty : (loweredEnum options first declaration).instances.length ≠ 0 :=
      Nat.ne_of_gt (List.length_pos_of_mem member)
    rw [Native.Runtime.call_from_ordinal_eq, Instance.position_of_constant (by omega)]
    change Except.ok ((loweredEnum options first declaration).instances[ordinal]?.elim _ _,
      if (loweredEnum options first declaration).instances.length = 0 then _ else _) = _
    rw [there, if_neg nonempty]
    rfl
  · intro distinct depth ready made member
    obtain ⟨ordinal, constant, declared, same, there⟩ :=
      instances_lowered_enum_getElem? options first declaration member
    rw [← instances_lowered_enum_names options first declaration] at distinct
    apply ((Native.Runtime.answers _ counted depth ready).valueOf_found _ _).mpr
    exact ⟨ordinal, Native.Runtime.is_first_named_of_nodup distinct there⟩

end

/-- The support of any type answers its callers, with up to `2 ^ 31 - 1` constants. In a
unit that is lowered, the constants that the support of an enum answers with are those
that the class initializer makes, and each is found again by its ordinal and, where names
differ, by its name. -/
theorem CompilationUnit.support_finds_what_initializers_make :
    (∀ (Object : Type) (runtime : Native.Runtime Object),
      runtime.constants.length < 2 ^ 31 →
        ∀ (depth : Nat) (ready : Bool), runtime.Answers depth ready) ∧
    ∀ (options : Options) (source : CompilationUnit), (source.lowerEnums options).error = none →
      ∀ (index : Nat) (place : Place) (before : EnumDeclaration),
        source.visitedTypes[index]? = some ⟨place, .ofEnum before⟩ →
          before.constants.length < 2 ^ 31 →
            ∃ after, (source.lowerEnums options).value.visitedTypes[index]? =
                some ⟨place, .ofEnum after⟩ ∧ before.Serves options after := by
  refine ⟨fun _ runtime small depth ready => runtime.answers small depth ready, ?_⟩
  intro options source succeeds index place before visited small
  obtain ⟨start, loweredVisited⟩ :=
    visited_types_lower_enums_getElem? options source succeeds index _ visited
  rw [lowered_type_of_enum] at loweredVisited
  exact ⟨loweredEnum options start before, loweredVisited,
    serves_lowered_enum options start before small⟩

namespace Sample

def light : TypeBinding := .topLevel .enumType none "Light"

/-- `enum Light { STOP, GO; Light() { super(); } }` -/
def lightEnum : EnumDeclaration :=
  { binding := light
    constants := [⟨.field ⟨0⟩ "STOP" light light, .constructorOf light [], []⟩,
      ⟨.field ⟨1⟩ "GO" light light, .constructorOf light [], []⟩]
    members := [.method (.ofBinding (.constructorOf light []) [] [superCall])]
    initializers := [] }

def lights : CompilationUnit := .ofTypes [.ofEnum lightEnum] 2

/-- Two constants of one name. -/
def twins : Native.Runtime Bool where
  names := { type := "Twin" }
  options := {}
  constants := [false, true]
  nameOf _ := "SAME"
  ordinalOf := Bool.toNat

def go : Instance := { target := .field ⟨1⟩ "GO" light light, name := "GO", ordinal := 1 }

/-- Of the twins the first is found. `GO` is found by its name and by its ordinal, and
`WAIT` is not found. -/
theorem lights_find_go :
    twins.call 1 "Twin_valueOfWithNSString_" [.text "SAME"] false = .ok (.object false, true) ∧
      (lights.lowerEnums {}).error = none ∧ lightEnum.constants.length < 2 ^ 31 ∧
      ∃ after, (lights.lowerEnums {}).value.visitedTypes[0]? = some ⟨[.type 0], .ofEnum after⟩ ∧
        (after.runtime {}).call 1 "Light_valueOfWithNSString_" [.text "GO"] false =
          .ok (.object go, true) ∧
        (after.runtime {}).call 1 "Light_fromOrdinal" [.number 1] false =
          .ok (.object go, true) ∧
        (after.runtime {}).call 1 "Light_valueOfWithNSString_" [.text "WAIT"] false =
          .error (.thrown (.exception "JavaLangIllegalArgumentException" "WAIT")) := by
  have answers := CompilationUnit.support_finds_what_initializers_make.1 Bool twins
    (by decide) 0 false
  have first : twins.IsFirstNamed "SAME" 0 false :=
    ⟨rfl, rfl, fun earlier _ before => absurd before (Nat.not_lt_zero earlier)⟩
  have twin := (answers.valueOf_found "SAME" false).mpr ⟨0, first⟩
  have succeeds : (lights.lowerEnums {}).error = none := rfl
  have small : lightEnum.constants.length < 2 ^ 31 := by decide
  obtain ⟨after, there, serves⟩ := CompilationUnit.support_finds_what_initializers_make.2
    {} lights succeeds 0 [.type 0] lightEnum rfl small
  have names : (after.runtime {}).names = { type := "Light" } := by
    rw [EnumDeclaration.runtime, serves.named]
    exact congrArg Native.SupportNames.mk (by decide : light.outputName = "Light")
  have made : go ∈ after.instances := by
    rw [serves.instances]
    exact List.mem_cons_of_mem _ List.mem_cons_self
  have named := serves.byName (by decide) 0 false go made
  have counted := serves.byOrdinal 0 false go made
  have missing := (serves.answers 0 false).valueOf_throws "WAIT"
  rw [names] at named counted missing
  refine ⟨twin, succeeds, small, after, there, named, counted, missing.mpr ?_⟩
  change ∀ constant ∈ after.instances, constant.name ≠ "WAIT"
  rw [serves.instances]
  decide

end Sample

end EnumLowering
