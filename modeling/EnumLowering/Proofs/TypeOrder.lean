import EnumLowering.Proofs.InterruptedUnit
import EnumLowering.Proofs.ShiftedRuns
import Mathlib.Algebra.BigOperators.Group.List.Basic
import Mathlib.Data.List.FinRange

/-!
The order of the top-level types. One type leaves nothing behind for the next but the
supply, so each type of a unit is lowered as it would be alone, with identities that are
higher by as many as the types before it have drawn. What a run counts is what the runs
over the single types count together, in whatever order the types stand.
-/

namespace EnumLowering

instance : Zero Stats where
  zero := {}

instance : AddCommMonoid Stats where
  add_assoc left middle right := by ext <;> simp [Nat.add_assoc]
  zero_add stats := by ext <;> exact Nat.zero_add _
  add_zero := Stats.add_nothing
  add_comm left right := by ext <;> simp [Nat.add_comm]
  nsmul := nsmulRec

/-- With the options kept, the support blocks are the same. -/
theorem support_alike_eq (options : Options) : SupportAlike Eq options options :=
  fun _ _ => ⟨rfl, rfl⟩

namespace TypeDeclaration

/-- The constructors that lowering reaches in some types. -/
def constructorTotal (declarations : List TypeDeclaration) : Nat :=
  (declarations.map constructorCount).sum

theorem length_constructors_visits_from (index : Nat) (declarations : List TypeDeclaration) :
    (Visit.constructors (visitsFrom index declarations)).length =
      constructorTotal declarations := by
  induction declarations generalizing index with
  | nil => rfl
  | cons declaration declarations induction =>
      rw [visitsFrom, Visit.constructors_append, List.length_append,
        declaration.length_constructors_visits, induction]
      rfl

theorem constructor_total_take_add (declarations : List TypeDeclaration) (position : Nat) :
    constructorTotal (declarations.take position) + constructorTotal (declarations.drop position) =
      constructorTotal declarations := by
  rw [constructorTotal, constructorTotal, ← List.sum_append, ← List.map_append,
    List.take_append_drop, constructorTotal]

/-- The types before a type and the type itself. -/
theorem constructor_total_take_add_le {declarations : List TypeDeclaration} {position : Nat}
    {declaration : TypeDeclaration} (found : declarations[position]? = some declaration) :
    constructorTotal (declarations.take position) + declaration.constructorCount ≤
      constructorTotal declarations := by
  obtain ⟨inside, rfl⟩ := List.getElem?_eq_some_iff.mp found
  have split := constructor_total_take_add declarations position
  rw [List.drop_eq_getElem_cons inside, constructorTotal, constructorTotal, List.map_cons,
    List.sum_cons] at split
  rw [constructorTotal]
  omega

end TypeDeclaration

open TypeDeclaration (constructorTotal constructor_total_take_add constructor_total_take_add_le)

theorem getElem?_lowered_types (options : Options) (first : Nat)
    (declarations : List TypeDeclaration) (position : Nat) :
    (loweredTypes options first declarations)[position]? =
      declarations[position]?.map
        (loweredType options (first + 2 * constructorTotal (declarations.take position))) := by
  induction declarations generalizing first position with
  | nil => rfl
  | cons declaration declarations induction =>
      cases position with
      | zero => rfl
      | succ position =>
          have before : first + 2 * declaration.constructorCount +
              2 * constructorTotal (declarations.take position) =
                first + 2 * constructorTotal ((declaration :: declarations).take (position + 1)) := by
            rw [List.take_succ_cons, constructorTotal, constructorTotal, List.map_cons,
              List.sum_cons]
            omega
          rw [loweredTypes, List.getElem?_cons_succ, List.getElem?_cons_succ, induction, before]

namespace CompilationUnit

/-- The unit with its types in another order: at each position stands the type that
`order` takes from the old ones. -/
def reorder (source : CompilationUnit) (order : Equiv.Perm (Fin source.types.length)) :
    CompilationUnit :=
  { source with types := List.ofFn fun position => source.types.get (order position) }

/-- The unit with some other types. -/
def withTypes (source : CompilationUnit) (types : List TypeDeclaration) : CompilationUnit :=
  { source with types }

/-- The identities that the types before a position draw. -/
def drawnBefore (options : Options) (source : CompilationUnit) (position : Nat) : Nat :=
  ((source.withTypes (source.types.take position)).lowerEnums options).value.nextVarId.toNat -
    source.nextVarId.toNat

theorem length_visited_constructors (source : CompilationUnit) :
    source.visitedConstructors.length = constructorTotal source.types :=
  TypeDeclaration.length_constructors_visits_from 0 source.types

theorem succeeds_iff_total_fits (options : Options) (source : CompilationUnit) :
    (source.lowerEnums options).error = none ↔
      source.nextVarId.toNat + 2 * constructorTotal source.types ≤ 2 ^ 32 - 1 := by
  rw [lower_enums_error_eq_none_iff, length_visited_constructors]

section Reordered

variable (source : CompilationUnit) (order : Equiv.Perm (Fin source.types.length))

theorem types_reorder_perm : (source.reorder order).types.Perm source.types := by
  have perm := order.ofFn_comp_perm source.types.get
  rw [List.ofFn_get] at perm
  exact perm

theorem getElem?_types_reorder (position : Fin source.types.length) :
    (source.reorder order).types[position.val]? = some (source.types.get (order position)) := by
  rw [reorder, List.getElem?_ofFn, dif_pos position.isLt]

theorem constructor_total_reorder :
    constructorTotal (source.reorder order).types = constructorTotal source.types :=
  ((source.types_reorder_perm order).map _).sum_eq

end Reordered

section Succeeding

variable (options : Options) (source : CompilationUnit)
  (succeeds : (source.lowerEnums options).error = none)

include succeeds

/-- A run that does not fail over all types does not fail over fewer of them. -/
theorem succeeds_of_total_le {types : List TypeDeclaration}
    (fewer : constructorTotal types ≤ constructorTotal source.types) :
    ((source.withTypes types).lowerEnums options).error = none := by
  rw [succeeds_iff_total_fits] at succeeds ⊢
  have fits : source.nextVarId.toNat + 2 * constructorTotal types ≤ 2 ^ 32 - 1 := by omega
  exact fits

theorem drawn_before_eq (position : Nat) :
    source.drawnBefore options position = 2 * constructorTotal (source.types.take position) := by
  have split := constructor_total_take_add source.types position
  have drawn := next_var_id_of_success options (source.withTypes (source.types.take position))
    (source.succeeds_of_total_le options succeeds (by omega))
  rw [length_visited_constructors] at drawn
  rw [drawnBefore, drawn]
  exact Nat.add_sub_cancel_left ..

/-- Each type is lowered as it stands, with the identities that follow those drawn
before it. -/
theorem getElem?_types_lower_enums {position : Nat} {declaration : TypeDeclaration}
    (found : source.types[position]? = some declaration) :
    (source.lowerEnums options).value.types[position]? =
      some (loweredType options (source.nextVarId.toNat + source.drawnBefore options position)
        declaration) := by
  rw [types_lower_enums options source succeeds, getElem?_lowered_types, found,
    source.drawn_before_eq options succeeds, Option.map_some]

theorem total_fits_at {position : Nat} {declaration : TypeDeclaration}
    (found : source.types[position]? = some declaration) :
    source.nextVarId.toNat + source.drawnBefore options position +
      2 * declaration.constructorCount ≤ 2 ^ 32 := by
  have fits := (succeeds_iff_total_fits options source).mp succeeds
  have inside := constructor_total_take_add_le found
  rw [source.drawn_before_eq options succeeds]
  omega

theorem succeeds_alone {position : Nat} {declaration : TypeDeclaration}
    (found : source.types[position]? = some declaration) :
    ((source.withTypes [declaration]).lowerEnums options).error = none := by
  have inside := constructor_total_take_add_le found
  have single : constructorTotal [declaration] = declaration.constructorCount := Nat.add_zero _
  exact source.succeeds_of_total_le options succeeds (by omega)

/-- What a run counts over some of its types, one after the other. -/
theorem stats_visits_from (index : Nat) {declarations : List TypeDeclaration}
    (among : ∀ declaration ∈ declarations, declaration ∈ source.types) :
    Visit.stats (TypeDeclaration.visitsFrom index declarations) =
      (declarations.map fun declaration =>
        ((source.withTypes [declaration]).lowerEnums options).work.stats).sum := by
  induction declarations generalizing index with
  | nil => rfl
  | cons declaration declarations induction =>
      obtain ⟨position, found⟩ :=
        List.mem_iff_getElem?.mp (among declaration List.mem_cons_self)
      have alone : ((source.withTypes [declaration]).lowerEnums options).work.stats =
          Visit.stats (TypeDeclaration.visitsFrom index [declaration]) :=
        lower_types_counts options index [declaration] ⟨source.nextVarId⟩
          (source.succeeds_alone options succeeds found)
      have rest := induction (index + 1)
        fun other present => among other (List.mem_cons_of_mem declaration present)
      rw [TypeDeclaration.visitsFrom, TypeDeclaration.visitsFrom, List.append_nil] at alone
      rw [TypeDeclaration.visitsFrom, Visit.stats_append, List.map_cons, List.sum_cons, alone, rest]

theorem stats_eq_sum_alone :
    (source.lowerEnums options).work.stats =
      (source.types.map fun declaration =>
        ((source.withTypes [declaration]).lowerEnums options).work.stats).sum := by
  rw [stats_lower_enums options source succeeds]
  exact source.stats_visits_from options succeeds 0 fun _ present => present

end Succeeding

/-- A type that stands in two units is lowered alike in both, but for its identities.
They lie as far apart as the numbers of identities that were drawn before it. -/
theorem shifted_between (options : Options) {source other : CompilationUnit}
    (succeeds : (source.lowerEnums options).error = none)
    (otherSucceeds : (other.lowerEnums options).error = none)
    (start : other.nextVarId = source.nextVarId) {position otherPosition : Nat}
    {declaration : TypeDeclaration} (found : source.types[position]? = some declaration)
    (otherFound : other.types[otherPosition]? = some declaration) :
    ∃ lowered otherLowered,
      (source.lowerEnums options).value.types[position]? = some lowered ∧
        (other.lowerEnums options).value.types[otherPosition]? = some otherLowered ∧
          ShiftedType (other.drawnBefore options otherPosition -
            source.drawnBefore options position) Eq lowered otherLowered := by
  refine ⟨_, _, source.getElem?_types_lower_enums options succeeds found,
    other.getElem?_types_lower_enums options otherSucceeds otherFound, ?_⟩
  apply shifted_lowered_type (support_alike_eq options)
  · rw [start]
    omega
  · exact source.total_fits_at options succeeds found
  · exact other.total_fits_at options otherSucceeds otherFound

/-- A type is lowered as a run over this type alone lowers it. -/
theorem shifted_from_alone (options : Options) (source : CompilationUnit)
    (succeeds : (source.lowerEnums options).error = none) {position : Nat}
    {declaration : TypeDeclaration} (found : source.types[position]? = some declaration) :
    ∃ alone lowered,
      ((source.withTypes [declaration]).lowerEnums options).value.types[0]? = some alone ∧
        (source.lowerEnums options).value.types[position]? = some lowered ∧
          ShiftedType (source.drawnBefore options position) Eq alone lowered := by
  have aloneSucceeds := source.succeeds_alone options succeeds found
  have foundAlone : (source.withTypes [declaration]).types[0]? = some declaration := rfl
  obtain ⟨alone, lowered, loweredAlone, loweredHere, shifted⟩ :=
    shifted_between options aloneSucceeds succeeds rfl foundAlone found
  rw [drawn_before_eq options _ aloneSucceeds] at shifted
  have nothingBefore : (source.drawnBefore options position : Int) -
      ((2 * constructorTotal ([declaration].take 0) : Nat) : Int) =
        source.drawnBefore options position := Int.sub_zero _
  exact ⟨alone, lowered, loweredAlone, loweredHere, nothingBefore ▸ shifted⟩

/-- The order of the top-level types does not matter. A run over them in another order
fails exactly when the run over the old order does. Otherwise both count the same and
leave the same identities unused, and the lowered types stand in the other order, each
with its identities shifted by what the types before it draw more or less than before.
Nothing else goes from one type to another: each is lowered as a run over it alone
lowers it, and the counts are those of these runs together. -/
theorem order_of_types_does_not_matter (options : Options) (source : CompilationUnit)
    (order : Equiv.Perm (Fin source.types.length)) :
    (((source.reorder order).lowerEnums options).error = none ↔
      (source.lowerEnums options).error = none) ∧
    ((source.lowerEnums options).error = none →
      ((source.reorder order).lowerEnums options).work.stats =
          (source.lowerEnums options).work.stats ∧
        ((source.reorder order).lowerEnums options).value.nextVarId =
          (source.lowerEnums options).value.nextVarId ∧
        ((source.reorder order).lowerEnums options).value.types.length =
          (source.lowerEnums options).value.types.length ∧
        (∀ position : Fin source.types.length, ∃ before after,
          (source.lowerEnums options).value.types[(order position).val]? = some before ∧
            ((source.reorder order).lowerEnums options).value.types[position.val]? = some after ∧
              ShiftedType ((source.reorder order).drawnBefore options position -
                source.drawnBefore options (order position)) Eq before after) ∧
        (source.lowerEnums options).work.stats =
          (source.types.map fun declaration =>
            ((source.withTypes [declaration]).lowerEnums options).work.stats).sum ∧
        ∀ position declaration, source.types[position]? = some declaration →
          ∃ alone lowered,
            ((source.withTypes [declaration]).lowerEnums options).value.types[0]? = some alone ∧
              (source.lowerEnums options).value.types[position]? = some lowered ∧
                ShiftedType (source.drawnBefore options position) Eq alone lowered) := by
  have sameFate : ((source.reorder order).lowerEnums options).error = none ↔
      (source.lowerEnums options).error = none := by
    rw [succeeds_iff_total_fits, succeeds_iff_total_fits, constructor_total_reorder]
    exact Iff.rfl
  refine ⟨sameFate, ?_⟩
  intro succeeds
  have reorderedSucceeds := sameFate.mpr succeeds
  refine ⟨?_, ?_, ?_, ?_, ?_, ?_⟩
  · rw [stats_eq_sum_alone options _ reorderedSucceeds, stats_eq_sum_alone options _ succeeds]
    exact ((source.types_reorder_perm order).map _).sum_eq
  · apply UInt32.toNat_inj.mp
    rw [next_var_id_of_success options _ reorderedSucceeds,
      next_var_id_of_success options _ succeeds,
      length_visited_constructors, length_visited_constructors, constructor_total_reorder]
    rfl
  · rw [types_lower_enums options _ reorderedSucceeds, types_lower_enums options _ succeeds,
      length_lowered_types, length_lowered_types]
    exact (source.types_reorder_perm order).length_eq
  · intro position
    have found : source.types[(order position).val]? = some (source.types.get (order position)) :=
      List.getElem?_eq_getElem (order position).isLt
    exact shifted_between options succeeds reorderedSucceeds rfl found
      (source.getElem?_types_reorder order position)
  · exact source.stats_eq_sum_alone options succeeds
  · intro position declaration found
    exact source.shifted_from_alone options succeeds found

end CompilationUnit

namespace Sample

/-- `Color`, and then `Shade` as a top-level type. -/
def twoEnums (nextVarId : UInt32) : CompilationUnit :=
  .ofTypes [.ofEnum colorEnum, shadeEnum] nextVarId

def swapped : CompilationUnit :=
  (twoEnums 3).reorder (Equiv.swap (0 : Fin 2) (1 : Fin 2))

/-- `Color` draws six identities and `Shade` two. In the other order, those of `Shade`
are lower by six. -/
theorem twoEnums_may_be_swapped :
    ((twoEnums 3).lowerEnums {}).error = none ∧
      swapped.types = [shadeEnum, .ofEnum colorEnum] ∧
      (swapped.lowerEnums {}).error = none ∧
      (swapped.lowerEnums {}).work.stats = ((twoEnums 3).lowerEnums {}).work.stats ∧
      (swapped.lowerEnums {}).value.nextVarId = 11 ∧
      ∃ before after, ((twoEnums 3).lowerEnums {}).value.types[1]? = some before ∧
        (swapped.lowerEnums {}).value.types[0]? = some after ∧
          ShiftedType (-6) Eq before after := by
  have succeeds : ((twoEnums 3).lowerEnums {}).error = none := rfl
  obtain ⟨sameFate, results⟩ := (twoEnums 3).order_of_types_does_not_matter {}
    (Equiv.swap (0 : Fin 2) (1 : Fin 2))
  obtain ⟨stats, next, -, types, -, -⟩ := results succeeds
  exact ⟨succeeds, rfl, sameFate.mpr succeeds, stats, next.trans rfl, types (0 : Fin 2)⟩

end Sample

end EnumLowering
