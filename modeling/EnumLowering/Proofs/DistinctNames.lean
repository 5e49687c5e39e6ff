import EnumLowering.Native.Support
import Mathlib.Data.List.Nodup

/-!
Output names of different types. The names along an enclosing chain are joined by
underscores, so a chain can be read back from the output name if none of its names has an
underscore and the package is known. The functions that enums export are told apart by
their endings, and functions with one ending by the output names of their enums.
-/

namespace EnumLowering

namespace TypeBinding

theorem enclosing_chain_ne_nil (binding : TypeBinding) : binding.enclosingChain ≠ [] := by
  fun_cases enclosingChain binding with
  | case1 package name kind superclass => simp
  | case2 package name outer kind superclass => simp

theorem chain_names_ne_nil (binding : TypeBinding) : binding.chainNames ≠ [] := by
  simp [chainNames, enclosing_chain_ne_nil]

/-- The kinds of types that take their output name from package and chain. -/
def declaredKinds : List TypeKind := [.classType, .enumType, .interfaceType]

theorem output_name_of_declared {binding : TypeBinding} (declared : binding.kind ∈ declaredKinds) :
    binding.outputName =
      (binding.package.map packagePrefix).getD "" ++
        String.intercalate "_" binding.chainNames := by
  simp only [declaredKinds, List.mem_cons, List.not_mem_nil, or_false] at declared
  rcases declared with isClass | isEnum | isInterface
  · simp [outputName, isClass]
  · simp [outputName, isEnum]
  · simp [outputName, isInterface]

/-- No name along the enclosing chain has an underscore. -/
def HasPlainChain (binding : TypeBinding) : Prop := ∀ name ∈ binding.chainNames, '_' ∉ name.toList

/-- The chain is read back by splitting its joined names. -/
theorem HasPlainChain.splitOn_intercalate {binding : TypeBinding} (plain : binding.HasPlainChain) :
    (String.intercalate "_" binding.chainNames).toList.splitOn '_' =
      binding.chainNames.map String.toList := by
  rw [String.toList_intercalate]
  apply List.splitOn_intercalate
  · simpa [HasPlainChain] using plain
  · simpa using binding.chain_names_ne_nil

theorem chain_names_eq_of_output_name_eq {left right : TypeBinding}
    (package : left.package = right.package)
    (leftDeclared : left.kind ∈ declaredKinds) (rightDeclared : right.kind ∈ declaredKinds)
    (leftPlain : left.HasPlainChain) (rightPlain : right.HasPlainChain)
    (same : left.outputName = right.outputName) : left.chainNames = right.chainNames := by
  rw [output_name_of_declared leftDeclared, output_name_of_declared rightDeclared, package] at same
  have joined := String.append_right_inj _ |>.mp same
  have split := congrArg (fun text => text.toList.splitOn '_') joined
  simp only [leftPlain.splitOn_intercalate, rightPlain.splitOn_intercalate] at split
  exact (List.map_inj_right fun _ _ same => String.toList_injective same).mp split

theorem qualified_name_eq_of_chain_names_eq {left right : TypeBinding}
    (package : left.package = right.package) (chain : left.chainNames = right.chainNames) :
    left.qualifiedName = right.qualifiedName := by
  rw [qualifiedName, qualifiedName, package, chain]

end TypeBinding

namespace Native

/-- What the exported functions of an enum have behind its output name. -/
def exportedEndings : List String := ["_values", "_valueOfWithNSString_", "_fromOrdinal"]

/-- The functions that the support of an enum exports. -/
def exportedFunctions (binding : TypeBinding) (count : Nat) (options : Options) : List String :=
  (outerItems { type := binding.outputName } count options).map Item.name

theorem exported_functions_eq (binding : TypeBinding) (count : Nat) (options : Options) :
    exportedFunctions binding count options =
      exportedEndings.map (binding.outputName ++ ·) := rfl

/-- The last character tells the endings apart. -/
theorem exported_ending_eq_of_last_eq : ∀ ending ∈ exportedEndings, ∀ other ∈ exportedEndings,
    ending.toList.getLast? = other.toList.getLast? → ending = other := by
  decide

theorem exported_ending_has_last : ∀ ending ∈ exportedEndings, ending.toList ≠ [] := by
  decide

theorem append_exported_ending_inj {left right ending other : String}
    (known : ending ∈ exportedEndings) (otherKnown : other ∈ exportedEndings)
    (same : left ++ ending = right ++ other) : left = right ∧ ending = other := by
  have last := congrArg (fun text => text.toList.getLast?) same
  simp only [String.toList_append,
    List.getLast?_append_of_ne_nil _ (exported_ending_has_last ending known),
    List.getLast?_append_of_ne_nil _ (exported_ending_has_last other otherKnown)] at last
  -- One name may be the other with an ending added, so the endings are settled first.
  have endings := exported_ending_eq_of_last_eq ending known other otherKnown last
  subst endings
  exact ⟨(String.append_left_inj _).mp same, rfl⟩

theorem nodup_exported_functions {left right : TypeBinding}
    (differ : left.outputName ≠ right.outputName) (leftCount rightCount : Nat)
    (leftOptions rightOptions : Options) :
    (exportedFunctions left leftCount leftOptions ++
      exportedFunctions right rightCount rightOptions).Nodup := by
  have alone (name : String) : (exportedEndings.map (name ++ ·)).Nodup := by
    refine List.Nodup.map (fun _ _ same => ?_) (by decide)
    exact (String.append_right_inj _).mp same
  rw [exported_functions_eq, exported_functions_eq, List.nodup_append]
  refine ⟨alone _, alone _, ?_⟩
  intro name isLeft name' isRight same
  obtain ⟨ending, known, rfl⟩ := List.mem_map.mp isLeft
  obtain ⟨other, otherKnown, rfl⟩ := List.mem_map.mp isRight
  exact differ (append_exported_ending_inj known otherKnown same).1

end Native

namespace TypeBinding

open Native (exportedFunctions)

/-- Two declared types of one package whose names have no underscores: with one output
name they have the same names along their chains and are displayed alike. Enums that are
displayed differently export six different functions. -/
theorem output_names_do_not_collide (left right : TypeBinding)
    (package : left.package = right.package)
    (leftDeclared : left.kind ∈ declaredKinds) (rightDeclared : right.kind ∈ declaredKinds)
    (leftPlain : left.HasPlainChain) (rightPlain : right.HasPlainChain) :
    (left.outputName = right.outputName →
      left.chainNames = right.chainNames ∧ left.qualifiedName = right.qualifiedName) ∧
    (left.isEnum → right.isEnum → left.qualifiedName ≠ right.qualifiedName →
      ∀ (leftCount rightCount : Nat) (leftOptions rightOptions : Options),
        exportedFunctions left leftCount leftOptions =
          [left.outputName ++ "_values", left.outputName ++ "_valueOfWithNSString_",
            left.outputName ++ "_fromOrdinal"] ∧
        exportedFunctions right rightCount rightOptions =
          [right.outputName ++ "_values", right.outputName ++ "_valueOfWithNSString_",
            right.outputName ++ "_fromOrdinal"] ∧
        (exportedFunctions left leftCount leftOptions ++
          exportedFunctions right rightCount rightOptions).Nodup) := by
  have readBack (same : left.outputName = right.outputName) :
      left.chainNames = right.chainNames ∧ left.qualifiedName = right.qualifiedName := by
    have chain := chain_names_eq_of_output_name_eq package leftDeclared rightDeclared leftPlain
      rightPlain same
    exact ⟨chain, qualified_name_eq_of_chain_names_eq package chain⟩
  refine ⟨readBack, ?_⟩
  intro _ _ differ leftCount rightCount leftOptions rightOptions
  refine ⟨rfl, rfl, ?_⟩
  apply Native.nodup_exported_functions
  exact fun same => differ (readBack same).2

end TypeBinding

namespace Sample

def shelf : TypeBinding := .topLevel .classType (some "com.example") "Shelf"

/-- A member of the shelf. -/
def shelfColor : TypeBinding := (TypeBinding.topLevel .enumType none "Color").nestedIn shelf

/-- The two names of the shelf's color in one, at the top level. -/
def flatColor : TypeBinding := .topLevel .enumType (some "com.example") "ShelfColor"

theorem shelfColor_and_flatColor_export_six :
    shelfColor.package = flatColor.package ∧ shelfColor.qualifiedName ≠ flatColor.qualifiedName ∧
      (Native.exportedFunctions shelfColor 2 {} ++
        Native.exportedFunctions flatColor 3 {}).Nodup := by
  have differ : shelfColor.qualifiedName ≠ flatColor.qualifiedName := by decide
  have apart := TypeBinding.output_names_do_not_collide shelfColor flatColor rfl (by decide)
    (by decide) (by unfold TypeBinding.HasPlainChain; decide)
    (by unfold TypeBinding.HasPlainChain; decide)
  exact ⟨rfl, differ, (apart.2 rfl rfl differ 2 3 {} {}).2.2⟩

end Sample

end EnumLowering
