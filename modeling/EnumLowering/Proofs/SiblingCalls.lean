import EnumLowering.Proofs.Overloads

/-!
Calls of sibling constructors and the declarations that they name. In the source, a call
may carry the binding of a constructor that the same enum declares. Lowering widens the
declaration and makes it private and synthetic, but it only widens the call. So the two
agree afterwards in all but the modifiers, and they agree in these only where the source
had the constructor private and synthetic already.
-/

namespace EnumLowering

namespace MethodBinding

theorem widen_eq_lowered_with (binding : MethodBinding) :
    binding.widen = { binding.lowered with modifiers := binding.modifiers } := rfl

theorem widen_eq_lowered_iff (binding : MethodBinding) :
    binding.widen = binding.lowered ↔ binding.modifiers.PrivateSynthetic := by
  constructor
  · intro same
    have modifiers : binding.modifiers = binding.modifiers.makePrivateSynthetic :=
      congrArg MethodBinding.modifiers same
    rw [modifiers]
    exact ⟨rfl, rfl⟩
  · rintro ⟨hidden, synthetic⟩
    have kept : binding.modifiers.makePrivateSynthetic = binding.modifiers := by
      rw [Modifiers.makePrivateSynthetic, ← hidden, ← synthetic]
    rw [lowered, kept]
    rfl

theorem widen_ne_self (binding : MethodBinding) : binding.widen ≠ binding := by
  intro same
  have arities := congrArg arity same
  rw [arity_widen] at arities
  omega

end MethodBinding

/-- What has become of a declared constructor and of a callee that was its binding. -/
structure CalleeBeside (declared rewritten callee : MethodBinding) : Prop where
  /-- Beside the modifiers, which are those of the source, the callee is the binding of
  the rewritten constructor. -/
  followed : declared.isEnumConstructor → callee = { rewritten with modifiers := declared.modifiers }
  modifiers : declared.isEnumConstructor → rewritten.modifiers.PrivateSynthetic
  agrees : callee = rewritten ↔
    declared.isEnumConstructor ∧ declared.modifiers.visibility = .privateAccess ∧
      declared.modifiers.isSynthetic = true

theorem callee_beside_lowered (declared : MethodBinding)
    (constructor : declared.isEnumConstructor) :
    CalleeBeside declared declared.lowered declared.widen where
  followed _ := declared.widen_eq_lowered_with
  modifiers _ := ⟨rfl, rfl⟩
  agrees := by
    rw [declared.widen_eq_lowered_iff, and_iff_right constructor]
    rfl

/-- A constructor of another type is not rewritten, and the call is widened all the same. -/
theorem callee_beside_kept (declared : MethodBinding) (ordinary : ¬ declared.isEnumConstructor) :
    CalleeBeside declared declared declared.widen where
  followed constructor := absurd constructor ordinary
  modifiers constructor := absurd constructor ordinary
  agrees := iff_of_false declared.widen_ne_self fun agreed => ordinary agreed.1

theorem callee_beside_lowered_member (options : Options) (start : Nat)
    (declared : MethodDeclaration) :
    ∃ rewritten, loweredMember options start (.method declared) = .method rewritten ∧
      CalleeBeside declared.binding rewritten.binding declared.binding.widen := by
  by_cases constructor : declared.binding.isEnumConstructor
  · refine ⟨loweredConstructor options start declared, ?_, ?_⟩
    · rw [loweredMember, if_pos constructor]
    · rw [binding_lowered_constructor]
      exact callee_beside_lowered declared.binding constructor
  · refine ⟨declared, ?_, callee_beside_kept declared.binding constructor⟩
    rw [loweredMember, if_neg constructor]

/-- Each call of a sibling in an enum at `place` is found again at its index, and it stands
beside every constructor of the enum whose binding it carried. -/
def SiblingCallsBeside (place : Place) (before after : EnumDeclaration) : Prop :=
  ∀ (position : Nat) (caller : MethodDeclaration),
    before.members[position]? = some (.method caller) → caller.binding.isEnumConstructor →
      ∃ lowered : MethodDeclaration, after.members[position]? = some (.method lowered) ∧
        ∀ (index : Nat) (callPlace : Place) (call : ConstructorCall),
          (caller.calls (.member position :: place))[index]? = some ⟨callPlace, .sibling, call⟩ →
            ∃ forwarded : ConstructorCall,
              (lowered.calls (.member position :: place))[index]? =
                  some ⟨callPlace, .sibling, forwarded⟩ ∧
                ∀ (target : Nat) (declared : MethodDeclaration),
                  before.members[target]? = some (.method declared) →
                    call.method = declared.binding →
                      ∃ rewritten : MethodDeclaration,
                        after.members[target]? = some (.method rewritten) ∧
                          CalleeBeside declared.binding rewritten.binding forwarded.method

theorem sibling_calls_beside_lowered_enum (options : Options) (first : Nat) (place : Place)
    (declaration : EnumDeclaration) :
    SiblingCallsBeside place declaration (loweredEnum options first declaration) := by
  intro position caller found constructor
  obtain ⟨start, lowered⟩ :=
    lowered_enum_member_getElem? options first declaration position (.method caller) found
  rw [loweredMember, if_pos constructor] at lowered
  refine ⟨loweredConstructor options start caller, lowered, ?_⟩
  intro index callPlace call calls
  refine ⟨call.handOn (.numbered caller.binding start), ?_, ?_⟩
  · rw [calls_lowered_constructor, List.getElem?_map, calls]
    rfl
  · intro target declared standing named
    obtain ⟨origin, targetLowered⟩ :=
      lowered_enum_member_getElem? options first declaration target (.method declared) standing
    obtain ⟨rewritten, same, beside⟩ := callee_beside_lowered_member options origin declared
    refine ⟨rewritten, ?_, ?_⟩
    · rw [targetLowered, same]
    · rw [ConstructorCall.handOn, named]
      exact beside

/-- In every visited enum, a call whose callee is the binding of a constructor of the
same enum keeps its modifiers while those of the constructor change. Call and constructor
agree after lowering if and only if the constructor is one of an enum type and was
private and synthetic before. -/
theorem CompilationUnit.sibling_calls_agree_iff_private_synthetic (options : Options)
    (source : CompilationUnit) (succeeds : (source.lowerEnums options).error = none)
    (index : Nat) (place : Place) (before : EnumDeclaration)
    (visited : source.visitedTypes[index]? = some ⟨place, .ofEnum before⟩) :
    ∃ after, (source.lowerEnums options).value.visitedTypes[index]? =
        some ⟨place, .ofEnum after⟩ ∧ SiblingCallsBeside place before after := by
  obtain ⟨start, loweredVisited⟩ :=
    visited_types_lower_enums_getElem? options source succeeds index _ visited
  rw [lowered_type_of_enum] at loweredVisited
  exact ⟨loweredEnum options start before, loweredVisited,
    sibling_calls_beside_lowered_enum options start place before⟩

/-- In `palette`, `Color()` calls `Color(int)` by its binding. After lowering the call has
the three types of `Color(int)` and not its modifiers. -/
theorem Sample.palette_call_disagrees :
    ((palette 3).lowerEnums {}).error = none ∧
      ∃ (after : EnumDeclaration) (caller rewritten : MethodDeclaration) (callPlace : Place)
        (forwarded : ConstructorCall),
        ((palette 3).lowerEnums {}).value.visitedTypes[0]? =
          some ⟨[.type 0], .ofEnum after⟩ ∧
        after.members[0]? = some (.method caller) ∧
        (caller.calls [.member 0, .type 0])[0]? = some ⟨callPlace, .sibling, forwarded⟩ ∧
        after.members[1]? = some (.method rewritten) ∧
        forwarded.method = { rewritten.binding with modifiers := {} } ∧
        rewritten.binding.modifiers.PrivateSynthetic ∧
        forwarded.method ≠ rewritten.binding := by
  have succeeds : ((palette 3).lowerEnums {}).error = none := rfl
  obtain ⟨after, there, calls⟩ :=
    (palette 3).sibling_calls_agree_iff_private_synthetic {} succeeds 0 [.type 0] colorEnum rfl
  obtain ⟨caller, callerThere, called⟩ := calls 0 plainConstructor rfl rfl
  obtain ⟨forwarded, forwardedThere, named⟩ := called 0 _ _ rfl
  obtain ⟨rewritten, rewrittenThere, beside⟩ := named 1 levelConstructor rfl rfl
  refine ⟨succeeds, after, caller, rewritten, _, forwarded, there, callerThere, forwardedThere,
    rewrittenThere, beside.followed rfl, beside.modifiers rfl, ?_⟩
  rw [Ne, beside.agrees]
  decide

end EnumLowering
