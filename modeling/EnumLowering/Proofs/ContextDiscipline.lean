import EnumLowering.Lowering.Session
import EnumLowering.Proofs.Exhaustion
import Mathlib.Data.List.Induction

/-!
The context of a session. Only the steps that enter and leave it by hand change it for
good: lowering a constructor enters and leaves it again, however the body ends, and the
other steps either read it or work in contexts of their own. So the history of a
session tells what its context holds.
-/

namespace EnumLowering

open IdSupply (last)

theorem Context.enter_eq_ok {context entered : Context} {vars : ImplicitVars}
    (enters : context.enter vars = .ok entered) : entered = ⟨some vars⟩ := by
  rw [enter] at enters
  split at enters
  · cases enters
  · cases enters
    rfl

/-! What lowering a constructor does to the context. -/

theorem open_constructor_ok {context entered : Context} {binding : MethodBinding}
    {ids later : IdSupply} {vars : ImplicitVars}
    (opened : openConstructor context binding ids = (.ok (vars, entered), later)) :
    context.enter vars = .ok entered := by
  rw [openConstructor] at opened
  split at opened
  · split at opened
    · cases opened
    · rename_i drawn _ _
      cases attempt : context.enter drawn with
      | error error =>
          rw [attempt] at opened
          cases opened
      | ok reached =>
          rw [attempt] at opened
          cases opened
          exact attempt
  · cases opened

theorem open_constructor_refused (context : Context) (binding : MethodBinding) (ids : IdSupply)
    (ordinary : ¬ binding.isEnumConstructor) :
    openConstructor context binding ids =
      (.error (.notAnEnumConstructor binding.signature), ids) := by
  rw [openConstructor, if_neg ordinary]

/-- In a context that is held already, a constructor draws its identities in vain. -/
theorem open_constructor_held (held : ImplicitVars) (binding : MethodBinding) (ids : IdSupply)
    (constructor : binding.isEnumConstructor) (enough : ids.next.toNat + 2 ≤ last.toNat) :
    ∃ later : IdSupply,
      openConstructor ⟨some held⟩ binding ids =
        (.error (.contextAlreadyActive binding.signature held.owner), later) ∧
      later.next.toNat = ids.next.toNat + 2 := by
  obtain ⟨later, drawn, next⟩ := ImplicitVars.fresh_enough binding ids enough
  refine ⟨later, ?_, next⟩
  rw [openConstructor, if_pos constructor, drawn]
  rfl

theorem lower_constructor_of_error (options : Options) {context : Context}
    {method : MethodDeclaration} {ids later : IdSupply} {error : LoweringError}
    (stopped : openConstructor context method.binding ids = (.error error, later)) :
    lowerConstructor options context method ids = .failed (method, context) later error := by
  obtain ⟨binding, modifiers, parameters, body⟩ := method
  rw [lowerConstructor, stopped]

theorem lower_constructor_of_ok (options : Options) {context entered : Context}
    {method : MethodDeclaration} {ids later : IdSupply} {vars : ImplicitVars}
    (opened : openConstructor context method.binding ids = (.ok (vars, entered), later)) :
    lowerConstructor options context method ids =
      ((lowerBody options entered method.body later).map fun body =>
        ({ binding := method.binding.lowered
           modifiers := method.modifiers.makePrivateSynthetic
           parameters := method.parameters ++ vars.parameters
           body }, entered.leave.2)).after (constructorWork method.binding) := by
  obtain ⟨binding, modifiers, parameters, body⟩ := method
  rw [lowerConstructor, opened]

/-- However lowering a constructor ends, the context is what it was. -/
theorem context_lower_constructor (options : Options) (context : Context)
    (method : MethodDeclaration) (ids : IdSupply) :
    (lowerConstructor options context method ids).value.2 = context := by
  cases opening : openConstructor context method.binding ids with
  | mk result later =>
      cases result with
      | error error => rw [lower_constructor_of_error options opening, Outcome.failed]
      | ok pair =>
          obtain ⟨vars, entered⟩ := pair
          have left := Context.leave_enter (open_constructor_ok opening)
          rw [lower_constructor_of_ok options opening]
          exact congrArg Prod.snd left

theorem context_lower_method (options : Options) (context : Context) (method : MethodDeclaration)
    (ids : IdSupply) : (lowerMethod options context method ids).value.2.2 = context := by
  by_cases constructor : method.binding.isEnumConstructor
  · rw [lowerMethod, if_pos constructor]
    exact context_lower_constructor options context method ids
  · rw [lowerMethod, if_neg constructor, Outcome.unchanged]

namespace Session

/-- Steps that lower something, with the context that the session has. -/
def Step.rewrites : Step → Bool
  | .enter _ _ | .leave | .inspect => false
  | .lowerMethod _ | .lowerConstructor _ | .lowerType _ | .forward _ => true

/-- The step puts these variables into the context: it enters with fresh variables and
does not fail. -/
def Enters (session : Session) (step : Step) (vars : ImplicitVars) : Prop :=
  ∃ owner declaringType, step = .enter owner declaringType ∧
    (ImplicitVars.fresh declaringType owner session.contextIds).1 = .ok vars ∧
      (session.step step).2.error = none

/-- The step neither leaves the context nor enters it. -/
def PassesBy (session : Session) (step : Step) : Prop :=
  step ≠ .leave ∧ ∀ vars, ¬ session.Enters step vars

/-- The latest step that entered the context did so with these variables, and it has not
been left since. -/
def LastEntered (start : Session) (steps : List Step) (vars : ImplicitVars) : Prop :=
  ∃ before enter after, steps = before ++ enter :: after ∧
    (start.run before).1.Enters enter vars ∧
      ∀ middle later rest, after = middle ++ later :: rest →
        (start.run (before ++ enter :: middle)).1.PassesBy later

/-- Steps that lower leave the context as they found it, whether or not they fail. -/
theorem context_of_rewrites (session : Session) {step : Step} (rewrites : step.rewrites) :
    (session.step step).1.context = session.context := by
  cases step with
  | enter owner declaringType => cases rewrites
  | leave => cases rewrites
  | inspect => cases rewrites
  | lowerMethod method => exact context_lower_method session.options session.context method _
  | lowerConstructor method =>
      exact context_lower_constructor session.options session.context method _
  | lowerType declaration => rfl
  | forward call =>
      rw [Session.step]
      cases call.forward session.context <;> rfl

theorem passes_by_of_rewrites (session : Session) {step : Step} (rewrites : step.rewrites) :
    session.PassesBy step := by
  constructor
  · rintro rfl
    cases rewrites
  · rintro vars ⟨owner, declaringType, rfl, -⟩
    cases rewrites

/-- Entering either fails and leaves the context alone, or it puts fresh variables there. -/
theorem step_enter (session : Session) (owner : String) (declaringType : TypeBinding) :
    (∃ error later, session.step (.enter owner declaringType) =
      ({ session with contextIds := later }, { answer := .entered, error := some error })) ∨
    ∃ vars later,
      ImplicitVars.fresh declaringType owner session.contextIds = (.ok vars, later) ∧
        session.step (.enter owner declaringType) =
          ({ session with contextIds := later, context := ⟨some vars⟩ }, { answer := .entered }) := by
  cases drawn : ImplicitVars.fresh declaringType owner session.contextIds with
  | mk result later =>
      rw [Session.step, drawn]
      cases result with
      | error error => exact .inl ⟨error, later, rfl⟩
      | ok vars =>
          dsimp only
          cases attempt : session.context.enter vars with
          | error error => exact .inl ⟨error, later, rfl⟩
          | ok entered =>
              rw [Context.enter_eq_ok attempt]
              exact .inr ⟨vars, later, rfl, rfl⟩

/-- All that a step can do to the context. -/
theorem step_context (session : Session) (step : Step) :
    (∃ vars, session.Enters step vars ∧ (session.step step).1.context = ⟨some vars⟩) ∨
      (step = .leave ∧ (session.step step).1.context = .inactive) ∨
        (session.PassesBy step ∧ (session.step step).1.context = session.context) := by
  by_cases rewrites : step.rewrites
  · exact .inr (.inr ⟨session.passes_by_of_rewrites rewrites, session.context_of_rewrites rewrites⟩)
  cases step with
  | enter owner declaringType =>
      obtain ⟨error, later, failed⟩ | ⟨vars, later, drawn, entered⟩ :=
        session.step_enter owner declaringType
      · refine .inr (.inr ⟨⟨Step.noConfusion, ?_⟩, by rw [failed]⟩)
        rintro vars ⟨_, _, -, -, noError⟩
        rw [failed] at noError
        cases noError
      · exact .inl ⟨vars, ⟨owner, declaringType, rfl, by rw [drawn], by rw [entered]⟩,
          by rw [entered]⟩
  | leave => exact .inr (.inl ⟨rfl, rfl⟩)
  | inspect =>
      refine .inr (.inr ⟨⟨Step.noConfusion, ?_⟩, rfl⟩)
      rintro vars ⟨owner, declaringType, same, -⟩
      cases same
  | lowerMethod method => exact absurd rfl rewrites
  | lowerConstructor method => exact absurd rfl rewrites
  | lowerType declaration => exact absurd rfl rewrites
  | forward call => exact absurd rfl rewrites

/-! What the latest steps of a history say. -/

theorem run_concat (session : Session) (steps : List Step) (step : Step) :
    (session.run (steps ++ [step])).1 = ((session.run steps).1.step step).1 := by
  induction steps generalizing session with
  | nil => rfl
  | cons first steps induction => exact induction (session.step first).1

/-- Where a step can stand in a history that another step ends. -/
theorem concat_eq_append_cons {steps before after : List Step} {step enter : Step}
    (split : steps ++ [step] = before ++ enter :: after) :
    (after = [] ∧ steps = before ∧ step = enter) ∨
      ∃ front, after = front ++ [step] ∧ steps = before ++ enter :: front := by
  rcases List.eq_nil_or_concat after with rfl | ⟨front, final, rfl⟩
  · obtain ⟨same, ended⟩ := List.append_inj' split rfl
    exact .inl ⟨rfl, same, List.singleton_inj.mp ended⟩
  · rw [List.concat_eq_append, ← List.cons_append, ← List.append_assoc] at split
    obtain ⟨same, ended⟩ := List.append_inj' split rfl
    rw [List.concat_eq_append, List.singleton_inj.mp ended]
    exact .inr ⟨front, rfl, same⟩

theorem enters_unique {session : Session} {step : Step} {vars other : ImplicitVars}
    (enters : session.Enters step vars) (entersOther : session.Enters step other) :
    other = vars := by
  obtain ⟨owner, declaringType, rfl, drawn, -⟩ := enters
  obtain ⟨_, _, same, otherDrawn, -⟩ := entersOther
  cases same
  exact Except.ok.inj (otherDrawn.symm.trans drawn)

section LastStep

variable (start : Session) (steps : List Step) (step : Step) (vars : ImplicitVars)

theorem not_last_entered_nil : ¬ start.LastEntered [] vars := by
  rintro ⟨before, enter, after, split, -⟩
  cases before <;> cases split

theorem last_entered_of_enters (enters : (start.run steps).1.Enters step vars) :
    start.LastEntered (steps ++ [step]) vars := by
  refine ⟨steps, step, [], rfl, enters, ?_⟩
  intro middle later rest split
  cases middle <;> cases split

/-- An enter in the history that is not its last step is passed by to the end. -/
theorem last_entered_concat (entered : start.LastEntered (steps ++ [step]) vars) :
    (start.run steps).1.Enters step vars ∨
      start.LastEntered steps vars ∧ (start.run steps).1.PassesBy step := by
  obtain ⟨before, enter, after, split, enters, passed⟩ := entered
  rcases concat_eq_append_cons split with ⟨rfl, rfl, rfl⟩ | ⟨front, rfl, rfl⟩
  · exact .inl enters
  · refine .inr ⟨⟨before, enter, front, rfl, enters, ?_⟩, passed front step [] rfl⟩
    rintro middle later rest rfl
    apply passed middle later (rest ++ [step])
    rw [List.append_assoc, List.cons_append]

theorem LastEntered.concat {start : Session} {steps : List Step} {step : Step}
    {vars : ImplicitVars} (entered : start.LastEntered steps vars)
    (passesBy : (start.run steps).1.PassesBy step) : start.LastEntered (steps ++ [step]) vars := by
  obtain ⟨before, enter, front, rfl, enters, passed⟩ := entered
  refine ⟨before, enter, front ++ [step], ?_, enters, ?_⟩
  · rw [List.append_assoc, List.cons_append]
  · intro middle later rest split
    rcases concat_eq_append_cons split with ⟨-, rfl, rfl⟩ | ⟨others, -, rfl⟩
    · exact passesBy
    · exact passed middle later others rfl

end LastStep

/-- What the context holds is what the history says. -/
theorem active_run_iff (start : Session) (inactive : start.context = .inactive)
    (steps : List Step) (vars : ImplicitVars) :
    (start.run steps).1.context.active = some vars ↔ start.LastEntered steps vars := by
  -- The history grows at its end: each step either decides on its own what is held, or
  -- leaves that to the steps before it.
  induction steps using List.reverseRecOn with
  | nil =>
      rw [run, inactive]
      exact iff_of_false (Option.some_ne_none vars).symm (start.not_last_entered_nil vars)
  | append_singleton steps step induction =>
      rw [run_concat]
      obtain ⟨fresh, enters, held⟩ | ⟨rfl, left⟩ | ⟨passesBy, kept⟩ :=
        (start.run steps).1.step_context step
      · rw [held]
        constructor
        · intro same
          rw [← Option.some.inj same]
          exact start.last_entered_of_enters steps step fresh enters
        · intro entered
          rcases start.last_entered_concat steps step vars entered with again | ⟨-, passesBy⟩
          · rw [enters_unique enters again]
          · exact absurd enters (passesBy.2 fresh)
      · rw [left]
        refine iff_of_false (Option.some_ne_none vars).symm ?_
        intro entered
        rcases start.last_entered_concat steps .leave vars entered with
          ⟨_, _, same, -⟩ | ⟨-, passesBy⟩
        · cases same
        · exact passesBy.1 rfl
      · rw [kept, induction]
        constructor
        · intro entered
          exact entered.concat passesBy
        · intro entered
          rcases start.last_entered_concat steps step vars entered with enters | ⟨earlier, -⟩
          · exact absurd enters (passesBy.2 vars)
          · exact earlier

theorem active_run_eq_none_iff (start : Session) (inactive : start.context = .inactive)
    (steps : List Step) :
    (start.run steps).1.context.active = none ↔ ∀ vars, ¬ start.LastEntered steps vars := by
  rw [Option.eq_none_iff_forall_ne_some]
  exact forall_congr' fun vars => not_congr (start.active_run_iff inactive steps vars)

/-- The reply to a constructor that is refused, and the session afterwards. The method is
as it was, there are no events, and in the session only the next identity may differ. -/
def refusing (session : Session) (method : MethodDeclaration) (next : UInt32)
    (error : LoweringError) : Session × Reply :=
  ({ session with ids := ⟨next⟩ }, { answer := .constructor method, events := [], error })

theorem step_lower_constructor_of_error (session : Session) {method : MethodDeclaration}
    {error : LoweringError} {later : IdSupply}
    (stopped : openConstructor session.context method.binding session.ids = (.error error, later)) :
    session.step (.lowerConstructor method) = session.refusing method later.next error := by
  rw [Session.step, lower_constructor_of_error session.options stopped]
  rfl

section OneConstructor

variable (session : Session) (method : MethodDeclaration)

theorem refuses_ordinary_method (ordinary : ¬ method.binding.isEnumConstructor) :
    session.step (.lowerConstructor method) =
      session.refusing method session.ids.next
        (.notAnEnumConstructor method.binding.signature) := by
  apply step_lower_constructor_of_error
  exact open_constructor_refused session.context method.binding session.ids ordinary

variable (constructor : method.binding.isEnumConstructor)

include constructor

/-- Whether or not the context is held. -/
theorem refuses_without_ids (short : 2 ^ 32 - 1 < session.ids.next.toNat + 2) :
    session.step (.lowerConstructor method) =
      session.refusing method last (.idsExhausted method.binding.signature) := by
  obtain ⟨later, stopped, spent⟩ :=
    open_constructor_short session.context method.binding session.ids constructor short
  rw [← spent]
  exact session.step_lower_constructor_of_error stopped

theorem refuses_in_held_context (enough : session.ids.next.toNat + 2 ≤ 2 ^ 32 - 1)
    {held : ImplicitVars} (active : session.context.active = some held) :
    session.step (.lowerConstructor method) =
      session.refusing method (session.ids.next + 2)
        (.contextAlreadyActive method.binding.signature held.owner) := by
  have context : session.context = ⟨some held⟩ := congrArg Context.mk active
  obtain ⟨later, stopped, next⟩ := open_constructor_held held method.binding session.ids constructor
    enough
  have advanced : later.next = session.ids.next + 2 := by
    apply UInt32.toNat_inj.mp
    rw [next, UInt32.toNat_add]
    exact (Nat.mod_eq_of_lt (by omega)).symm
  rw [← context] at stopped
  rw [← advanced]
  exact session.step_lower_constructor_of_error stopped

/-- Past the three checks the constructor itself is lowered; only its body can fail. -/
theorem opens_in_free_context (enough : session.ids.next.toNat + 2 ≤ 2 ^ 32 - 1)
    (free : session.context.active = none) :
    ∃ body events,
      (session.step (.lowerConstructor method)).2.answer =
          .constructor
            { binding := method.binding.lowered
              modifiers := method.modifiers.makePrivateSynthetic
              parameters := method.parameters ++
                (ImplicitVars.numbered method.binding session.ids.next.toNat).parameters
              body } ∧
        (session.step (.lowerConstructor method)).2.events =
          .constructorWidened method.binding.lowered.signature :: events := by
  have context : session.context = .inactive := congrArg Context.mk free
  obtain ⟨later, opened, -⟩ := open_constructor_enough method.binding session.ids constructor enough
  rw [← context] at opened
  rw [Session.step, lower_constructor_of_ok session.options opened]
  exact ⟨_, _, rfl, rfl⟩

end OneConstructor

/-- In a session that starts with the context inactive, the context holds the variables
of the latest step that entered it and was not followed by a step that left it, and
nothing if there is no such step. Steps that lower something leave the context as they
found it, whether or not they fail. Lowering a constructor asks first whether it is one
of an enum, then whether there are two identities for it, and then whether the context
is free. If it stops at one of these checks, it changes nothing but the next identity:
the second check draws all that are left, and the third has drawn two. -/
theorem context_follows_history (start : Session) (inactive : start.context = .inactive) :
    (∀ steps vars,
      (start.run steps).1.context.active = some vars ↔ start.LastEntered steps vars) ∧
    (∀ steps,
      (start.run steps).1.context.active = none ↔ ∀ vars, ¬ start.LastEntered steps vars) ∧
    (∀ (session : Session) (step : Step), step.rewrites →
      (session.step step).1.context = session.context) ∧
    ∀ (session : Session) (method : MethodDeclaration),
      (¬ method.binding.isEnumConstructor →
        session.step (.lowerConstructor method) =
          session.refusing method session.ids.next
            (.notAnEnumConstructor method.binding.signature)) ∧
      (method.binding.isEnumConstructor → 2 ^ 32 - 1 < session.ids.next.toNat + 2 →
        session.step (.lowerConstructor method) =
          session.refusing method last (.idsExhausted method.binding.signature)) ∧
      (method.binding.isEnumConstructor → session.ids.next.toNat + 2 ≤ 2 ^ 32 - 1 →
        (∀ held, session.context.active = some held →
          session.step (.lowerConstructor method) =
            session.refusing method (session.ids.next + 2)
              (.contextAlreadyActive method.binding.signature held.owner)) ∧
        (session.context.active = none →
          ∃ body events,
            (session.step (.lowerConstructor method)).2.answer =
                .constructor
                  { binding := method.binding.lowered
                    modifiers := method.modifiers.makePrivateSynthetic
                    parameters := method.parameters ++
                      (ImplicitVars.numbered method.binding session.ids.next.toNat).parameters
                    body } ∧
              (session.step (.lowerConstructor method)).2.events =
                .constructorWidened method.binding.lowered.signature :: events)) := by
  refine ⟨start.active_run_iff inactive, start.active_run_eq_none_iff inactive, ?_, ?_⟩
  · intro session step rewrites
    exact session.context_of_rewrites rewrites
  · intro session method
    refine ⟨session.refuses_ordinary_method method, session.refuses_without_ids method, ?_⟩
    intro constructor enough
    refine ⟨?_, session.opens_in_free_context method constructor enough⟩
    intro held active
    exact session.refuses_in_held_context method constructor enough active

end Session

namespace Sample

/-- Hand-made variables are numbered from 100 on, those of the pass from 3 on. -/
def handmade : Session := { options := {}, ids := ⟨3⟩, contextIds := ⟨100⟩ }

/-- Enter, leave and enter again; then a second enter and a constructor are refused. -/
def handmadeSteps : List Session.Step :=
  [.enter "first" color, .leave, .enter "second" color, .enter "third" color,
    .lowerConstructor plainConstructor]

theorem handmadeSteps_hold_second :
    handmade.context = .inactive ∧
      (handmade.run handmadeSteps).1.context.active =
        some (.ofIds color "second" ⟨102⟩ ⟨103⟩) ∧
      handmade.LastEntered handmadeSteps (.ofIds color "second" ⟨102⟩ ⟨103⟩) ∧
      (handmade.run handmadeSteps).1.ids.next = 5 ∧
      (handmade.run handmadeSteps).1.step (.lowerConstructor plainConstructor) =
        (handmade.run handmadeSteps).1.refusing plainConstructor 7
          (.contextAlreadyActive plainConstructor.binding.signature "second") := by
  obtain ⟨held, -, -, fates⟩ := handmade.context_follows_history rfl
  have active : (handmade.run handmadeSteps).1.context.active =
      some (.ofIds color "second" ⟨102⟩ ⟨103⟩) := rfl
  obtain ⟨-, -, past⟩ := fates (handmade.run handmadeSteps).1 plainConstructor
  exact ⟨rfl, active, (held handmadeSteps _).mp active, rfl, (past rfl (by decide)).1 _ active⟩

end Sample

end EnumLowering
