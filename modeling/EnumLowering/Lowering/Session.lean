import EnumLowering.Lowering.Walk

/-!
Lowering step by step. A session holds the supply of the pass, one context and a
second supply for variables that are put into the context by hand.
-/

namespace EnumLowering

structure Session where
  options : Options
  ids : IdSupply
  contextIds : IdSupply
  context : Context := .inactive
  stats : Stats := {}

namespace Session

inductive Step where
  | enter (owner : String) (declaringType : TypeBinding)
  | leave
  | inspect
  | lowerMethod (method : MethodDeclaration)
  | lowerConstructor (method : MethodDeclaration)
  | lowerType (declaration : TypeDeclaration)
  | forward (call : ConstructorCall)

/-- What a step shows of its result. After an error it is what the step left. -/
inductive Answer where
  | entered
  | left (vars : Option ImplicitVars)
  | held (vars : Option ImplicitVars)
  | method (isLowered : Bool) (method : MethodDeclaration)
  | constructor (method : MethodDeclaration)
  | type (declaration : TypeDeclaration)
  | call (call : ConstructorCall)

structure Reply where
  answer : Answer
  events : List Event := []
  error : Option LoweringError := none

/-- Take over what a step of the pass did. -/
def record {α : Type} (session : Session) (outcome : Outcome α) : Session :=
  { session with ids := outcome.ids, stats := session.stats + outcome.work.stats }

def Reply.ofOutcome {α : Type} (outcome : Outcome α) (answer : Answer) : Reply :=
  { answer, events := outcome.work.events, error := outcome.error }

def step (session : Session) : Step → Session × Reply
  | .enter owner declaringType =>
      match ImplicitVars.fresh declaringType owner session.contextIds with
      | (.error error, contextIds) =>
          ({ session with contextIds }, { answer := .entered, error := some error })
      | (.ok vars, contextIds) =>
          match session.context.enter vars with
          | .error error =>
              ({ session with contextIds }, { answer := .entered, error := some error })
          | .ok context => ({ session with contextIds, context }, { answer := .entered })
  | .leave =>
      let (vars, context) := session.context.leave
      ({ session with context }, { answer := .left vars })
  | .inspect => (session, { answer := .held session.context.active })
  | .lowerMethod method =>
      let outcome := EnumLowering.lowerMethod session.options session.context method session.ids
      let (isLowered, method, context) := outcome.value
      ({ session.record outcome with context }, .ofOutcome outcome (.method isLowered method))
  | .lowerConstructor method =>
      let outcome :=
        EnumLowering.lowerConstructor session.options session.context method session.ids
      let (method, context) := outcome.value
      ({ session.record outcome with context }, .ofOutcome outcome (.constructor method))
  | .lowerType declaration =>
      let outcome := EnumLowering.lowerType session.options declaration session.ids
      (session.record outcome, .ofOutcome outcome (.type outcome.value))
  | .forward call =>
      match call.forward session.context with
      | .ok forwarded => (session, { answer := .call forwarded })
      | .error error => (session, { answer := .call call, error := some error })

/-- The session after some steps, and their replies. -/
def run (session : Session) : List Step → Session × List Reply
  | [] => (session, [])
  | first :: rest =>
      let (next, reply) := session.step first
      let (last, replies) := next.run rest
      (last, reply :: replies)

end Session

end EnumLowering
