import EnumLowering.Binding.Variable
import EnumLowering.Lowering.Error

/-!
What a step of lowering leaves behind. A step that fails still leaves the work
done up to the failure, so an outcome always has a value and the error stands
beside it.
-/

namespace EnumLowering

/-- What happened to the tree, in the order in which it happened. -/
inductive Event where
  | constructorWidened (signature : String)
  | duplicateConstant (enumType constant : String)
  | enumLowered (outputName : String) (constants : Nat)
  deriving DecidableEq, Repr

structure Stats where
  enums : Nat := 0
  constructors : Nat := 0
  forwardingCalls : Nat := 0
  constants : Nat := 0
  deriving DecidableEq, Repr

namespace Stats

def add (left right : Stats) : Stats :=
  { enums := left.enums + right.enums
    constructors := left.constructors + right.constructors
    forwardingCalls := left.forwardingCalls + right.forwardingCalls
    constants := left.constants + right.constants }

instance : Add Stats := ⟨add⟩

end Stats

/-- The counts and events of one or several steps. -/
structure Work where
  stats : Stats := {}
  events : List Event := []
  deriving DecidableEq, Repr

namespace Work

def none : Work := {}

def append (first second : Work) : Work :=
  { stats := first.stats + second.stats, events := first.events ++ second.events }

instance : Append Work := ⟨append⟩

end Work

structure Outcome (α : Type) where
  value : α
  ids : IdSupply
  work : Work
  error : Option LoweringError

namespace Outcome

variable {α β γ : Type}

def unchanged (value : α) (ids : IdSupply) : Outcome α :=
  { value, ids, work := .none, error := none }

def failed (value : α) (ids : IdSupply) (error : LoweringError) : Outcome α :=
  { value, ids, work := .none, error := some error }

def map (make : α → β) (outcome : Outcome α) : Outcome β :=
  { outcome with value := make outcome.value }

/-- The work came before this outcome. -/
def after (work : Work) (outcome : Outcome α) : Outcome α :=
  { outcome with work := work ++ outcome.work }

/-- Go on from an outcome, unless it failed: then the rest stays `untouched`. -/
def andThen (first : Outcome α) (untouched : α → β) (rest : α → IdSupply → Outcome β) :
    Outcome β :=
  match first.error with
  | some _ => first.map untouched
  | none => (rest first.value first.ids).after first.work

end Outcome

end EnumLowering
