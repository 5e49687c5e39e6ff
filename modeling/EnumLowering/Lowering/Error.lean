/-!
Reasons for which lowering gives up. None of them is a mistake in the lowered
program: they mean that a step was taken out of order or that identities ran out.
Constructors are named by their signature before lowering.
-/

namespace EnumLowering

inductive LoweringError where
  | contextAlreadyActive (constructor active : String)
  | contextInactive (call : String)
  | notAnEnumConstructor (method : String)
  | idsExhausted (constructor : String)
  deriving DecidableEq, Repr

namespace LoweringError

/-- The short tag of an error in reports. -/
def code : LoweringError → String
  | .contextAlreadyActive _ _ => "I0001"
  | .contextInactive _ => "I0002"
  | .notAnEnumConstructor _ => "I0003"
  | .idsExhausted _ => "I0004"

def message : LoweringError → String
  | .contextAlreadyActive constructor active =>
      "entered enum constructor `" ++ constructor ++ "` while the implicit context of `" ++
        active ++ "` is still active"
  | .contextInactive call =>
      "forwarding call to `" ++ call ++ "` outside of an enum constructor context"
  | .notAnEnumConstructor method => "`" ++ method ++ "` is not a constructor of an enum type"
  | .idsExhausted constructor =>
      "no variable ids left for the implicit parameters of `" ++ constructor ++ "`"

end LoweringError

end EnumLowering
