/-!
What may be chosen about generated code.
-/

namespace EnumLowering

/-- How generated code gives up objects it made. -/
inductive MemoryManagement where
  /-- By explicit release: what is only made to be thrown is released with the
  current pool. -/
  | referenceCounting
  | automatic
  deriving DecidableEq, Repr

def MemoryManagement.ofName? (name : String) : Option MemoryManagement :=
  -- Letters outside ASCII keep their case.
  match name.toLower with
  | "rc" | "reference-counting" => some .referenceCounting
  | "arc" => some .automatic
  | _ => none

structure Options where
  /-- Add the conversion of an instance to the plain enumeration. -/
  swiftFriendly : Bool := false
  memory : MemoryManagement := .referenceCounting
  indentWidth : Nat := 2
  deriving DecidableEq, Repr

end EnumLowering
