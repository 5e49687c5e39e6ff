import EnumLowering.Binding.Type

/-!
Variables and their identities. An identity is a 32-bit number; a supply hands
them out in order and never hands out the last one, so that the first unused
number always has a name.
-/

namespace EnumLowering

/-- Two bindings name the same variable exactly when their identities agree. -/
structure VarId where
  number : UInt32
  deriving DecidableEq, Repr

/-- Identities from `next` on are unused. -/
structure IdSupply where
  next : UInt32
  deriving DecidableEq, Repr

namespace IdSupply

def last : UInt32 := 0xFFFFFFFF

/-- The next unused identity, none once only the last number is left. -/
def fresh (supply : IdSupply) : Option VarId × IdSupply :=
  if supply.next = last then (none, supply)
  else (some ⟨supply.next⟩, ⟨supply.next + 1⟩)

theorem next_fresh_toNat (supply : IdSupply) (unspent : supply.next ≠ last) :
    supply.fresh.2.next.toNat = supply.next.toNat + 1 := by
  have below : supply.next.toNat < 2 ^ 32 - 1 := by
    have bound := supply.next.toNat_lt
    have different : supply.next.toNat ≠ last.toNat := fun same =>
      unspent (UInt32.toNat_inj.mp same)
    have lastValue : last.toNat = 2 ^ 32 - 1 := rfl
    omega
  simp only [fresh, if_neg unspent, UInt32.toNat_add, UInt32.toNat_one]
  omega

end IdSupply

structure VariableBinding where
  id : VarId
  name : String
  type : TypeBinding
  isParameter : Bool
  isField : Bool
  declaringType : Option TypeBinding
  deriving DecidableEq

namespace VariableBinding

def localVariable (id : VarId) (name : String) (type : TypeBinding) : VariableBinding :=
  { id, name, type, isParameter := false, isField := false, declaringType := none }

def parameter (id : VarId) (name : String) (type declaringType : TypeBinding) : VariableBinding :=
  { localVariable id name type with isParameter := true, declaringType := some declaringType }

def field (id : VarId) (name : String) (type declaringType : TypeBinding) : VariableBinding :=
  { localVariable id name type with isField := true, declaringType := some declaringType }

def sameVariable (left right : VariableBinding) : Bool := left.id == right.id

end VariableBinding

end EnumLowering
