import EnumLowering.Binding.Type

/-!
The types that lowering and generated code name without a declaration: the
primitives of the source language, the runtime types of the target, and the
exception that a failed lookup raises.
-/

namespace EnumLowering.Known

def primitiveNames : List String :=
  ["boolean", "byte", "char", "short", "int", "long", "float", "double", "void"]

def foundationNames : List String :=
  ["NSString", "NSObject", "NSZone", "NSUInteger", "IOSObjectArray"]

def primitive? (name : String) : Option TypeBinding :=
  if primitiveNames.contains name then some (.primitive name) else none

def foundation? (name : String) : Option TypeBinding :=
  if foundationNames.contains name then some (.foundation name) else none

def stringType : TypeBinding := .foundation "NSString"

def intType : TypeBinding := .primitive "int"

def illegalArgument : TypeBinding :=
  .topLevel .classType (some "java.lang") "IllegalArgumentException"

end EnumLowering.Known
