import EnumLowering.Binding.Type
import EnumLowering.Text.Uppercase

/-!
Names of types in generated code. The target has one flat name space, so the
package becomes a prefix of capitalised segments and a member type joins its
enclosing chain with underscores: `com.example.Outer.Inner` is
`ComExampleOuter_Inner`. Primitives and foundation types keep their own names. The
plain enumeration of the ordinals is named after its enum.
-/

namespace EnumLowering

namespace Text

def capitalize : List Char → List Char
  | [] => []
  | c :: rest => upper c ++ rest

end Text

/-- Capitalised segments run together; empty segments leave no trace. -/
def packagePrefix (package : String) : String :=
  String.ofList ((package.toList.splitOn '.').flatMap Text.capitalize)

namespace TypeBinding

def outputName (binding : TypeBinding) : String :=
  match binding.kind with
  | .primitive | .foundation => binding.name
  | .classType | .enumType | .interfaceType =>
      ((binding.package.map packagePrefix).getD "") ++
        String.intercalate "_" binding.chainNames

end TypeBinding

def nativeEnumName (typeName : String) : String := typeName ++ "_Enum"

end EnumLowering
