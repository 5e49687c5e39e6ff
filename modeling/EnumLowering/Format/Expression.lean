import EnumLowering.Format.Binding
import EnumLowering.Syntax.Expression

/-!
The JSON form of expressions: an object whose only key names the kind of
expression, or that name alone for the null literal.
-/

namespace EnumLowering

open Json

namespace Operator

def name : Operator → String
  | .plus => "plus"
  | .minus => "minus"
  | .times => "times"
  | .equals => "equals"
  | .notEquals => "not_equals"
  | .less => "less"
  | .greater => "greater"
  | .and => "and"
  | .or => "or"

def read : Reader Operator :=
  readVariant <| NameTable.variants <|
    [Operator.plus, .minus, .times, .equals, .notEquals, .less, .greater, .and, .or].map
      fun operator => (operator.name, operator)

end Operator

/-- A variant with its body. -/
def Expression.tagged (tag : String) (body : Json) : Json := .object [(tag, body)]

open Expression (tagged)

mutual

def Expression.toJson : Expression → Json
  | .name binding => tagged "SimpleName" binding.toJson
  | .string value => tagged "StringLiteral" (.string value)
  | .number value => tagged "NumberLiteral" (.integer value.toInt)
  | .boolean value => tagged "BooleanLiteral" (.boolean value)
  | .null => .string "NullLiteral"
  | .assignment target value =>
      tagged "Assignment" (.object [("lhs", target.toJson), ("rhs", value.toJson)])
  | .creation creation => tagged "ClassInstanceCreation" creation.toJson
  | .invocation method none arguments =>
      tagged "MethodInvocation" (.object [
        ("method", method.toJson),
        ("arguments", .array (Expression.listToJson arguments))])
  | .invocation method (some receiver) arguments =>
      tagged "MethodInvocation" (.object [
        ("method", method.toJson),
        ("receiver", receiver.toJson),
        ("arguments", .array (Expression.listToJson arguments))])
  | .binary operator left right =>
      tagged "Infix" (.object [
        ("op", .string operator.name), ("lhs", left.toJson), ("rhs", right.toJson)])

def Expression.listToJson : List Expression → List Json
  | [] => []
  | expression :: expressions => expression.toJson :: Expression.listToJson expressions

def Creation.toJson : Creation → Json
  | ⟨method, arguments, isRetained⟩ =>
      .object [
        ("method", method.toJson),
        ("arguments", .array (Expression.listToJson arguments)),
        ("has_retained_result", .boolean isRetained)]

end

namespace Expression

/-- A creation, given a reader for the expressions in it. -/
def readCreation (read : Reader Expression) : Reader Creation :=
  readRecord "struct ClassInstanceCreation" <|
    Fields.map (fun (method, arguments, isRetained) => { method, arguments, isRetained }) <|
    (Fields.required "method" MethodBinding.read).and <|
    (Fields.defaulted "arguments" [] (readList read)).and <|
    Fields.defaulted "has_retained_result" false readBoolean

def readLevels : Nat → Reader Expression
  | 0 => fun _ _ => .error .malformed
  | levels + 1 =>
      readVariant [
        ("SimpleName", .wrapped fun depth tree =>
          (VariableBinding.read depth tree).map .name),
        ("StringLiteral", .wrapped fun depth tree => (readString depth tree).map .string),
        ("NumberLiteral", .wrapped fun depth tree => (readInt64 depth tree).map .number),
        ("BooleanLiteral", .wrapped fun depth tree => (readBoolean depth tree).map .boolean),
        ("NullLiteral", .bare .null),
        ("Assignment", .record <| readRecord "struct variant Expression::Assignment" <|
          Fields.map (fun (target, value) => .assignment target value) <|
          (Fields.required "lhs" (readLevels levels)).and <|
          Fields.required "rhs" (readLevels levels)),
        ("ClassInstanceCreation", .wrapped fun depth tree =>
          (readCreation (readLevels levels) depth tree).map .creation),
        ("MethodInvocation", .record <| readRecord "struct variant Expression::MethodInvocation" <|
          Fields.map (fun (method, receiver, arguments) =>
            .invocation method receiver arguments) <|
          (Fields.required "method" MethodBinding.read).and <|
          (Fields.optional "receiver" (readLevels levels)).and <|
          Fields.defaulted "arguments" [] (readList (readLevels levels))),
        ("Infix", .record <| readRecord "struct variant Expression::Infix" <|
          Fields.map (fun (operator, left, right) => .binary operator left right) <|
          (Fields.required "op" Operator.read).and <|
          (Fields.required "lhs" (readLevels levels)).and <|
          Fields.required "rhs" (readLevels levels))]

def read : Reader Expression := fun depth => readLevels (depth + 1) depth

end Expression

end EnumLowering
