import EnumLowering.Format.Declaration
import EnumLowering.Proofs.Recovery

/-!
The JSON form of a compilation unit loses nothing. Each type of the format is recovered
from its form, record by record and variant by variant, and a unit is recovered from
both texts of its form exactly when the form nests no deeper than the reader goes.
-/

namespace EnumLowering

open Json

theorem TypeKind.recovers (levels : Nat) (kind : TypeKind) :
    Recovers levels TypeKind.read (.string kind.name) kind := by
  cases kind <;> exact .bare rfl

theorem Visibility.recovers (levels : Nat) (visibility : Visibility) :
    Recovers levels Visibility.read (.string visibility.name) visibility := by
  cases visibility <;> exact .bare rfl

namespace TypeBinding

theorem entry_of_eq (key : String) (binding : Option TypeBinding) :
    entryOf key binding = optionalEntry key toJson binding := by
  cases binding <;> rw [entryOf] <;> rfl

theorem to_json_ne_null (binding : TypeBinding) : binding.toJson ≠ .null := by
  obtain ⟨package, name, outer, kind, superclass⟩ := binding
  rw [toJson]
  exact Json.noConfusion

theorem recovers_read_levels (levels : Nat) (binding : TypeBinding) :
    Recovers levels (readLevels levels) binding.toJson binding := by
  induction levels generalizing binding with
  | zero => exact .zero
  | succ levels induction =>
      obtain ⟨package, name, outer, kind, superclass⟩ := binding
      rw [toJson, entry_of_eq, entry_of_eq, readLevels]
      simp only [List.append_assoc, List.cons_append, List.nil_append]
      exact .record rfl <| .map (by rfl) <|
        .and (.optional (fun _ => Json.noConfusion) _ fun name _ => .string name) <|
        .field_and (.string _) <|
        .and (.optional to_json_ne_null _ fun outer _ => induction outer) <|
        .field_and (kind.recovers levels) <|
        .optional to_json_ne_null _ fun superclass _ => induction superclass

theorem recovers (levels : Nat) (binding : TypeBinding) :
    Recovers levels TypeBinding.read binding.toJson binding :=
  .of_levels fun levels => binding.recovers_read_levels levels

end TypeBinding

theorem Modifiers.recovers (levels : Nat) (modifiers : Modifiers) :
    Recovers levels Modifiers.read modifiers.toJson modifiers :=
  .lower <| .record rfl <| .map (by rfl) <|
    .field_and (modifiers.visibility.recovers levels) <|
    .field_and (.boolean _) <|
    .field (.boolean _)

theorem VarId.recovers (levels : Nat) (id : VarId) :
    Recovers levels VarId.read id.toJson id :=
  .map VarId.mk (.uint32 id.number)

theorem VariableBinding.recovers (levels : Nat) (binding : VariableBinding) :
    Recovers levels VariableBinding.read binding.toJson binding :=
  .lower <| .record rfl <| .map (by rfl) <|
    .field_and (binding.id.recovers levels) <|
    .field_and (.string _) <|
    .field_and (binding.type.recovers levels) <|
    .field_and (.boolean _) <|
    .field_and (.boolean _) <|
    .optional TypeBinding.to_json_ne_null _ fun declaringType _ => declaringType.recovers levels

theorem MethodBinding.recovers (levels : Nat) (binding : MethodBinding) :
    Recovers levels MethodBinding.read binding.toJson binding :=
  .lower <| .record rfl <| .map (by rfl) <|
    .field_and (.string _) <|
    .field_and (binding.declaringType.recovers levels) <|
    .field_and (.lower <| .list fun type _ => type.recovers levels) <|
    .and (.optional TypeBinding.to_json_ne_null _ fun type _ => type.recovers levels) <|
    .field_and (.boolean _) <|
    .field (binding.modifiers.recovers levels)

theorem Operator.recovers (levels : Nat) (operator : Operator) :
    Recovers levels Operator.read (.string operator.name) operator := by
  cases operator <;> exact .bare rfl

namespace Expression

theorem list_to_json_eq (expressions : List Expression) :
    listToJson expressions = expressions.map toJson := by
  induction expressions with
  | nil => rw [listToJson, List.map_nil]
  | cons expression expressions induction => rw [listToJson, induction, List.map_cons]

theorem to_json_ne_null (expression : Expression) : expression.toJson ≠ .null := by
  fun_cases toJson expression <;> exact Json.noConfusion

theorem recovers_list {levels : Nat} {read : Reader Expression}
    (recovers : ∀ expression, Recovers levels read expression.toJson expression)
    (values : List Expression) :
    Recovers levels (readList read) (.array (listToJson values)) values := by
  rw [list_to_json_eq]
  exact .lower <| .list fun value _ => recovers value

theorem recovers_read_levels (levels : Nat) (expression : Expression) :
    Recovers levels (readLevels levels) expression.toJson expression := by
  induction levels generalizing expression with
  | zero => exact .zero
  | succ levels induction =>
      rw [readLevels]
      cases expression with
      | name binding =>
          rw [toJson]
          exact .tagged rfl <| .map _ <| binding.recovers levels
      | string value =>
          rw [toJson]
          exact .tagged rfl <| .map _ <| .string value
      | number value =>
          rw [toJson]
          exact .tagged rfl <| .map _ <| .int64 value
      | boolean value =>
          rw [toJson]
          exact .tagged rfl <| .map _ <| .boolean value
      | null =>
          rw [toJson]
          exact .bare rfl
      | assignment target value =>
          rw [toJson]
          exact .tagged rfl <| .lower <| .record rfl <| .map (by rfl) <|
            .field_and (induction target) <|
            .field (induction value)
      | creation creation =>
          obtain ⟨method, values, isRetained⟩ := creation
          rw [toJson]
          exact .tagged rfl <| .map _ <| .lower <| .record rfl <| .map (by rfl) <|
            .field_and (method.recovers levels) <|
            .field_and (recovers_list induction values) <|
            .field (.boolean isRetained)
      | invocation method receiver values =>
          cases receiver with
          | none =>
              rw [toJson]
              exact .tagged rfl <| .lower <| .record rfl <| .map (by rfl) <|
                .field_and (method.recovers levels) <|
                .and (.absent none) <|
                .field (recovers_list induction values)
          | some receiver =>
              rw [toJson]
              exact .tagged rfl <| .lower <| .record rfl <| .map (by rfl) <|
                .field_and (method.recovers levels) <|
                .field_and ((induction receiver).some receiver.to_json_ne_null) <|
                .field (recovers_list induction values)
      | binary operator left right =>
          rw [toJson]
          exact .tagged rfl <| .lower <| .record rfl <| .map (by rfl) <|
            .field_and (operator.recovers levels) <|
            .field_and (induction left) <|
            .field (induction right)

theorem recovers (levels : Nat) (expression : Expression) :
    Recovers levels Expression.read expression.toJson expression :=
  .of_levels fun levels => expression.recovers_read_levels levels

end Expression

theorem Placement.recovers (levels : Nat) (placement : Placement) :
    Recovers levels Placement.read (.string placement.name) placement := by
  cases placement <;> exact .bare rfl

theorem NativeBlock.recovers (levels : Nat) (block : NativeBlock) :
    Recovers levels NativeBlock.read block.toJson block :=
  .lower <| .record rfl <| .map (by rfl) <|
    .field_and (block.placement.recovers levels) <|
    .field_and (.string _) <|
    .field (.string _)

theorem ConstructorCall.recovers (levels : Nat) (description : String) (call : ConstructorCall) :
    Recovers levels (ConstructorCall.read description) call.toJson call :=
  .lower <| .record rfl <| .map (by rfl) <|
    .field_and (call.method.recovers levels) <|
    .field (Expression.recovers_list (Expression.recovers levels) call.arguments)

theorem EnumConstant.recovers (levels : Nat) (constant : EnumConstant) :
    Recovers levels EnumConstant.read constant.toJson constant :=
  .lower <| .record rfl <| .map (by rfl) <|
    .field_and (constant.binding.recovers levels) <|
    .field_and (constant.constructor.recovers levels) <|
    .field (Expression.recovers_list (Expression.recovers levels) constant.arguments)

theorem FieldDeclaration.recovers (levels : Nat) (field : FieldDeclaration) :
    Recovers levels FieldDeclaration.read field.toJson field :=
  .lower <| .record rfl <| .map (by rfl) <|
    .field_and (field.binding.recovers levels) <|
    .and (.optional Expression.to_json_ne_null _ fun value _ => value.recovers levels) <|
    .field (field.modifiers.recovers levels)

theorem recovers_parameter (levels : Nat) (binding : VariableBinding) :
    Recovers levels readParameter (parameterToJson binding) binding :=
  .lower <| .record rfl <| .field (binding.recovers levels)

theorem Statement.list_to_json_eq (statements : List Statement) :
    Statement.listToJson statements = statements.map Statement.toJson := by
  induction statements with
  | nil => rw [Statement.listToJson, List.map_nil]
  | cons statement statements induction =>
      rw [Statement.listToJson, induction, List.map_cons]

theorem Member.list_to_json_eq (members : List Member) :
    Member.listToJson members = members.map Member.toJson := by
  induction members with
  | nil => rw [Member.listToJson, List.map_nil]
  | cons member members induction => rw [Member.listToJson, induction, List.map_cons]

theorem Statement.to_json_ne_null (statement : Statement) : statement.toJson ≠ .null := by
  fun_cases Statement.toJson statement <;> exact Json.noConfusion

section

variable {levels : Nat} {readStatement : Reader Statement} {readType : Reader TypeDeclaration}
  (statements : ∀ statement, Recovers levels readStatement statement.toJson statement)
  (types : ∀ type, Recovers levels readType type.toJson type)

include statements

theorem Statement.recovers_list (values : List Statement) :
    Recovers levels (readList readStatement) (.array (Statement.listToJson values)) values := by
  rw [Statement.list_to_json_eq]
  exact .lower <| .list fun value _ => statements value

theorem recovers_block (values : List Statement) :
    Recovers levels (readBlock readStatement)
      (.object [("statements", .array (Statement.listToJson values))]) values :=
  .lower <| .record rfl <| .field (Statement.recovers_list statements values)

theorem MethodDeclaration.recovers_read_with (method : MethodDeclaration) :
    Recovers levels (MethodDeclaration.readWith readStatement) method.toJson method := by
  obtain ⟨binding, modifiers, parameters, body⟩ := method
  cases body with
  | none =>
      rw [MethodDeclaration.toJson]
      exact .lower <| .record rfl <| .map (by rfl) <|
        .field_and (binding.recovers levels) <|
        .field_and (modifiers.recovers levels) <|
        .field_and (.lower <| .list fun parameter _ => recovers_parameter levels parameter) <|
        .absent none
  | some body =>
      rw [MethodDeclaration.toJson]
      exact .lower <| .record rfl <| .map (by rfl) <|
        .field_and (binding.recovers levels) <|
        .field_and (modifiers.recovers levels) <|
        .field_and (.lower <| .list fun parameter _ => recovers_parameter levels parameter) <|
        .present Json.noConfusion (recovers_block statements body)

include types

theorem Member.recovers_read_with (member : Member) :
    Recovers levels (Member.readWith readStatement readType) member.toJson member := by
  cases member with
  | method declaration =>
      rw [Member.toJson]
      exact .lower <| .tagged rfl <| .map _ <|
        MethodDeclaration.recovers_read_with statements declaration
  | field declaration =>
      rw [Member.toJson]
      exact .lower <| .tagged rfl <| .map _ <| declaration.recovers levels
  | type declaration =>
      rw [Member.toJson]
      exact .lower <| .tagged rfl <| .map _ <| types declaration
  | native block =>
      rw [Member.toJson]
      exact .lower <| .tagged rfl <| .map _ <| block.recovers levels

theorem Member.recovers_list (values : List Member) :
    Recovers levels (readList (Member.readWith readStatement readType))
      (.array (Member.listToJson values)) values := by
  rw [Member.list_to_json_eq]
  exact .lower <| .list fun value _ => Member.recovers_read_with statements types value

theorem ClassDeclaration.recovers_read_with (declaration : ClassDeclaration) :
    Recovers levels (ClassDeclaration.readWith readStatement readType) declaration.toJson
      declaration := by
  obtain ⟨binding, members, initializers⟩ := declaration
  rw [ClassDeclaration.toJson]
  exact .lower <| .record rfl <| .map (by rfl) <|
    .field_and (binding.recovers levels) <|
    .field_and (Member.recovers_list statements types members) <|
    .field (Statement.recovers_list statements initializers)

theorem EnumDeclaration.recovers_read_with (declaration : EnumDeclaration) :
    Recovers levels (EnumDeclaration.readWith readStatement readType) declaration.toJson
      declaration := by
  obtain ⟨binding, constants, members, initializers⟩ := declaration
  rw [EnumDeclaration.toJson]
  exact .lower <| .record rfl <| .map (by rfl) <|
    .field_and (binding.recovers levels) <|
    .field_and (.lower <| .list fun constant _ => constant.recovers levels) <|
    .field_and (Member.recovers_list statements types members) <|
    .field (Statement.recovers_list statements initializers)

end

/-- Statements and type declarations hold one another, so both go down together. -/
theorem recovers_read_levels (levels : Nat) :
    (∀ statement : Statement,
      Recovers levels (Statement.readLevels levels) statement.toJson statement) ∧
    ∀ type : TypeDeclaration,
      Recovers levels (TypeDeclaration.readLevels levels) type.toJson type := by
  induction levels with
  | zero => exact ⟨fun _ => .zero, fun _ => .zero⟩
  | succ levels induction =>
      obtain ⟨statements, types⟩ := induction
      refine ⟨fun statement => ?_, fun type => ?_⟩
      · rw [Statement.readLevels]
        cases statement with
        | expression value =>
            rw [Statement.toJson]
            exact .tagged rfl <| .map _ <| value.recovers levels
        | block values =>
            rw [Statement.toJson]
            exact .tagged rfl <| .map _ <| recovers_block statements values
        | conditional condition thenBranch elseBranch =>
            cases elseBranch with
            | none =>
                rw [Statement.toJson]
                exact .tagged rfl <| .lower <| .record rfl <| .map (by rfl) <|
                  .field_and (condition.recovers levels) <|
                  .field_and (statements thenBranch) <|
                  .absent none
            | some elseBranch =>
                rw [Statement.toJson]
                exact .tagged rfl <| .lower <| .record rfl <| .map (by rfl) <|
                  .field_and (condition.recovers levels) <|
                  .field_and (statements thenBranch) <|
                  .present elseBranch.to_json_ne_null (statements elseBranch)
        | result value =>
            rw [Statement.toJson]
            exact .tagged rfl <| .map _ <|
              .option Expression.to_json_ne_null (fun value => value.recovers levels) value
        | localVariable binding initializer =>
            rw [Statement.toJson]
            exact .tagged rfl <| .lower <| .record rfl <| .map (by rfl) <|
              .field_and (binding.recovers levels) <|
              .optional Expression.to_json_ne_null _ fun value _ => value.recovers levels
        | localType declaration =>
            rw [Statement.toJson]
            exact .tagged rfl <| .map _ <| types declaration
        | thisCall call =>
            rw [Statement.toJson]
            exact .tagged rfl <| .map _ <| call.recovers levels _
        | superCall call =>
            rw [Statement.toJson]
            exact .tagged rfl <| .map _ <| call.recovers levels _
      · rw [TypeDeclaration.readLevels]
        cases type with
        | ofClass declaration =>
            rw [TypeDeclaration.toJson]
            exact .tagged rfl <| .map _ <|
              ClassDeclaration.recovers_read_with statements types declaration
        | ofEnum declaration =>
            rw [TypeDeclaration.toJson]
            exact .tagged rfl <| .map _ <|
              EnumDeclaration.recovers_read_with statements types declaration

theorem TypeDeclaration.recovers (levels : Nat) (type : TypeDeclaration) :
    Recovers levels TypeDeclaration.read type.toJson type :=
  .of_levels fun levels => (recovers_read_levels levels).2 type

namespace CompilationUnit

theorem recovers (levels : Nat) (compilationUnit : CompilationUnit) :
    Recovers levels CompilationUnit.read compilationUnit.toJson compilationUnit :=
  .lower <| .record rfl <| .map (by rfl) <|
    .and (.optional (fun _ => Json.noConfusion) _ fun path _ => .string path) <|
    .field_and (.lower <| .list fun type _ => type.recovers levels) <|
    .field (.uint32 _)

theorem read_text_compact (compilationUnit : CompilationUnit) :
    readText CompilationUnit.read compilationUnit.toJson.compact =
      within compilationUnit.toJson.nesting nestingLimit compilationUnit :=
  read_text_write Style.compact_is_blank fun levels => compilationUnit.recovers levels

theorem read_text_pretty (compilationUnit : CompilationUnit) :
    readText CompilationUnit.read compilationUnit.toJson.pretty =
      within compilationUnit.toJson.nesting nestingLimit compilationUnit :=
  read_text_write Style.pretty_is_blank fun levels => compilationUnit.recovers levels

/-- A unit whose form nests within the limit is read back from either text of it. -/
theorem written_unit_is_read_back (compilationUnit : CompilationUnit)
    (shallow : compilationUnit.toJson.nesting ≤ nestingLimit) :
    readText CompilationUnit.read compilationUnit.toJson.compact = .ok compilationUnit ∧
      readText CompilationUnit.read compilationUnit.toJson.pretty = .ok compilationUnit := by
  rw [read_text_compact, read_text_pretty, within_ok shallow]
  exact ⟨rfl, rfl⟩

end CompilationUnit

namespace Sample

/-- `return;` next to `return null;`, the least number, the last identity, and a string
with a quote, a control character and a character beyond 16 bits. -/
def corners : CompilationUnit :=
  let owner : TypeBinding := .topLevel .classType (some "demo") "Corners"
  let limit : VariableBinding := .field ⟨0xFFFFFFFF⟩ "limit" (.primitive "long") owner
  let early : MethodDeclaration :=
    .ofBinding (.methodOf owner "early" [] none) []
      [.conditional (.name limit) (.result none) (some (.result (some .null))),
        .expression (.string "\"\x01\\\u2028😀")]
  .ofTypes
    [.ofClass
      { binding := owner
        members := [.field ⟨limit, some (.number Int64.minValue), {}⟩, .method early]
        initializers := [] }]
    0xFFFFFFFF

theorem corners_are_read_back :
    corners.toJson.nesting = 14 ∧
      readText CompilationUnit.read corners.toJson.compact = .ok corners ∧
      readText CompilationUnit.read corners.toJson.pretty = .ok corners := by
  have nests : corners.toJson.nesting = 14 := by decide
  exact ⟨nests, corners.written_unit_is_read_back (by rw [nests]; decide)⟩

end Sample

end EnumLowering
