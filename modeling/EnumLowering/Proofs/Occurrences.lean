import EnumLowering.Proofs.Visits

/-!
Every occurrence of a variable in a unit, with its place: as a parameter, a
constant, a field or a local variable that is declared there, or as a name in an
expression. Nothing is left out, so bodies of ordinary methods and the local types
in them count as well. What occurs in a node does not depend on where it stands.
-/

namespace EnumLowering

inductive Role where
  | parameter
  | constant
  | field
  | localVariable
  | name
  deriving DecidableEq, Repr

structure Occurrence where
  role : Role
  binding : VariableBinding
  deriving DecidableEq

def Occurrence.number (occurrence : Occurrence) : Nat := occurrence.binding.id.number.toNat

abbrev Occurrences := List (Located Occurrence)

mutual

def Expression.occurrences (place : Place) : Expression → Occurrences
  | .name binding => [⟨place, .name, binding⟩]
  | .string _ | .number _ | .boolean _ | .null => []
  | .assignment target value =>
      target.occurrences (.target :: place) ++ value.occurrences (.value :: place)
  | .creation ⟨_, arguments, _⟩ => Expression.occurrencesFrom place 0 arguments
  | .invocation _ none arguments => Expression.occurrencesFrom place 0 arguments
  | .invocation _ (some receiver) arguments =>
      receiver.occurrences (.receiver :: place) ++ Expression.occurrencesFrom place 0 arguments
  | .binary _ left right =>
      left.occurrences (.left :: place) ++ right.occurrences (.right :: place)

/-- The occurrences in arguments, of which the first has the position `index`. -/
def Expression.occurrencesFrom (place : Place) (index : Nat) : List Expression → Occurrences
  | [] => []
  | argument :: arguments =>
      argument.occurrences (.argument index :: place) ++
        Expression.occurrencesFrom place (index + 1) arguments

end

def Expression.optionalOccurrences (place : Place) : Option Expression → Occurrences
  | none => []
  | some value => value.occurrences (.value :: place)

def EnumConstant.occurrences (place : Place) (constant : EnumConstant) : Occurrences :=
  ⟨place, .constant, constant.binding⟩ :: Expression.occurrencesFrom place 0 constant.arguments

def EnumConstant.occurrencesFrom (place : Place) (index : Nat) : List EnumConstant → Occurrences
  | [] => []
  | constant :: constants =>
      constant.occurrences (.constant index :: place) ++
        EnumConstant.occurrencesFrom place (index + 1) constants

def VariableBinding.parameterOccurrences (place : Place) (index : Nat) :
    List VariableBinding → Occurrences
  | [] => []
  | parameter :: parameters =>
      ⟨.parameter index :: place, .parameter, parameter⟩ ::
        VariableBinding.parameterOccurrences place (index + 1) parameters

mutual

def Statement.occurrences (place : Place) : Statement → Occurrences
  | .expression value => value.occurrences (.value :: place)
  | .block statements => Statement.occurrencesFrom place 0 statements
  | .conditional condition thenBranch none =>
      condition.occurrences (.condition :: place) ++
        thenBranch.occurrences (.thenBranch :: place)
  | .conditional condition thenBranch (some elseBranch) =>
      condition.occurrences (.condition :: place) ++
        (thenBranch.occurrences (.thenBranch :: place) ++
          elseBranch.occurrences (.elseBranch :: place))
  | .result value => Expression.optionalOccurrences place value
  | .localVariable binding initializer =>
      ⟨place, .localVariable, binding⟩ :: Expression.optionalOccurrences place initializer
  | .localType declaration => declaration.occurrences place
  | .thisCall call => Expression.occurrencesFrom place 0 call.arguments
  | .superCall call => Expression.occurrencesFrom place 0 call.arguments

def Statement.occurrencesFrom (place : Place) (index : Nat) : List Statement → Occurrences
  | [] => []
  | statement :: statements =>
      statement.occurrences (.statement index :: place) ++
        Statement.occurrencesFrom place (index + 1) statements

def MethodDeclaration.occurrences (place : Place) : MethodDeclaration → Occurrences
  | ⟨_, _, parameters, none⟩ => VariableBinding.parameterOccurrences place 0 parameters
  | ⟨_, _, parameters, some statements⟩ =>
      VariableBinding.parameterOccurrences place 0 parameters ++
        Statement.occurrencesFrom place 0 statements

def Member.occurrences (place : Place) : Member → Occurrences
  | .method declaration => declaration.occurrences place
  | .field declaration =>
      ⟨place, .field, declaration.binding⟩ ::
        Expression.optionalOccurrences place declaration.initializer
  | .type declaration => declaration.occurrences place
  | .native _ => []

def Member.occurrencesFrom (place : Place) (index : Nat) : List Member → Occurrences
  | [] => []
  | member :: members =>
      member.occurrences (.member index :: place) ++
        Member.occurrencesFrom place (index + 1) members

def TypeDeclaration.occurrences (place : Place) : TypeDeclaration → Occurrences
  | .ofClass ⟨_, members, initializers⟩ =>
      Member.occurrencesFrom place 0 members ++ Statement.occurrencesFrom place 0 initializers
  | .ofEnum ⟨_, constants, members, initializers⟩ =>
      EnumConstant.occurrencesFrom place 0 constants ++
        (Member.occurrencesFrom place 0 members ++
          Statement.occurrencesFrom place 0 initializers)

end

def TypeDeclaration.occurrencesFrom (index : Nat) : List TypeDeclaration → Occurrences
  | [] => []
  | declaration :: declarations =>
      declaration.occurrences [.type index] ++
        TypeDeclaration.occurrencesFrom (index + 1) declarations

def CompilationUnit.occurrences (compilationUnit : CompilationUnit) : Occurrences :=
  TypeDeclaration.occurrencesFrom 0 compilationUnit.types

/-! The same variables occur in the same roles wherever a node is put. -/

mutual

theorem Expression.items_occurrences (place other : Place) (expression : Expression) :
    (expression.occurrences place).map Located.item =
      (expression.occurrences other).map Located.item := by
  cases expression with
  | name binding => rfl
  | string value => rfl
  | number value => rfl
  | boolean value => rfl
  | null => rfl
  | assignment target value =>
      simp only [Expression.occurrences, List.map_append,
        target.items_occurrences (.target :: place) (.target :: other),
        value.items_occurrences (.value :: place) (.value :: other)]
  | creation creation =>
      obtain ⟨method, arguments, isRetained⟩ := creation
      simp only [Expression.occurrences,
        Expression.items_occurrences_from place other 0 0 arguments]
  | invocation method receiver arguments =>
      have inArguments := Expression.items_occurrences_from place other 0 0 arguments
      cases receiver with
      | none => simpa only [Expression.occurrences] using inArguments
      | some receiver =>
          simp only [Expression.occurrences, List.map_append, inArguments,
            receiver.items_occurrences (.receiver :: place) (.receiver :: other)]
  | binary operator left right =>
      simp only [Expression.occurrences, List.map_append,
        left.items_occurrences (.left :: place) (.left :: other),
        right.items_occurrences (.right :: place) (.right :: other)]

theorem Expression.items_occurrences_from (place other : Place) (index start : Nat)
    (arguments : List Expression) :
    (Expression.occurrencesFrom place index arguments).map Located.item =
      (Expression.occurrencesFrom other start arguments).map Located.item := by
  cases arguments with
  | nil => rfl
  | cons argument arguments =>
      simp only [Expression.occurrencesFrom, List.map_append,
        argument.items_occurrences (.argument index :: place) (.argument start :: other),
        Expression.items_occurrences_from place other (index + 1) (start + 1) arguments]

end

theorem Expression.items_optional_occurrences (place other : Place) (value : Option Expression) :
    (Expression.optionalOccurrences place value).map Located.item =
      (Expression.optionalOccurrences other value).map Located.item := by
  cases value with
  | none => rfl
  | some value => exact value.items_occurrences (.value :: place) (.value :: other)

theorem EnumConstant.items_occurrences_from (place other : Place) (index start : Nat)
    (constants : List EnumConstant) :
    (EnumConstant.occurrencesFrom place index constants).map Located.item =
      (EnumConstant.occurrencesFrom other start constants).map Located.item := by
  induction constants generalizing index start with
  | nil => rfl
  | cons constant constants induction =>
      simp only [EnumConstant.occurrencesFrom, EnumConstant.occurrences, List.map_append,
        List.map_cons, induction (index + 1) (start + 1),
        Expression.items_occurrences_from (.constant index :: place) (.constant start :: other) 0 0
          constant.arguments]

theorem VariableBinding.items_parameter_occurrences (place other : Place) (index start : Nat)
    (parameters : List VariableBinding) :
    (VariableBinding.parameterOccurrences place index parameters).map Located.item =
      (VariableBinding.parameterOccurrences other start parameters).map Located.item := by
  induction parameters generalizing index start with
  | nil => rfl
  | cons parameter parameters induction =>
      simp only [VariableBinding.parameterOccurrences, List.map_cons,
        induction (index + 1) (start + 1)]

mutual

theorem Statement.items_occurrences (place other : Place) (statement : Statement) :
    (statement.occurrences place).map Located.item =
      (statement.occurrences other).map Located.item := by
  cases statement with
  | expression value => exact value.items_occurrences (.value :: place) (.value :: other)
  | block statements =>
      simpa only [Statement.occurrences] using
        Statement.items_occurrences_from place other 0 0 statements
  | conditional condition thenBranch elseBranch =>
      have inCondition := condition.items_occurrences (.condition :: place) (.condition :: other)
      have inThen := thenBranch.items_occurrences (.thenBranch :: place) (.thenBranch :: other)
      cases elseBranch with
      | none => simp only [Statement.occurrences, List.map_append, inCondition, inThen]
      | some elseBranch =>
          simp only [Statement.occurrences, List.map_append, inCondition, inThen,
            elseBranch.items_occurrences (.elseBranch :: place) (.elseBranch :: other)]
  | result value => exact Expression.items_optional_occurrences place other value
  | localVariable binding initializer =>
      simp only [Statement.occurrences, List.map_cons,
        Expression.items_optional_occurrences place other initializer]
  | localType declaration =>
      simpa only [Statement.occurrences] using declaration.items_occurrences place other
  | thisCall call => exact Expression.items_occurrences_from place other 0 0 call.arguments
  | superCall call => exact Expression.items_occurrences_from place other 0 0 call.arguments

theorem Statement.items_occurrences_from (place other : Place) (index start : Nat)
    (statements : List Statement) :
    (Statement.occurrencesFrom place index statements).map Located.item =
      (Statement.occurrencesFrom other start statements).map Located.item := by
  cases statements with
  | nil => rfl
  | cons statement statements =>
      simp only [Statement.occurrencesFrom, List.map_append,
        statement.items_occurrences (.statement index :: place) (.statement start :: other),
        Statement.items_occurrences_from place other (index + 1) (start + 1) statements]

theorem MethodDeclaration.items_occurrences (place other : Place) (method : MethodDeclaration) :
    (method.occurrences place).map Located.item =
      (method.occurrences other).map Located.item := by
  obtain ⟨binding, modifiers, parameters, body⟩ := method
  have inParameters := VariableBinding.items_parameter_occurrences place other 0 0 parameters
  cases body with
  | none => simpa only [MethodDeclaration.occurrences] using inParameters
  | some statements =>
      simp only [MethodDeclaration.occurrences, List.map_append, inParameters,
        Statement.items_occurrences_from place other 0 0 statements]

theorem Member.items_occurrences (place other : Place) (member : Member) :
    (member.occurrences place).map Located.item =
      (member.occurrences other).map Located.item := by
  cases member with
  | method declaration =>
      simpa only [Member.occurrences] using declaration.items_occurrences place other
  | field declaration =>
      simp only [Member.occurrences, List.map_cons,
        Expression.items_optional_occurrences place other declaration.initializer]
  | type declaration =>
      simpa only [Member.occurrences] using declaration.items_occurrences place other
  | native block => rfl

theorem Member.items_occurrences_from (place other : Place) (index start : Nat)
    (members : List Member) :
    (Member.occurrencesFrom place index members).map Located.item =
      (Member.occurrencesFrom other start members).map Located.item := by
  cases members with
  | nil => rfl
  | cons member members =>
      simp only [Member.occurrencesFrom, List.map_append,
        member.items_occurrences (.member index :: place) (.member start :: other),
        Member.items_occurrences_from place other (index + 1) (start + 1) members]

theorem TypeDeclaration.items_occurrences (place other : Place) (declaration : TypeDeclaration) :
    (declaration.occurrences place).map Located.item =
      (declaration.occurrences other).map Located.item := by
  rcases declaration with ⟨⟨binding, members, initializers⟩⟩ |
    ⟨⟨binding, constants, members, initializers⟩⟩
  · simp only [TypeDeclaration.occurrences, List.map_append,
      Member.items_occurrences_from place other 0 0 members,
      Statement.items_occurrences_from place other 0 0 initializers]
  · simp only [TypeDeclaration.occurrences, List.map_append,
      EnumConstant.items_occurrences_from place other 0 0 constants,
      Member.items_occurrences_from place other 0 0 members,
      Statement.items_occurrences_from place other 0 0 initializers]

end

end EnumLowering
