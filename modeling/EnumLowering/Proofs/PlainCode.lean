import EnumLowering.Native.Support

/-!
Plain code: all names in it are identifiers, and its expressions keep to the shapes that
need no parentheses. The support of an enum is plain if the output name of the enum is an
identifier.
-/

namespace EnumLowering.Native

/-! Identifiers -/

/-- Letters, digits and the underscore. -/
def isWordChar (c : Char) : Bool := c.isAlphanum || c == '_'

/-- An identifier has only word characters, and the first of them is no digit. -/
def isIdentifier (name : String) : Bool :=
  name.toList.all isWordChar && name.toList.head?.any fun first => !first.isDigit

section

variable {name : String} (identifier : isIdentifier name)
include identifier

theorem is_word_char_of_mem {c : Char} (there : c ∈ name.toList) : isWordChar c := by
  rw [isIdentifier, Bool.and_eq_true] at identifier
  exact List.all_eq_true.mp identifier.1 c there

theorem exists_first : ∃ first rest, name.toList = first :: rest ∧ first.isDigit = false := by
  rw [isIdentifier, Bool.and_eq_true] at identifier
  cases chars : name.toList with
  | nil => simp [chars] at identifier
  | cons first rest => exact ⟨first, rest, rfl, by simpa [chars] using identifier.2⟩

theorem is_identifier_append {ending : String} (words : ending.toList.all isWordChar) :
    isIdentifier (name ++ ending) := by
  obtain ⟨first, rest, chars, noDigit⟩ := exists_first identifier
  rw [isIdentifier, Bool.and_eq_true] at identifier ⊢
  refine ⟨?_, ?_⟩
  · rw [String.toList_append, List.all_append, identifier.1, words, Bool.and_self]
  · simp [chars, noDigit]

end

theorem is_word_char_decimal (value : Nat) : ∀ c ∈ Nat.toDigits 10 value, isWordChar c := by
  intro c there
  have digit := Nat.isDigit_of_mem_toDigits (by decide) (by decide) there
  simp [isWordChar, Char.isAlphanum, digit]

/-! Plain expressions, statements and items -/

namespace Expr

/-- An index may follow directly. -/
def isPostfix : Expr → Bool
  | .cast _ _ | .compare _ _ _ => false
  | _ => true

/-- Neither side of a comparison needs parentheses around it. -/
def isOperand : Expr → Bool
  | .compare _ _ _ => false
  | _ => true

inductive Plain : Expr → Prop where
  | ident {name : String} (identifier : isIdentifier name) (notNil : name ≠ "nil") :
      Plain (.ident name)
  | int (value : Nat) : Plain (.int value)
  | nil : Plain .nil
  | call {function : String} {arguments : List Expr} (identifier : isIdentifier function)
      (plain : ∀ argument ∈ arguments, Plain argument) : Plain (.call function arguments)
  | unarySend {receiver : Expr} {label : String} (plain : Plain receiver)
      (identifier : isIdentifier label) : Plain (.send receiver [(label, none)])
  | keywordSend {receiver : Expr} {parts : List (String × Expr)} (plain : Plain receiver)
      (present : parts ≠ []) (identifiers : ∀ part ∈ parts, isIdentifier part.1)
      (plainParts : ∀ part ∈ parts, Plain part.2) :
      Plain (.send receiver (parts.map fun (label, argument) => (label, some argument)))
  | index {base position : Expr} (plain : Plain base) (plainPosition : Plain position)
      (postfixBase : base.isPostfix) : Plain (.index base position)
  | cast {type : CType} {operand : Expr} (identifier : isIdentifier type.name)
      (plain : Plain operand) (isOperand : operand.isOperand) : Plain (.cast type operand)
  | compare {comparison : Comparison} {left right : Expr} (plainLeft : Plain left)
      (plainRight : Plain right) (leftOperand : left.isOperand) (rightOperand : right.isOperand) :
      Plain (.compare comparison left right)

theorem render_all_eq_map (values : List Expr) : renderAll values = values.map render := by
  induction values with
  | nil => rw [renderAll, List.map_nil]
  | cons value values induction => rw [renderAll, List.map_cons, induction]

/-- A label with its argument. -/
def partText (part : String × Expr) : String := part.1 ++ ":" ++ part.2.render

theorem render_parts_eq_map (parts : List (String × Expr)) :
    renderParts (parts.map fun (label, argument) => (label, some argument)) =
      parts.map partText := by
  induction parts with
  | nil => rw [List.map_nil, renderParts, List.map_nil]
  | cons part parts induction => rw [List.map_cons, renderParts, List.map_cons, induction, partText]

end Expr

namespace Stmt

inductive Plain : Stmt → Prop where
  | expr {value : Expr} (plain : value.Plain) : Plain (.expr value)
  | result {value : Expr} (plain : value.Plain) : Plain (.result value)
  | throw {value : Expr} (plain : value.Plain) : Plain (.throw value)
  | localVariable {type : CType} {name : String} {initial : Expr}
      (typeIdentifier : isIdentifier type.name) (identifier : isIdentifier name)
      (plain : initial.Plain) : Plain (.localVariable type name initial)
  | conditional {condition : Expr} {body : List Stmt} (plain : condition.Plain)
      (plainBody : ∀ stmt ∈ body, Plain stmt) : Plain (.conditional condition body)
  | countedFor {counter : String} {bound : Nat} {body : List Stmt}
      (identifier : isIdentifier counter) (notNil : counter ≠ "nil")
      (plainBody : ∀ stmt ∈ body, Plain stmt) : Plain (.countedFor counter bound body)

mutual

/-- The expressions in a statement, the condition in the head of a loop among them. -/
@[simp] def exprs : Stmt → List Expr
  | .expr value | .result value | .throw value => [value]
  | .localVariable _ _ initial => [initial]
  | .conditional condition body => condition :: allExprs body
  | .countedFor counter bound body =>
      .compare .less (.ident counter) (.int bound) :: allExprs body

@[simp] def allExprs : List Stmt → List Expr
  | [] => []
  | stmt :: stmts => exprs stmt ++ allExprs stmts

end

theorem all_exprs_eq_flatMap (stmts : List Stmt) : allExprs stmts = stmts.flatMap exprs := by
  induction stmts with
  | nil => rw [allExprs, List.flatMap_nil]
  | cons stmt stmts induction => rw [allExprs, List.flatMap_cons, induction]

theorem Plain.plain_exprs {stmt : Stmt} (plain : stmt.Plain) : ∀ expr ∈ stmt.exprs, expr.Plain := by
  induction plain with
  | expr plain => simpa using plain
  | result plain => simpa using plain
  | throw plain => simpa using plain
  | localVariable _ _ plain => simpa using plain
  | conditional plain _ induction =>
      simpa [all_exprs_eq_flatMap] using
        ⟨plain, fun expr stmt there => induction stmt there expr⟩
  | @countedFor counter bound _ identifier notNil _ induction =>
      have condition : (Expr.compare .less (.ident counter) (.int bound)).Plain :=
        .compare (.ident identifier notNil) (.int bound) rfl rfl
      simpa [all_exprs_eq_flatMap] using
        ⟨condition, fun expr stmt there => induction stmt there expr⟩

end Stmt

def Param.Plain (param : Param) : Prop := isIdentifier param.type.name ∧ isIdentifier param.name

structure Method.Plain (method : Method) : Prop where
  returnType : isIdentifier method.returnType.name
  selector : isIdentifier method.selector
  param : ∀ param ∈ method.param.toList, param.Plain
  body : ∀ stmt ∈ method.body, stmt.Plain

structure Function.Plain (function : Function) : Prop where
  returnType : isIdentifier function.returnType.name
  name : isIdentifier function.name
  params : ∀ param ∈ function.params, param.Plain
  body : ∀ stmt ∈ function.body, stmt.Plain

namespace Item

def Plain : Item → Prop
  | .ofMethod method => method.Plain
  | .ofFunction function => function.Plain

def exprs (item : Item) : List Expr := Stmt.allExprs item.body

theorem Plain.plain_body {item : Item} (plain : item.Plain) : ∀ stmt ∈ item.body, stmt.Plain := by
  cases item with
  | ofMethod method => exact Method.Plain.body plain
  | ofFunction function => exact Function.Plain.body plain

theorem Plain.plain_exprs {item : Item} (plain : item.Plain) : ∀ expr ∈ item.exprs, expr.Plain := by
  intro expr there
  rw [exprs, Stmt.all_exprs_eq_flatMap] at there
  obtain ⟨stmt, inBody, inStmt⟩ := List.mem_flatMap.mp there
  exact (plain.plain_body stmt inBody).plain_exprs expr inStmt

end Item

theorem plain_method {kind : MethodKind} {returnType : CType} {selector : String}
    {param : Option Param} {body : List Stmt} (typeIdentifier : isIdentifier returnType.name)
    (identifier : isIdentifier selector) (plainParam : ∀ given ∈ param.toList, given.Plain)
    (plainBody : ∀ stmt ∈ body, stmt.Plain) :
    (Item.ofMethod { kind, returnType, selector, param, body }).Plain :=
  ⟨typeIdentifier, identifier, plainParam, plainBody⟩

/-! The support of an enum -/

theorem plain_exception : (Expr.ident SupportNames.exception).Plain :=
  .ident (by decide) (by decide)

theorem plain_unknown_name (options : Options) : (unknownName options).Plain := by
  have made : (Expr.keywordSend (.unarySend (.ident SupportNames.exception) "alloc")
      [("initWithNSString", .ident "name")]).Plain := by
    refine .keywordSend (.unarySend plain_exception rfl) (by simp) ?_ ?_
    · exact List.forall_mem_singleton.mpr rfl
    · exact List.forall_mem_singleton.mpr (.ident rfl (by decide))
  cases released : options.memory with
  | referenceCounting =>
      rw [unknownName, released]
      exact .unarySend made rfl
  | automatic =>
      rw [unknownName, released]
      exact made

section

variable {names : SupportNames} (identifier : isIdentifier names.type) (count : Nat)
  (options : Options)
include identifier

theorem plain_storage : names.storage.Plain := by
  refine .ident (is_identifier_append identifier rfl) fun isNil => ?_
  have length := congrArg String.length isNil
  rw [String.length_append] at length
  have short : "nil".length = 3 := rfl
  have long : "_values_".length = 8 := rfl
  omega

theorem plain_ensure_initialized : names.ensureInitialized.Plain :=
  .expr (.call (is_identifier_append identifier rfl) (by simp))

theorem plain_values_function : (valuesFunction names count).Plain where
  returnType := show isIdentifier "IOSObjectArray" from rfl
  name := is_identifier_append identifier rfl
  params := by simp
  body := by
    have classCall : (Expr.call names.classFunction []).Plain :=
      .call (is_identifier_append identifier rfl) (by simp)
    have array : (Expr.keywordSend (.ident "IOSObjectArray") [
        ("arrayWithObjects", names.storage),
        ("count", .int count),
        ("type", .call names.classFunction [])]).Plain := by
      refine .keywordSend (.ident rfl (by decide)) (by simp) ?_ ?_
      · simp only [List.forall_mem_cons]
        exact ⟨rfl, rfl, rfl, nofun⟩
      · simpa using ⟨plain_storage identifier, .int count, classCall⟩
    rw [List.forall_mem_cons, List.forall_mem_singleton]
    exact ⟨plain_ensure_initialized identifier, .result array⟩

theorem plain_search_loop : ∀ stmt ∈ searchLoop names count, stmt.Plain := by
  by_cases none : count = 0
  · simp [searchLoop, none]
  · have found : (Expr.keywordSend (.ident "name")
        [("isEqual", .unarySend (.ident "e") "name")]).Plain := by
      refine .keywordSend (.ident rfl (by decide)) (by simp) ?_ ?_
      · exact List.forall_mem_singleton.mpr rfl
      · exact List.forall_mem_singleton.mpr (.unarySend (.ident rfl (by decide)) rfl)
    have element : (Expr.index names.storage (.ident "i")).Plain :=
      .index (plain_storage identifier) (.ident rfl (by decide)) rfl
    rw [searchLoop, if_neg none, List.forall_mem_singleton]
    refine .countedFor rfl (by decide) ?_
    rw [List.forall_mem_cons, List.forall_mem_singleton]
    refine ⟨.localVariable identifier rfl element, .conditional found ?_⟩
    rw [List.forall_mem_singleton]
    exact .result (.ident rfl (by decide))

theorem plain_value_of_function : (valueOfFunction names count options).Plain where
  returnType := identifier
  name := is_identifier_append identifier rfl
  params := List.forall_mem_singleton.mpr ⟨rfl, rfl⟩
  body := by
    rw [List.forall_mem_cons, List.forall_mem_append, List.forall_mem_cons,
      List.forall_mem_singleton]
    exact ⟨plain_ensure_initialized identifier, plain_search_loop identifier count,
      .throw (plain_unknown_name options), .result .nil⟩

theorem plain_from_ordinal_function : (fromOrdinalFunction names count).Plain where
  returnType := identifier
  name := is_identifier_append identifier rfl
  params := List.forall_mem_singleton.mpr ⟨rfl, rfl⟩
  body := by
    have ordinal : (Expr.ident "ordinal").Plain := .ident rfl (by decide)
    by_cases none : count = 0
    · rw [if_pos none, List.forall_mem_singleton]
      exact .result .nil
    · rw [if_neg none, List.forall_mem_cons, List.forall_mem_cons, List.forall_mem_singleton]
      refine ⟨plain_ensure_initialized identifier, .conditional ?_ ?_, .result ?_⟩
      · exact .compare ordinal (.int count) rfl rfl
      · simpa using .result .nil
      · exact .index (plain_storage identifier) ordinal rfl

theorem plain_outer_items : ∀ item ∈ outerItems names count options, item.Plain := by
  rw [outerItems, List.forall_mem_cons, List.forall_mem_cons, List.forall_mem_singleton]
  exact ⟨plain_values_function identifier count, plain_value_of_function identifier count options,
    plain_from_ordinal_function identifier count⟩

theorem plain_conversion : ∀ item ∈ (conversion names count options).toList, item.Plain := by
  have plainEnum : isIdentifier (nativeEnumName names.type) := is_identifier_append identifier rfl
  rw [conversion]
  by_cases wanted : (options.swiftFriendly && decide (0 < count)) = true
  · rw [if_pos wanted, Option.toList_some, List.forall_mem_singleton]
    refine plain_method plainEnum rfl (by simp) (List.forall_mem_singleton.mpr ?_)
    exact .result (.cast plainEnum (.unarySend (.ident rfl (by decide)) rfl) rfl)
  · rw [if_neg wanted]
    simp

theorem plain_inner_items : ∀ item ∈ (innerItems names count options).defined, item.Plain := by
  have name : (Expr.ident "name").Plain := .ident rfl (by decide)
  rw [InnerItems.defined, List.forall_mem_append, List.forall_mem_append, List.forall_mem_singleton]
  refine ⟨⟨?_, plain_conversion identifier count options⟩, ?_⟩
  · refine List.forall_mem_cons.mpr ⟨?_, List.forall_mem_singleton.mpr ?_⟩
    · refine plain_method rfl rfl (by simp) (List.forall_mem_singleton.mpr ?_)
      exact .result (.call (is_identifier_append identifier rfl) (by simp))
    · refine plain_method identifier rfl (List.forall_mem_singleton.mpr ⟨rfl, rfl⟩)
        (List.forall_mem_singleton.mpr ?_)
      exact .result
        (.call (is_identifier_append identifier rfl) (List.forall_mem_singleton.mpr name))
  · refine plain_method rfl rfl (List.forall_mem_singleton.mpr ⟨rfl, rfl⟩)
      (List.forall_mem_singleton.mpr ?_)
    exact .result (.ident rfl (by decide))

end

end EnumLowering.Native
