import EnumLowering.Proofs.NativeEvaluation

/-!
What the support of an enum answers at run time. The functions at file scope list the
constants, find one by name and find one by ordinal; the methods inside the type hand
on to them. Each function is run once, statement by statement, and the search for a
name is an induction over the positions that its counter takes.

Everything holds for any number of constants that the counter can reach, none included,
and whether or not the class is initialized before the call.
-/

namespace EnumLowering.Native

variable {Object : Type}

namespace Runtime

open Evaluation (bind_ok bind_error)

/-! Names: the storage ends with an underscore and is longer than every local. -/

theorem ne_storage_of_length {name : String} (short : name.length < 8) (typeName : String) :
    name ≠ typeName ++ "_values_" := by
  intro same
  rw [same, String.length_append] at short
  have suffixLength : "_values_".length = 8 := rfl
  omega

theorem ne_storage_of_last {name : String} (ends : name.toList.getLast? ≠ some '_')
    (typeName : String) : name ≠ typeName ++ "_values_" := by
  intro same
  apply ends
  rw [same]
  simp

theorem lookup_storage {locals : Locals Object} (typeName : String)
    (short : ∀ name ∈ locals.map Prod.fst, name.length < 8) :
    locals.lookup (typeName ++ "_values_") = none := by
  rw [List.lookup_eq_none_iff]
  intro entry member
  have different := ne_storage_of_length (short _ (List.mem_map_of_mem member)) typeName
  exact bne_iff_ne.mpr (Ne.symm different)

section

variable (runtime : Runtime Object) (calls : Calls Object) {locals : Locals Object}

theorem eval_storage (short : ∀ name ∈ locals.map Prod.fst, name.length < 8) :
    runtime.eval calls locals runtime.names.storage true =
      .ok (.storage runtime.constants, true) := by
  rw [SupportNames.storage, eval, resolve, lookup_storage runtime.names.type short]
  simp only [if_true]
  rfl

theorem eval_class {name : String} (isKnown : isClass name)
    (ends : name.toList.getLast? ≠ some '_') (absent : locals.lookup name = none)
    (ready : Bool) :
    runtime.eval calls locals (.ident name) ready = .ok (.classNamed name, ready) := by
  rw [eval, resolve, absent]
  simp only [if_neg (ne_storage_of_last ends runtime.names.type), isKnown, if_true]
  rfl

/-- A body that only hands on what an expression gives. -/
theorem run_result (expr : Expr) :
    runtime.run calls locals [.result expr] = runtime.eval calls locals expr := by
  funext ready
  cases gives : runtime.eval calls locals expr ready with
  | ok step =>
      obtain ⟨value, later⟩ := step
      exact runtime.run_returned calls (runtime.exec_all_result calls gives)
  | error cause =>
      have stopped : runtime.exec calls locals (.result expr) ready = .error cause := by
        rw [exec, bind_error gives]
      apply runtime.run_stopped calls
      rw [execAll, bind_error stopped]

end

/-! Calls. The five function names have one front part and different ends. -/

section

variable (runtime : Runtime Object) (depth : Nat)

theorem call_unlisted {name : String}
    (unlisted : runtime.functions.find? (·.name = name) = none) (arguments : List (Value Object)) :
    runtime.call depth name arguments = runtime.primitive name arguments := by
  cases depth with
  | zero => rfl
  | succ depth =>
      rw [call]
      dsimp only
      rw [unlisted]

theorem call_listed {name : String} {function : Function} {arguments : List (Value Object)}
    (listed : runtime.functions.find? (·.name = name) = some function)
    (fits : function.params.length = arguments.length) :
    runtime.call (depth + 1) name arguments =
      runtime.run (runtime.call depth) ((function.params.map Param.name).zip arguments)
        function.body := by
  rw [call]
  dsimp only
  rw [listed]
  exact if_pos fits

theorem functions_eq : runtime.functions = [
    { returnType := .object "IOSObjectArray"
      name := runtime.names.valuesFunction
      params := []
      body := (valuesFunction runtime.names runtime.constants.length).body },
    { returnType := .object runtime.names.type
      name := runtime.names.valueOfFunction
      params := [{ type := .object "NSString", name := "name" }]
      body := (valueOfFunction runtime.names runtime.constants.length runtime.options).body },
    { returnType := .object runtime.names.type
      name := runtime.names.fromOrdinalFunction
      params := [{ type := .value "NSUInteger", name := "ordinal" }]
      body := (fromOrdinalFunction runtime.names runtime.constants.length).body }] :=
  rfl

theorem call_initialize (ready : Bool) :
    runtime.call depth runtime.names.initializeFunction [] ready = .ok (.nil, true) := by
  have unlisted : runtime.functions.find?
      (·.name = runtime.names.initializeFunction) = none := by
    simp [functions_eq, SupportNames.valuesFunction, SupportNames.valueOfFunction,
      SupportNames.fromOrdinalFunction, SupportNames.initializeFunction]
  rw [runtime.call_unlisted depth unlisted, primitive, if_pos rfl]
  rfl

theorem call_class (ready : Bool) :
    runtime.call depth runtime.names.classFunction [] ready =
      .ok (.classNamed runtime.names.type, ready) := by
  have unlisted : runtime.functions.find? (·.name = runtime.names.classFunction) = none := by
    simp [functions_eq, SupportNames.valuesFunction, SupportNames.valueOfFunction,
      SupportNames.fromOrdinalFunction, SupportNames.classFunction]
  have different : runtime.names.classFunction ≠ runtime.names.initializeFunction := by
    simp [SupportNames.classFunction, SupportNames.initializeFunction]
  rw [runtime.call_unlisted depth unlisted, primitive, if_neg different, if_pos rfl]
  rfl

theorem call_values :
    runtime.call (depth + 1) runtime.names.valuesFunction [] =
      runtime.run (runtime.call depth) []
        (valuesFunction runtime.names runtime.constants.length).body := by
  have listed : runtime.functions.find? (·.name = runtime.names.valuesFunction) =
      runtime.functions[0]? := by
    simp only [functions_eq, List.find?_cons, decide_true]
    rfl
  exact runtime.call_listed depth listed rfl

theorem call_value_of (argument : Value Object) :
    runtime.call (depth + 1) runtime.names.valueOfFunction [argument] =
      runtime.run (runtime.call depth) [("name", argument)]
        (valueOfFunction runtime.names runtime.constants.length runtime.options).body := by
  have different : runtime.names.valuesFunction ≠ runtime.names.valueOfFunction := by
    simp [SupportNames.valuesFunction, SupportNames.valueOfFunction]
  have listed : runtime.functions.find? (·.name = runtime.names.valueOfFunction) =
      runtime.functions[1]? := by
    simp only [functions_eq, List.find?_cons, different, decide_false, decide_true]
    rfl
  exact runtime.call_listed depth listed rfl

theorem call_from_ordinal (argument : Value Object) :
    runtime.call (depth + 1) runtime.names.fromOrdinalFunction [argument] =
      runtime.run (runtime.call depth) [("ordinal", argument)]
        (fromOrdinalFunction runtime.names runtime.constants.length).body := by
  have notValues : runtime.names.valuesFunction ≠ runtime.names.fromOrdinalFunction := by
    simp [SupportNames.valuesFunction, SupportNames.fromOrdinalFunction]
  have notValueOf : runtime.names.valueOfFunction ≠ runtime.names.fromOrdinalFunction := by
    simp [SupportNames.valueOfFunction, SupportNames.fromOrdinalFunction]
  have listed : runtime.functions.find? (·.name = runtime.names.fromOrdinalFunction) =
      runtime.functions[2]? := by
    simp only [functions_eq, List.find?_cons, notValues, notValueOf, decide_false, decide_true]
    rfl
  exact runtime.call_listed depth listed rfl

variable {locals : Locals Object}

theorem exec_all_ensure_initialized (stmts : List Stmt) (ready : Bool) :
    runtime.execAll (runtime.call depth) locals (runtime.names.ensureInitialized :: stmts) ready =
      runtime.execAll (runtime.call depth) locals stmts true := by
  apply exec_all_expr
  rw [eval, evalAll]
  exact runtime.call_initialize depth ready

/-- All constants, in their order. -/
theorem call_values_eq (ready : Bool) :
    runtime.call (depth + 1) runtime.names.valuesFunction [] ready =
      .ok (.array runtime.constants, true) := by
  rw [call_values]
  apply run_returned
  change runtime.execAll _ _ (runtime.names.ensureInitialized :: _) ready = _
  rw [exec_all_ensure_initialized]
  apply exec_all_result
  have arrayClass : runtime.eval (runtime.call depth) [] (.ident "IOSObjectArray") true =
      .ok (.classNamed "IOSObjectArray", true) :=
    runtime.eval_class _ (by decide) (by decide) rfl true
  have stored : runtime.eval (runtime.call depth) [] runtime.names.storage true =
      .ok (.storage runtime.constants, true) :=
    runtime.eval_storage _ (List.forall_mem_nil _)
  have counted : runtime.eval (runtime.call depth) [] (.int runtime.constants.length) true =
      .ok (.number runtime.constants.length, true) := by
    rw [eval]
    rfl
  have typed : runtime.eval (runtime.call depth) [] (.call runtime.names.classFunction []) true =
      .ok (.classNamed runtime.names.type, true) := by
    rw [eval, evalAll]
    exact runtime.call_class depth true
  have argued := runtime.eval_parts_cons _ "arrayWithObjects" stored
    (runtime.eval_parts_cons _ "count" counted
      (runtime.eval_parts_cons _ "type" typed (runtime.eval_parts_nil _)))
  have replied := runtime.reply_array runtime.names.type (Nat.le_refl runtime.constants.length)
    true
  rw [List.take_length] at replied
  exact runtime.eval_send _ arrayClass argued replied

/-- What the search does at each position. -/
def searchBody (names : SupportNames) : List Stmt := [
  .localVariable (.object names.type) "e" (.index names.storage (.ident "i")),
  .conditional (.keywordSend (.ident "name") [("isEqual", .unarySend (.ident "e") "name")])
    [.result (.ident "e")]]

section

variable (calls : Calls Object) {name : String} {counter : Nat} {constant : Object}

/-- The comparison of the sought name with that of the constant at hand. -/
theorem eval_same_name (found : locals.lookup "name" = some (.text name))
    (current : locals.lookup "e" = some (.object constant)) (ready : Bool) :
    runtime.eval calls locals
        (.keywordSend (.ident "name") [("isEqual", .unarySend (.ident "e") "name")]) ready =
      .ok (.boolean (name = runtime.nameOf constant), ready) := by
  have sought := runtime.eval_local calls "name" found ready
  have named : runtime.eval calls locals (.unarySend (.ident "e") "name") ready =
      .ok (.text (runtime.nameOf constant), ready) := by
    have item := runtime.eval_local calls "e" current ready
    exact runtime.eval_send calls item (runtime.eval_parts_label calls "name" ready) rfl
  have argued := runtime.eval_parts_cons calls "isEqual" named (runtime.eval_parts_nil calls)
  exact runtime.eval_send calls sought argued rfl

/-- The storage has an object at every position that the counter takes. -/
theorem search_step (name : String) (found : runtime.constants[counter]? = some constant) :
    ∃ later, runtime.execAll calls [("i", .number counter), ("name", .text name)]
        (searchBody runtime.names) true =
      .ok (if runtime.nameOf constant = name then .returned (.object constant) else .next later,
        true) := by
  have stored : runtime.eval calls [("i", .number counter), ("name", .text name)]
      runtime.names.storage true = .ok (.storage runtime.constants, true) :=
    runtime.eval_storage calls (by decide : ∀ known ∈ ["i", "name"], known.length < 8)
  have item := runtime.eval_index calls stored (runtime.eval_local calls "i" rfl true) found
  let later : Locals Object :=
    [("e", .object constant), ("i", .number counter), ("name", .text name)]
  have sought : later.lookup "name" = some (.text name) := rfl
  have current : later.lookup "e" = some (.object constant) := rfl
  have compared := runtime.eval_same_name calls sought current true
  refine ⟨later, ?_⟩
  rw [searchBody, runtime.exec_all_local calls item]
  by_cases same : runtime.nameOf constant = name
  · rw [if_pos same]
    rw [decide_eq_true same.symm] at compared
    apply runtime.exec_all_taken calls compared
    exact runtime.exec_all_result calls (runtime.eval_local calls "e" current true)
  · rw [if_neg same]
    rw [decide_eq_false (Ne.symm same)] at compared
    exact (runtime.exec_all_skipped calls compared).trans (by rw [execAll]; rfl)

theorem search_eq (small : runtime.constants.length < 2 ^ 31) (name : String) :
    countUp (fun count => runtime.execAll calls [("i", .number count), ("name", .text name)]
        (searchBody runtime.names)) runtime.constants.length 0 true =
      .ok ((runtime.constants.find? (runtime.nameOf · = name)).map .object, true) :=
  count_up_search small (fun _ _ found => runtime.search_step calls name found) 0

theorem exec_all_search_loop_found (small : runtime.constants.length < 2 ^ 31)
    (found : runtime.constants.find? (runtime.nameOf · = name) = some constant)
    (stmts : List Stmt) :
    runtime.execAll calls [("name", .text name)]
        (searchLoop runtime.names runtime.constants.length ++ stmts) true =
      .ok (.returned (.object constant), true) := by
  have nonempty : runtime.constants.length ≠ 0 := by
    intro empty
    rw [List.eq_nil_of_length_eq_zero empty] at found
    cases found
  have searched := runtime.search_eq calls small name
  rw [found] at searched
  rw [searchLoop, if_neg nonempty]
  exact runtime.exec_all_counted_for_returned calls searched

/-- Without constants there is no loop to run, and none to find either. -/
theorem exec_all_search_loop_none (small : runtime.constants.length < 2 ^ 31)
    (missing : runtime.constants.find? (runtime.nameOf · = name) = none) (stmts : List Stmt) :
    runtime.execAll calls [("name", .text name)]
        (searchLoop runtime.names runtime.constants.length ++ stmts) true =
      runtime.execAll calls [("name", .text name)] stmts true := by
  rw [searchLoop]
  split
  case isTrue => rfl
  case isFalse =>
    have searched := runtime.search_eq calls small name
    rw [missing] at searched
    exact runtime.exec_all_counted_for_through calls searched

/-- Both ways of releasing the exception give the same exception. -/
theorem eval_unknown_name (ready : Bool) :
    runtime.eval calls [("name", .text name)] (unknownName runtime.options) ready =
      .ok (.exception SupportNames.exception name, ready) := by
  have known : runtime.eval calls [("name", .text name)] (.ident SupportNames.exception) ready =
      .ok (.classNamed SupportNames.exception, ready) :=
    runtime.eval_class calls (by decide) (by decide) rfl ready
  have allocated := runtime.eval_send calls known (runtime.eval_parts_label calls "alloc" ready) rfl
  have sought := runtime.eval_local calls "name"
    (rfl : [("name", Value.text name)].lookup "name" = some (.text name)) ready
  have made := runtime.eval_send calls allocated
    (runtime.eval_parts_cons calls "initWithNSString" sought (runtime.eval_parts_nil calls)) rfl
  rw [unknownName]
  cases runtime.options.memory with
  | automatic => exact made
  | referenceCounting =>
      exact runtime.eval_send calls made (runtime.eval_parts_label calls "autorelease" ready) rfl

end

/-- The lookup by name gives the first constant that has it, and throws if there is none. -/
theorem call_value_of_eq (small : runtime.constants.length < 2 ^ 31) (name : String)
    (ready : Bool) :
    runtime.call (depth + 1) runtime.names.valueOfFunction [.text name] ready =
      match runtime.constants.find? (runtime.nameOf · = name) with
      | some constant => .ok (.object constant, true)
      | none => .error (.thrown (.exception SupportNames.exception name)) := by
  rw [call_value_of]
  have body : (valueOfFunction runtime.names runtime.constants.length runtime.options).body =
      runtime.names.ensureInitialized ::
        (searchLoop runtime.names runtime.constants.length ++
          [.throw (unknownName runtime.options), .result .nil]) := rfl
  cases found : runtime.constants.find? (runtime.nameOf · = name) with
  | some constant =>
      apply runtime.run_returned
      rw [body, exec_all_ensure_initialized]
      exact runtime.exec_all_search_loop_found _ small found _
  | none =>
      apply runtime.run_stopped
      rw [body, exec_all_ensure_initialized, runtime.exec_all_search_loop_none _ small found]
      exact runtime.exec_all_throw _ (runtime.eval_unknown_name _ true)

/-- What the lookup by ordinal does once the class is initialized. -/
def checkedRead (names : SupportNames) (count : Nat) : List Stmt := [
  .conditional (.compare .greaterEq (.ident "ordinal") (.int count)) [.result .nil],
  .result (.index names.storage (.ident "ordinal"))]

theorem eval_nil (calls : Calls Object) (ready : Bool) :
    runtime.eval calls locals .nil ready = .ok (.nil, ready) := by
  rw [eval]
  rfl

/-- Nothing is read past the last constant. -/
theorem exec_all_checked_read (calls : Calls Object) (ordinal : Nat) :
    runtime.execAll calls [("ordinal", .number ordinal)]
        (checkedRead runtime.names runtime.constants.length) true =
      .ok (.returned ((runtime.constants[ordinal]?).elim .nil .object), true) := by
  have position : runtime.eval calls [("ordinal", .number ordinal)] (.ident "ordinal") true =
      .ok (.number ordinal, true) :=
    runtime.eval_local calls "ordinal" rfl true
  have compared : runtime.eval calls [("ordinal", .number ordinal)]
      (.compare .greaterEq (.ident "ordinal") (.int runtime.constants.length)) true =
        .ok (.boolean (runtime.constants.length ≤ ordinal), true) := by
    rw [eval, bind_ok position, eval]
    rfl
  by_cases outside : runtime.constants.length ≤ ordinal
  · rw [decide_eq_true outside] at compared
    rw [List.getElem?_eq_none outside]
    exact runtime.exec_all_taken calls compared
      (runtime.exec_all_result calls (runtime.eval_nil calls true))
  · have found := List.getElem?_eq_getElem (Nat.lt_of_not_le outside)
    have stored : runtime.eval calls [("ordinal", .number ordinal)] runtime.names.storage true =
        .ok (.storage runtime.constants, true) :=
      runtime.eval_storage calls (by decide : ∀ known ∈ ["ordinal"], known.length < 8)
    rw [decide_eq_false outside] at compared
    rw [found, checkedRead, runtime.exec_all_skipped calls compared]
    exact runtime.exec_all_result calls (runtime.eval_index calls stored position found)

/-- The lookup by ordinal. Without constants it does not even initialize the class. -/
theorem call_from_ordinal_eq (ordinal : Nat) (ready : Bool) :
    runtime.call (depth + 1) runtime.names.fromOrdinalFunction [.number ordinal] ready =
      .ok ((runtime.constants[ordinal]?).elim .nil .object,
        if runtime.constants.length = 0 then ready else true) := by
  rw [call_from_ordinal]
  apply runtime.run_returned
  by_cases empty : runtime.constants.length = 0
  · have body : (fromOrdinalFunction runtime.names runtime.constants.length).body =
        [.result .nil] := by
      simp only [fromOrdinalFunction, Item.body, if_pos empty]
    rw [body, if_pos empty, List.eq_nil_of_length_eq_zero empty]
    exact runtime.exec_all_result _ (runtime.eval_nil _ ready)
  · have body : (fromOrdinalFunction runtime.names runtime.constants.length).body =
        runtime.names.ensureInitialized ::
          checkedRead runtime.names runtime.constants.length := by
      simp only [fromOrdinalFunction, Item.body, if_neg empty, checkedRead]
    rw [body, if_neg empty, exec_all_ensure_initialized]
    exact runtime.exec_all_checked_read _ ordinal

end

/-! Methods. -/

section

variable (runtime : Runtime Object) (depth : Nat) {receiver : Value Object} {selector : String}
  {method : Method}

theorem send_unary (listed : runtime.respondent receiver selector = some method)
    (unary : method.param = none) :
    runtime.send depth receiver selector none =
      runtime.run (runtime.call depth) [("self", receiver)] method.body := by
  rw [send, listed]
  dsimp only
  rw [unary]

theorem send_keyword {param : Param}
    (listed : runtime.respondent receiver selector = some method)
    (keyword : method.param = some param) (argument : Value Object) :
    runtime.send depth receiver selector (some argument) =
      runtime.run (runtime.call depth) [("self", receiver), (param.name, argument)]
        method.body := by
  rw [send, listed]
  dsimp only
  rw [keyword]

theorem send_values (className : String) :
    runtime.send depth (.classNamed className) "values" none =
      runtime.call depth runtime.names.valuesFunction [] := by
  have listed : runtime.respondent (.classNamed className) "values" = runtime.methods[0]? := rfl
  rw [runtime.send_unary depth listed rfl]
  change runtime.run _ _ [.result (.call runtime.names.valuesFunction [])] = _
  rw [run_result, eval, evalAll]
  rfl

theorem send_value_of (className : String) (argument : Value Object) :
    runtime.send depth (.classNamed className) "valueOfWithNSString" (some argument) =
      runtime.call depth runtime.names.valueOfFunction [argument] := by
  have listed : runtime.respondent (.classNamed className) "valueOfWithNSString" =
      runtime.methods[1]? := rfl
  rw [runtime.send_keyword depth listed rfl]
  change runtime.run _ _ [.result (.call runtime.names.valueOfFunction [.ident "name"])] = _
  rw [run_result]
  funext ready
  exact runtime.eval_call _ (runtime.eval_local _ "name" rfl ready)

/-- A copy is the constant itself, whether or not the conversion stands in front of it. -/
theorem send_copy (constant : Object) (zone : Value Object) (ready : Bool) :
    runtime.send depth (.object constant) "copyWithZone" (some zone) ready =
      .ok (.object constant, ready) := by
  have listed : runtime.respondent (.object constant) "copyWithZone" =
      (innerItems runtime.names runtime.constants.length runtime.options).copy.method? := by
    rw [respondent, methods, innerItems, InnerItems.defined, conversion]
    split <;> rfl
  rw [runtime.send_keyword depth listed rfl]
  change runtime.run _ _ [.result (.ident "self")] ready = _
  rw [run_result]
  exact runtime.eval_local _ "self" rfl ready

theorem send_conversion (friendly : runtime.options.swiftFriendly)
    (nonempty : 0 < runtime.constants.length) (constant : Object) (ready : Bool) :
    runtime.send depth (.object constant) "toNSEnum" none ready =
      .ok (.number (runtime.ordinalOf constant), ready) := by
  let plain := CType.value (nativeEnumName runtime.names.type)
  have listed : runtime.respondent (.object constant) "toNSEnum" = some {
      kind := .ofInstance
      returnType := plain
      selector := "toNSEnum"
      param := none
      body := [.result (.cast plain (.unarySend (.ident "self") "ordinal"))] } := by
    rw [respondent, methods, innerItems, InnerItems.defined, conversion,
      if_pos (by simp [friendly, nonempty])]
    rfl
  rw [runtime.send_unary depth listed rfl, run_result, eval]
  exact runtime.eval_send _ (runtime.eval_local _ "self" rfl ready)
    (runtime.eval_parts_label _ "ordinal" ready) rfl

end

/-- The constant at `index` has this name, and none in front of it does. -/
structure IsFirstNamed (runtime : Runtime Object) (name : String) (index : Nat)
    (constant : Object) : Prop where
  found : runtime.constants[index]? = some constant
  named : runtime.nameOf constant = name
  least : ∀ (earlier : Nat) (other : Object), earlier < index →
    runtime.constants[earlier]? = some other → runtime.nameOf other ≠ name

/-- Where names differ, every constant is the first of its name. -/
theorem is_first_named_of_nodup {runtime : Runtime Object} {index : Nat} {constant : Object}
    (distinct : (runtime.constants.map runtime.nameOf).Nodup)
    (found : runtime.constants[index]? = some constant) :
    runtime.IsFirstNamed (runtime.nameOf constant) index constant where
  found := found
  named := rfl
  least := by
    intro earlier other before there same
    have bound : earlier < (runtime.constants.map runtime.nameOf).length := by
      rw [List.length_map]
      exact (List.getElem?_eq_some_iff.mp there).1
    have samePosition : earlier = index := by
      apply (List.getElem?_inj bound distinct).mp
      rw [List.getElem?_map, List.getElem?_map, there, found, Option.map_some, Option.map_some,
        same]
    omega

theorem find?_name_eq_some_iff (runtime : Runtime Object) (name : String) (constant : Object) :
    runtime.constants.find? (runtime.nameOf · = name) = some constant ↔
      ∃ index, runtime.IsFirstNamed name index constant := by
  rw [List.find?_eq_some_iff_getElem]
  constructor
  · rintro ⟨named, index, bound, there, least⟩
    refine ⟨index, ?_, of_decide_eq_true named, ?_⟩
    · rw [List.getElem?_eq_getElem bound, there]
    · intro earlier other before found same
      obtain ⟨_, rfl⟩ := List.getElem?_eq_some_iff.mp found
      have different := least earlier before
      simp [same] at different
  · rintro ⟨index, found, named, least⟩
    obtain ⟨bound, there⟩ := List.getElem?_eq_some_iff.mp found
    refine ⟨decide_eq_true named, index, bound, there, ?_⟩
    intro earlier before
    have inside : earlier < runtime.constants.length := Nat.lt_trans before bound
    have different := least earlier _ before (List.getElem?_eq_getElem inside)
    simp [different]

/-- What callers see, with room for `depth` nested calls and whether or not the class was
initialized before. -/
structure Answers (runtime : Runtime Object) (depth : Nat) (ready : Bool) : Prop where
  values : runtime.call (depth + 1) runtime.names.valuesFunction [] ready =
    .ok (.array runtime.constants, true)
  valueOf_found : ∀ (name : String) (constant : Object),
    runtime.call (depth + 1) runtime.names.valueOfFunction [.text name] ready =
        .ok (.object constant, true) ↔
      ∃ index, runtime.IsFirstNamed name index constant
  valueOf_throws : ∀ name : String,
    runtime.call (depth + 1) runtime.names.valueOfFunction [.text name] ready =
        .error (.thrown (.exception SupportNames.exception name)) ↔
      ∀ constant ∈ runtime.constants, runtime.nameOf constant ≠ name
  valueOf_sound : ∀ (name : String) (cause : Fault),
    runtime.call (depth + 1) runtime.names.valueOfFunction [.text name] ready ≠
      .error (.fault cause)
  /-- Without constants there is nothing to initialize. -/
  fromOrdinal : ∀ ordinal : UInt64,
    runtime.call (depth + 1) runtime.names.fromOrdinalFunction [.number ordinal.toNat] ready =
      .ok (if inside : ordinal.toNat < runtime.constants.length
          then .object (runtime.constants.get ⟨ordinal.toNat, inside⟩) else .nil,
        if runtime.constants.length = 0 then ready else true)
  classValues : ∀ className : String,
    runtime.send (depth + 1) (.classNamed className) "values" none ready =
      runtime.call (depth + 1) runtime.names.valuesFunction [] ready
  classValueOf : ∀ className name : String,
    runtime.send (depth + 1) (.classNamed className) "valueOfWithNSString" (some (.text name))
        ready =
      runtime.call (depth + 1) runtime.names.valueOfFunction [.text name] ready
  copy : ∀ (constant : Object) (zone : Value Object),
    runtime.send depth (.object constant) "copyWithZone" (some zone) ready =
      .ok (.object constant, ready)
  conversion : runtime.options.swiftFriendly → 0 < runtime.constants.length →
    ∀ constant : Object, runtime.send depth (.object constant) "toNSEnum" none ready =
      .ok (.number (runtime.ordinalOf constant), ready)

theorem answers (runtime : Runtime Object) (small : runtime.constants.length < 2 ^ 31)
    (depth : Nat) (ready : Bool) : runtime.Answers depth ready where
  values := runtime.call_values_eq depth ready
  valueOf_found := by
    intro name constant
    rw [runtime.call_value_of_eq depth small, ← runtime.find?_name_eq_some_iff]
    cases runtime.constants.find? (runtime.nameOf · = name) <;> simp
  valueOf_throws := by
    intro name
    have missing : runtime.constants.find? (runtime.nameOf · = name) = none ↔
        ∀ constant ∈ runtime.constants, runtime.nameOf constant ≠ name := by
      simp [List.find?_eq_none]
    rw [runtime.call_value_of_eq depth small, ← missing]
    cases runtime.constants.find? (runtime.nameOf · = name) <;> simp
  valueOf_sound := by
    intro name cause
    rw [runtime.call_value_of_eq depth small]
    cases runtime.constants.find? (runtime.nameOf · = name) <;> simp
  fromOrdinal := by
    intro ordinal
    rw [runtime.call_from_ordinal_eq depth]
    by_cases inside : ordinal.toNat < runtime.constants.length
    · rw [dif_pos inside, List.getElem?_eq_getElem inside]
      rfl
    · rw [dif_neg inside, List.getElem?_eq_none (Nat.le_of_not_lt inside)]
      rfl
  classValues className := by rw [runtime.send_values (depth + 1) className]
  classValueOf className name := by rw [runtime.send_value_of (depth + 1) className]
  copy constant zone := runtime.send_copy depth constant zone ready
  conversion friendly nonempty constant :=
    runtime.send_conversion depth friendly nonempty constant ready

end Runtime

end EnumLowering.Native
