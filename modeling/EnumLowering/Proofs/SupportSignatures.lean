import EnumLowering.Native.Support
import EnumLowering.Proofs.PrintedSignatures
import Mathlib.Data.List.Nodup

/-!
The header and the implementation of a support block. Both are printed from one list of
items, the header with the conversion at another place, so that the signatures in the two
texts are the same. They differ in how they end, whatever the type is called, and what the
bodies call is exported next to them.
-/

namespace EnumLowering

namespace Native

open Text (pick)

/-! The methods of a type -/

/-- The items in the order of their declarations. -/
def InnerItems.declared (items : InnerItems) : List Item :=
  items.lookups ++ [items.copy] ++ items.conversion.toList

theorem InnerItems.declared_perm_defined (items : InnerItems) :
    items.declared.Perm items.defined := by
  rw [declared, defined, List.append_assoc, List.append_assoc]
  exact List.perm_append_comm.append_left items.lookups

theorem InnerItems.pick_header {items : InnerItems} (plain : ∀ item ∈ items.defined, item.Plain)
    (width : Nat) :
    pick visible? (items.header.print width) =
      items.declared.map fun item => item.declarationLine.toList := by
  have plainDeclared : ∀ item ∈ items.declared, item.Plain := fun item there =>
    plain item (items.declared_perm_defined.mem_iff.mp there)
  rw [declared, List.forall_mem_append] at plainDeclared
  obtain ⟨plainFirst, plainConversion⟩ := plainDeclared
  have first := pick_declarations plainFirst width
  rw [header]
  cases given : items.conversion with
  | none => simpa [declared, given] using first
  | some conversion =>
      have last := (plainConversion conversion (by simp [given])).pick_declaration width
      -- No empty line stands in front of the conversion, so the header is cut there first.
      simp only
      rw [print_under _ _ _ (conversion.stops_in_line_declaration width 0), Text.pick_append_line,
        ← Text.pick_print rfl, first, last]
      simp [declared, given]

/-! No signature twice -/

/-- The last two characters of a text, backwards. -/
def lastTwo (text : String) : List Char := text.toList.reverse.take 2

theorem last_two_append (front back : String) (long : 2 ≤ back.toList.length) :
    lastTwo (front ++ back) = lastTwo back := by
  rw [lastTwo, String.toList_append, List.reverse_append, List.take_append_of_le_length]
  · rfl
  · rwa [List.length_reverse]

section

variable {kind : MethodKind} {returnType : CType} {selector : String} {body : List Stmt}

theorem last_two_selector (long : 2 ≤ selector.toList.length) :
    lastTwo (Method.signature { kind, returnType, selector, param := none, body }) =
      lastTwo selector :=
  last_two_append _ _ long

theorem last_two_param {param : Param} (long : 2 ≤ param.name.toList.length) :
    lastTwo (Method.signature { kind, returnType, selector, param := some param, body }) =
      lastTwo param.name :=
  last_two_append _ _ long

end

/-- A function signature ends with its parameters in parentheses. -/
theorem last_two_function (function : Function) :
    lastTwo function.signature =
      lastTwo ("(" ++ (String.intercalate ", "
        (function.params.map fun param => param.type.declare param.name) ++ ")")) := by
  have ends : ∃ front, function.signature = front ++ ("(" ++ (String.intercalate ", "
      (function.params.map fun param => param.type.declare param.name) ++ ")")) := by
    rw [Function.signature, CType.declare]
    split
    · exact ⟨function.returnType.name ++ " *" ++ function.name, by simp [String.append_assoc]⟩
    · exact ⟨function.returnType.name ++ " " ++ function.name, by simp [String.append_assoc]⟩
  obtain ⟨front, isFront⟩ := ends
  rw [isFront, last_two_append front _ (by simp)]

theorem nodup_outer_signatures (names : SupportNames) (count : Nat) (options : Options) :
    ((outerItems names count options).map Item.signature).Nodup := by
  apply List.Nodup.of_map lastTwo
  have endings : ((outerItems names count options).map Item.signature).map lastTwo =
      [[')', '('], [')', 'e'], [')', 'l']] := by
    simp only [outerItems, List.map_cons, List.map_nil, Item.signature, valuesFunction,
      valueOfFunction, fromOrdinalFunction, last_two_function]
    decide
  rw [endings]
  decide

theorem last_two_conversion (names : SupportNames) (count : Nat) (options : Options) :
    (((conversion names count options).toList.map Item.signature).map lastTwo).Sublist
      [lastTwo "toNSEnum"] := by
  rw [conversion]
  split
  · simp (disch := decide) only [Option.toList_some, List.map_cons, List.map_nil, Item.signature,
      last_two_selector, List.Sublist.refl]
  · exact List.nil_sublist _

theorem nodup_inner_signatures (names : SupportNames) (count : Nat) (options : Options) :
    ((innerItems names count options).declared.map Item.signature).Nodup := by
  apply List.Nodup.of_map lastTwo
  let items := innerItems names count options
  have first : ((items.lookups ++ [items.copy]).map Item.signature).map lastTwo =
      [lastTwo "values", lastTwo "name", lastTwo "zone"] := by
    simp (disch := decide) only [items, innerItems, List.cons_append, List.nil_append,
      List.map_cons, List.map_nil, Item.signature, last_two_selector, last_two_param]
  rw [InnerItems.declared, List.map_append, List.map_append, first]
  -- The conversion may be missing, so the endings are compared with all four.
  have apart : ([lastTwo "values", lastTwo "name", lastTwo "zone"] ++
      [lastTwo "toNSEnum"]).Nodup := by
    decide
  exact apart.sublist ((last_two_conversion names count options).append_left _)

/-! Calls -/

mutual

/-- The functions that an expression calls. -/
@[simp] def Expr.callees : Expr → List String
  | .ident _ | .int _ | .nil => []
  | .call function arguments => function :: Expr.allCallees arguments
  | .send receiver parts => receiver.callees ++ Expr.partCallees parts
  | .index base position => base.callees ++ position.callees
  | .cast _ operand => operand.callees
  | .compare _ left right => left.callees ++ right.callees

@[simp] def Expr.allCallees : List Expr → List String
  | [] => []
  | value :: values => value.callees ++ Expr.allCallees values

@[simp] def Expr.partCallees : List (String × Option Expr) → List String
  | [] => []
  | (_, none) :: parts => Expr.partCallees parts
  | (_, some argument) :: parts => argument.callees ++ Expr.partCallees parts

end

def Item.callees (item : Item) : List String := item.exprs.flatMap Expr.callees

section

variable (names : SupportNames) (count : Nat) (options : Options)

theorem callees_values_function :
    (valuesFunction names count).callees = [names.initializeFunction, names.classFunction] := by
  simp [Item.callees, Item.exprs, Item.body, valuesFunction, SupportNames.ensureInitialized,
    SupportNames.storage, Expr.keywordSend]

theorem callees_unknown_name : (unknownName options).callees = [] := by
  rw [unknownName]
  split <;> simp [Expr.keywordSend, Expr.unarySend]

theorem callees_search_loop :
    (Stmt.allExprs (searchLoop names count)).flatMap Expr.callees = [] := by
  rw [searchLoop]
  split
  · simp
  · simp [SupportNames.storage, Expr.keywordSend, Expr.unarySend]

theorem callees_value_of_function :
    (valueOfFunction names count options).callees = [names.initializeFunction] := by
  have search := callees_search_loop names count
  rw [Stmt.all_exprs_eq_flatMap] at search
  simp [Item.callees, Item.exprs, Item.body, valueOfFunction, Stmt.all_exprs_eq_flatMap,
    SupportNames.ensureInitialized, callees_unknown_name, search]

theorem callees_from_ordinal_function :
    ∀ callee ∈ (fromOrdinalFunction names count).callees, callee = names.initializeFunction := by
  rw [fromOrdinalFunction, Item.callees, Item.exprs, Item.body]
  by_cases none : count = 0
  · simp [none]
  · simp [none, SupportNames.ensureInitialized, SupportNames.storage]

theorem callees_outer_items :
    ∀ item ∈ outerItems names count options, ∀ callee ∈ item.callees,
      callee = names.initializeFunction ∨ callee = names.classFunction := by
  rw [outerItems, List.forall_mem_cons, List.forall_mem_cons, List.forall_mem_singleton]
  refine ⟨?_, ?_, ?_⟩
  · simp [callees_values_function]
  · simp [callees_value_of_function]
  · exact fun callee there => .inl (callees_from_ordinal_function names count callee there)

theorem callees_conversion :
    ∀ item ∈ (conversion names count options).toList, item.callees = [] := by
  rw [conversion]
  split
  · simp [Item.callees, Item.exprs, Item.body, Expr.unarySend]
  · simp

theorem callees_inner_items :
    ∀ item ∈ (innerItems names count options).defined, ∀ callee ∈ item.callees,
      callee = names.valuesFunction ∨ callee = names.valueOfFunction := by
  have converts := callees_conversion names count options
  rw [InnerItems.defined, List.forall_mem_append, List.forall_mem_append, List.forall_mem_singleton]
  refine ⟨⟨?_, ?_⟩, ?_⟩
  · simp [innerItems, Item.callees, Item.exprs, Item.body]
  · intro item there callee called
    rw [converts item there] at called
    cases called
  · simp [innerItems, Item.callees, Item.exprs, Item.body]

end

/-- The header of a block declares what its implementation defines, the signatures of the
items, and each of them once. -/
structure BlockAgrees (mark : String) (items : List Item) (block : NativeBlock)
    (declared : List String) : Prop where
  declares : declaredSignatures? mark block.header = some declared
  defines : definedSignatures block.implementation = items.map Item.signature
  sameSignatures : declared.Perm (definedSignatures block.implementation)
  once : declared.Nodup

theorem export_mark_inner_items (names : SupportNames) (count : Nat) (options : Options) :
    ∀ item ∈ (innerItems names count options).declared, item.exportMark = "" := by
  rw [InnerItems.declared, List.forall_mem_append, List.forall_mem_append,
    List.forall_mem_singleton]
  refine ⟨⟨?_, rfl⟩, ?_⟩
  · simp [innerItems, Item.exportMark]
  · change ∀ item ∈ (conversion names count options).toList, _
    rw [conversion]
    split
    · exact List.forall_mem_singleton.mpr rfl
    · simp

theorem function_name_outer_items {names : SupportNames} (identifier : isIdentifier names.type)
    (count : Nat) (options : Options) :
    ((outerItems names count options).map Item.signature).map functionName =
      [names.valuesFunction, names.valueOfFunction, names.fromOrdinalFunction] := by
  have values : functionName (valuesFunction names count).signature = names.valuesFunction :=
    (plain_values_function identifier count).function_name_signature
  have valueOf : functionName (valueOfFunction names count options).signature =
      names.valueOfFunction :=
    (plain_value_of_function identifier count options).function_name_signature
  have fromOrdinal : functionName (fromOrdinalFunction names count).signature =
      names.fromOrdinalFunction :=
    (plain_from_ordinal_function identifier count).function_name_signature
  simp only [outerItems, List.map_cons, List.map_nil, values, valueOf, fromOrdinal]

section

variable {typeName : String} (count : Nat) {options : Options} (identifier : isIdentifier typeName)
  (indented : 1 ≤ options.indentWidth)
include identifier indented

theorem inner_block_agrees :
    BlockAgrees "" (innerItems { type := typeName } count options).defined
      (enumSupport typeName count options).inner
      ((innerItems { type := typeName } count options).declared.map Item.signature) := by
  let items := innerItems { type := typeName } count options
  have plain : ∀ item ∈ items.defined, item.Plain := plain_inner_items identifier count options
  have defines : definedSignatures (enumSupport typeName count options).inner.implementation =
      items.defined.map Item.signature :=
    defined_signatures_join plain indented
  refine ⟨?_, defines, ?_, nodup_inner_signatures _ count options⟩
  · change (pick visible? (items.header.print options.indentWidth)).mapM _ = _
    rw [InnerItems.pick_header plain,
      mapM_declaration_line (export_mark_inner_items _ count options)]
  · rw [defines]
    exact items.declared_perm_defined.map Item.signature

theorem outer_block_agrees :
    BlockAgrees "FOUNDATION_EXPORT " (outerItems { type := typeName } count options)
      (enumSupport typeName count options).outer
      ((outerItems { type := typeName } count options).map Item.signature) := by
  let items := outerItems { type := typeName } count options
  have plain : ∀ item ∈ items, item.Plain := plain_outer_items identifier count options
  have marked : ∀ item ∈ items, item.exportMark = "FOUNDATION_EXPORT " := by
    simp [items, outerItems, valuesFunction, valueOfFunction, fromOrdinalFunction, Item.exportMark]
  have defines : definedSignatures (enumSupport typeName count options).outer.implementation =
      items.map Item.signature :=
    defined_signatures_join plain indented
  refine ⟨?_, defines, ?_, nodup_outer_signatures _ count options⟩
  · change (pick visible? ((Doc.join (items.map Item.declaration) .blankLine).print
      options.indentWidth)).mapM _ = _
    rw [pick_declarations plain, mapM_declaration_line marked]
  · rw [defines]

end

/-- In both blocks of the support the header declares exactly what the implementation
defines, without repetition, and what the code calls is exported by the outer header or
belongs to the initialization of the enum. -/
theorem header_and_implementation_agree (typeName : String) (count : Nat) (options : Options)
    (identifier : isIdentifier typeName) (indented : 1 ≤ options.indentWidth) :
    ∃ innerDeclared outerDeclared,
      BlockAgrees "" (innerItems { type := typeName } count options).defined
        (enumSupport typeName count options).inner innerDeclared ∧
      BlockAgrees "FOUNDATION_EXPORT " (outerItems { type := typeName } count options)
        (enumSupport typeName count options).outer outerDeclared ∧
      ∀ item ∈ (innerItems { type := typeName } count options).defined ++
          outerItems { type := typeName } count options,
        ∀ callee ∈ item.callees,
          callee ∈ outerDeclared.map functionName ∨
            callee = typeName ++ "_initialize" ∨ callee = typeName ++ "_class_" := by
  refine ⟨_, _, inner_block_agrees count identifier indented,
    outer_block_agrees count identifier indented, ?_⟩
  intro item there callee called
  rw [function_name_outer_items identifier]
  rcases List.mem_append.mp there with inner | outer
  · refine .inl ?_
    rcases callees_inner_items _ count options item inner callee called with rfl | rfl
    · exact List.mem_cons_self
    · exact List.mem_cons_of_mem _ List.mem_cons_self
  · exact .inr (callees_outer_items _ count options item outer callee called)

end Native

namespace Sample

/-- With the conversion, which the header declares after the copy and the implementation defines
before it. -/
theorem light_support_agrees :
    Native.isIdentifier "Light" ∧ 1 ≤ ({ swiftFriendly := true } : Options).indentWidth ∧
      ∃ innerDeclared outerDeclared,
        Native.BlockAgrees ""
          (Native.innerItems { type := "Light" } 2 { swiftFriendly := true }).defined
          (Native.enumSupport "Light" 2 { swiftFriendly := true }).inner innerDeclared ∧
        Native.BlockAgrees "FOUNDATION_EXPORT "
          (Native.outerItems { type := "Light" } 2 { swiftFriendly := true })
          (Native.enumSupport "Light" 2 { swiftFriendly := true }).outer outerDeclared ∧
        ∀ item ∈ (Native.innerItems { type := "Light" } 2 { swiftFriendly := true }).defined ++
            Native.outerItems { type := "Light" } 2 { swiftFriendly := true },
          ∀ callee ∈ item.callees,
            callee ∈ outerDeclared.map Native.functionName ∨
              callee = "Light" ++ "_initialize" ∨ callee = "Light" ++ "_class_" :=
  ⟨rfl, by decide, Native.header_and_implementation_agree "Light" 2 { swiftFriendly := true }
    rfl (by decide)⟩

end Sample

end EnumLowering
