import EnumLowering.Proofs.CodeLayout
import EnumLowering.Proofs.IndentWidth
import EnumLowering.Proofs.PlainCode
import Mathlib.Data.List.Basic

/-!
The signatures in a printed text. A header shows each of them on a line of its own, closed
by a semicolon; an implementation shows them on the lines that are not indented and end
with an opening brace. Both are read off the text line by line, and for plain items this
gives back the signatures of the items. A function can also be told from its signature.
-/

namespace EnumLowering

namespace Text

/-! Texts of one line -/

def OneLine (text : String) : Prop := '\n' ∉ text.toList

instance (text : String) : Decidable (OneLine text) := inferInstanceAs (Decidable (¬ _))

theorem OneLine.append {left right : String} (inLeft : OneLine left) (inRight : OneLine right) :
    OneLine (left ++ right) := by
  rw [OneLine, String.toList_append, List.mem_append, not_or]
  exact ⟨inLeft, inRight⟩

theorem one_line_intercalate {separator : String} (inSeparator : OneLine separator)
    {texts : List String} (inTexts : ∀ text ∈ texts, OneLine text) :
    OneLine (separator.intercalate texts) := by
  induction texts with
  | nil => simp [OneLine]
  | cons text texts induction =>
      obtain ⟨first, later⟩ := List.forall_mem_cons.mp inTexts
      cases texts with
      | nil => simpa using first
      | cons next texts =>
          rw [String.intercalate_cons_cons]
          exact (first.append inSeparator).append (induction later)

/-! Searching a text line by line -/

section

variable {α : Type} (find? : List Char → Option α)

/-- What a search finds on the lines of a text. -/
def pick (text : String) : List α := (linesOf text).filterMap find?

theorem pick_append_line (front back : String) :
    pick find? (front ++ "\n" ++ back) = pick find? front ++ pick find? back := by
  have split : linesOf (front ++ "\n" ++ back) = linesOf front ++ linesOf back := by
    simpa [linesOf] using List.splitOn_append_cons_self front.toList back.toList
  rw [pick, split, List.filterMap_append]
  rfl

theorem pick_line {line : String} (oneLine : OneLine line) :
    pick find? line = (find? line.toList).toList := by
  rw [pick, linesOf, List.splitOn_eq_singleton oneLine]
  cases found : find? line.toList <;> simp [found]

variable {find?} (blank : find? [] = none)
include blank

theorem pick_empty : pick find? "" = [] := by
  rw [pick_line find? (by simp [OneLine]), String.toList_empty, blank, Option.toList_none]

theorem pick_ended (text : String) : pick find? (text ++ "\n") = pick find? text := by
  simpa [pick_empty blank] using pick_append_line find? text ""

theorem pick_print (doc : Doc) (width : Nat) :
    pick find? (doc.print width) = pick find? (doc.layout width 0) := by
  rw [Doc.print_eq_end_line_layout, Doc.end_line_eq_ite]
  split
  · exact pick_ended blank _
  · rfl

theorem pick_intercalate (texts : List String) :
    pick find? (String.intercalate "\n" texts) = texts.flatMap (pick find?) := by
  induction texts with
  | nil => exact pick_empty blank
  | cons text texts induction =>
      cases texts with
      | nil => simp
      | cons next texts =>
          rw [String.intercalate_cons_cons, pick_append_line, induction, ← List.flatMap_cons]

end

end Text

namespace Native

open Doc (spaces)
open Text (OneLine one_line_intercalate linesOf pick)

/-! Generated code does not break its lines -/

theorem one_line_words {text : String} (words : ∀ c ∈ text.toList, isWordChar c) : OneLine text :=
  fun inside => absurd (words _ inside) (by decide)

theorem one_line_identifier {name : String} (identifier : isIdentifier name) : OneLine name :=
  one_line_words fun _ => is_word_char_of_mem identifier

theorem one_line_decimal_text (value : Nat) : OneLine (Number.decimalText value) := by
  apply one_line_words
  rw [Number.decimalText, String.toList_ofList]
  exact is_word_char_decimal value

theorem one_line_spelled {type : CType} (identifier : isIdentifier type.name) :
    OneLine type.spelled := by
  rw [CType.spelled]
  split
  · exact (one_line_identifier identifier).append (by decide)
  · exact one_line_identifier identifier

theorem one_line_declare {type : CType} (identifier : isIdentifier type.name) {declarator : String}
    (oneLine : OneLine declarator) : OneLine (type.declare declarator) := by
  rw [CType.declare]
  split
  · exact ((one_line_identifier identifier).append (by decide)).append oneLine
  · exact ((one_line_identifier identifier).append (by decide)).append oneLine

theorem Expr.Plain.one_line_render {value : Expr} (plain : value.Plain) : OneLine value.render := by
  induction plain with
  | ident identifier notNil =>
      rw [Expr.render]
      exact one_line_identifier identifier
  | int value =>
      rw [Expr.render]
      exact one_line_decimal_text value
  | nil =>
      rw [Expr.render]
      decide
  | call identifier _ inArguments =>
      have joined := one_line_intercalate (by decide : OneLine ", ")
        (List.forall_mem_map.mpr inArguments)
      rw [Expr.render, Expr.render_all_eq_map]
      exact (((one_line_identifier identifier).append (by decide)).append joined).append (by decide)
  | unarySend _ identifier inReceiver =>
      rw [Expr.render, Expr.renderParts, Expr.renderParts, String.intercalate_singleton]
      have opened : OneLine "[" := by decide
      exact (((opened.append inReceiver).append (by decide)).append
        (one_line_identifier identifier)).append (by decide)
  | keywordSend _ _ identifiers _ inReceiver inParts =>
      have joined := one_line_intercalate (by decide : OneLine " ") (List.forall_mem_map.mpr
        fun part there => ((one_line_identifier (identifiers part there)).append
          (by decide : OneLine ":")).append (inParts part there))
      have opened : OneLine "[" := by decide
      rw [Expr.render, Expr.render_parts_eq_map]
      exact (((opened.append inReceiver).append (by decide)).append joined).append (by decide)
  | index _ _ _ inBase inPosition =>
      rw [Expr.render]
      exact ((inBase.append (by decide)).append inPosition).append (by decide)
  | cast identifier _ _ inOperand =>
      have opened : OneLine "(" := by decide
      rw [Expr.render]
      exact ((opened.append (one_line_spelled identifier)).append (by decide)).append inOperand
  | @compare comparison _ _ _ _ _ _ inLeft inRight =>
      have sign : OneLine comparison.symbol := by cases comparison <;> decide
      rw [Expr.render]
      exact (((inLeft.append (by decide)).append sign).append (by decide)).append inRight

theorem Stmt.all_lines_eq_flatMap (depth : Nat) (stmts : List Stmt) :
    Stmt.allLines depth stmts = stmts.flatMap (Stmt.lines depth) := by
  induction stmts with
  | nil => rw [Stmt.allLines, List.flatMap_nil]
  | cons stmt stmts induction => rw [Stmt.allLines, List.flatMap_cons, induction]

/-- A line stands at a depth or deeper, and is not broken. -/
def CodeLine.Within (depth : Nat) (line : CodeLine) : Prop :=
  depth ≤ line.depth ∧ OneLine line.content

theorem CodeLine.within_braced {depth : Nat} {header : String} {body : List CodeLine}
    (oneLine : OneLine header) (inBody : ∀ line ∈ body, line.Within (depth + 1)) :
    ∀ line ∈ CodeLine.braced depth header body, line.Within depth := by
  rw [CodeLine.braced, List.forall_mem_cons, List.forall_mem_append, List.forall_mem_singleton]
  have closing : OneLine "\x7d" := by decide
  refine ⟨⟨Nat.le_refl depth, oneLine.append (by decide)⟩, ?_, Nat.le_refl depth, closing⟩
  intro line there
  obtain ⟨deeper, unbroken⟩ := inBody line there
  exact ⟨Nat.le_of_succ_le deeper, unbroken⟩

theorem Stmt.Plain.within_lines {stmt : Stmt} (plain : stmt.Plain) (depth : Nat) :
    ∀ line ∈ stmt.lines depth, line.Within depth := by
  have deepEnough := Nat.le_refl depth
  induction plain generalizing depth with
  | expr plain =>
      rw [Stmt.lines, List.forall_mem_singleton]
      exact ⟨deepEnough, plain.one_line_render.append (by decide)⟩
  | result plain =>
      have keyword : OneLine "return " := by decide
      rw [Stmt.lines, List.forall_mem_singleton]
      exact ⟨deepEnough, (keyword.append plain.one_line_render).append (by decide)⟩
  | throw plain =>
      have keyword : OneLine "@throw " := by decide
      rw [Stmt.lines, List.forall_mem_singleton]
      exact ⟨deepEnough, (keyword.append plain.one_line_render).append (by decide)⟩
  | localVariable typeIdentifier identifier plain =>
      have declared := one_line_declare typeIdentifier (one_line_identifier identifier)
      rw [Stmt.lines, List.forall_mem_singleton]
      exact ⟨deepEnough, ((declared.append (by decide)).append plain.one_line_render).append
        (by decide)⟩
  | conditional plain _ inBody =>
      have keyword : OneLine "if (" := by decide
      rw [Stmt.lines, Stmt.all_lines_eq_flatMap]
      apply CodeLine.within_braced ((keyword.append plain.one_line_render).append (by decide))
      exact List.forall_mem_flatMap.mpr fun stmt there => inBody stmt there _ (Nat.le_refl _)
  | @countedFor counter bound body identifier notNil _ inBody =>
      have keyword : OneLine "for (int " := by decide
      have name := one_line_identifier identifier
      rw [Stmt.lines, Stmt.all_lines_eq_flatMap]
      apply CodeLine.within_braced (((((((keyword.append name).append (by decide)).append
        name).append (by decide)).append (one_line_decimal_text bound)).append
        (by decide)).append name |>.append (by decide))
      exact List.forall_mem_flatMap.mpr fun stmt there => inBody stmt there _ (Nat.le_refl _)

/-! Signatures -/

theorem Param.Plain.one_line_declare {param : Param} (plain : param.Plain) :
    OneLine (param.type.declare param.name) :=
  Native.one_line_declare plain.1 (one_line_identifier plain.2)

theorem Method.Plain.one_line_signature {method : Method} (plain : method.Plain) :
    OneLine method.signature := by
  have sign : OneLine method.kind.sign := by cases method.kind <;> decide
  have head : OneLine (method.kind.sign ++ " (" ++ method.returnType.spelled ++ ")" ++
      method.selector) :=
    (((sign.append (by decide)).append (one_line_spelled plain.returnType)).append
      (by decide)).append (one_line_identifier plain.selector)
  rw [Method.signature]
  cases given : method.param with
  | none => exact head
  | some param =>
      have plainParam := plain.param param (by simp [given])
      exact (((head.append (by decide)).append (one_line_spelled plainParam.1)).append
        (by decide)).append (one_line_identifier plainParam.2)

theorem Function.Plain.one_line_signature {function : Function} (plain : function.Plain) :
    OneLine function.signature := by
  have joined := one_line_intercalate (by decide : OneLine ", ") (List.forall_mem_map.mpr
    fun param there => (plain.params param there).one_line_declare)
  exact one_line_declare plain.returnType
    ((((one_line_identifier plain.name).append (by decide)).append joined).append (by decide))

theorem Item.Plain.one_line_signature {item : Item} (plain : item.Plain) :
    OneLine item.signature := by
  cases item with
  | ofMethod method => exact Method.Plain.one_line_signature plain
  | ofFunction function => exact Function.Plain.one_line_signature plain

/-- A signature begins with a visible character. -/
theorem Item.Plain.head_signature {item : Item} (plain : item.Plain) :
    ∃ first, item.signature.toList.head? = some first ∧ first ≠ ' ' := by
  cases item with
  | ofMethod method =>
      rw [Item.signature, Method.signature]
      cases method.kind with
      | ofClass => exact ⟨'+', by cases method.param <;> simp [MethodKind.sign], by decide⟩
      | ofInstance => exact ⟨'-', by cases method.param <;> simp [MethodKind.sign], by decide⟩
  | ofFunction function =>
      obtain ⟨first, rest, chars, _⟩ := exists_first (Function.Plain.returnType plain)
      have visible : isWordChar first :=
        is_word_char_of_mem (Function.Plain.returnType plain) (by simp [chars])
      refine ⟨first, ?_, fun isBlank => absurd (isBlank ▸ visible) (by decide)⟩
      rw [Item.signature, Function.signature, CType.declare]
      split <;> simp [chars]

/-! Reading signatures off a text -/

/-- The signature between a mark and an ending, if the line has both. -/
def signatureOf? (mark ending : String) (line : List Char) : Option String :=
  ((line.dropPrefix? mark.toList).bind fun rest => rest.dropSuffix? ending.toList).map
    String.ofList

theorem signature_of?_eq_some (mark ending signature : String) :
    signatureOf? mark ending (mark ++ signature ++ ending).toList = some signature := by
  have front : (mark ++ signature ++ ending).toList.dropPrefix? mark.toList =
      some (signature.toList ++ ending.toList) := by
    rw [String.toList_append, String.toList_append, List.append_assoc]
    exact List.dropPrefix?_append_of_beq _ (by simp)
  have back : (signature.toList ++ ending.toList).dropSuffix? ending.toList =
      some signature.toList :=
    List.dropSuffix?_eq_some_iff.mpr ⟨ending.toList, rfl, by simp⟩
  rw [signatureOf?, front, Option.bind_some, back, Option.map_some, String.ofList_toList]

def visible? (line : List Char) : Option (List Char) := if line = [] then none else some line

/-- The signatures that a header declares, if there is one on every line that is not empty. -/
def declaredSignatures? (mark : String) (header : String) : Option (List String) :=
  (pick visible? header).mapM (signatureOf? mark ";")

def definedSignature? (line : List Char) : Option String :=
  if line.head? = some ' ' then none else signatureOf? "" " \x7b" line

/-- The signatures on the lines that open a definition. -/
def definedSignatures (implementation : String) : List String :=
  pick definedSignature? implementation

theorem defined_signature?_nil : definedSignature? [] = none := by decide

theorem defined_signature?_closing : definedSignature? ['\x7d'] = none := by decide

theorem defined_signature?_indented {line : CodeLine} {width : Nat} (indented : 1 ≤ width)
    (inner : 1 ≤ line.depth) :
    definedSignature? (spaces (line.depth * width) ++ line.content).toList = none := by
  obtain ⟨level, isLevel⟩ : ∃ level, line.depth * width = level + 1 :=
    Nat.exists_eq_add_one.mpr (Nat.mul_pos inner indented)
  rw [definedSignature?, if_pos]
  simp [isLevel, spaces, List.replicate_succ]

theorem defined_signature?_signature {item : Item} (plain : item.Plain) :
    definedSignature? (item.signature ++ " \x7b").toList = some item.signature := by
  have found := signature_of?_eq_some "" " \x7b" item.signature
  rw [String.empty_append] at found
  obtain ⟨first, head, visible⟩ := plain.head_signature
  rw [definedSignature?, if_neg, found]
  simpa [head] using visible

theorem pick_code_lines {α : Type} {find? : List Char → Option α} (blank : find? [] = none)
    (width : Nat) {lines : List CodeLine} (oneLine : ∀ line ∈ lines, OneLine line.content) :
    pick find? (CodeLine.text width lines) =
      lines.filterMap fun line => find? (spaces (line.depth * width) ++ line.content).toList := by
  induction lines with
  | nil => exact Text.pick_empty blank
  | cons line lines induction =>
      obtain ⟨first, later⟩ := List.forall_mem_cons.mp oneLine
      have margin : OneLine (spaces (line.depth * width)) := by simp [OneLine, spaces]
      rw [CodeLine.text_cons, Text.pick_append_line, Text.pick_line find? (margin.append first),
        induction later]
      cases found : find? (spaces (line.depth * width) ++ line.content).toList with
      | none => simp only [List.filterMap_cons, found, Option.toList_none, List.nil_append]
      | some value =>
          simp only [List.filterMap_cons, found, Option.toList_some, List.singleton_append]

theorem Item.Plain.within_lines {item : Item} (plain : item.Plain) :
    ∀ line ∈ Stmt.allLines 1 item.body, line.Within 1 := by
  rw [Stmt.all_lines_eq_flatMap]
  exact List.forall_mem_flatMap.mpr fun stmt there =>
    (plain.plain_body stmt there).within_lines 1

/-- A definition shows its signature and no other. -/
theorem Item.Plain.defined_signatures_definition {item : Item} (plain : item.Plain) {width : Nat}
    (indented : 1 ≤ width) :
    definedSignatures (item.definition.print width) = [item.signature] := by
  have inBody := plain.within_lines
  have oneLine : ∀ line ∈ item.lines, OneLine line.content := fun line there =>
    (CodeLine.within_braced plain.one_line_signature inBody line there).2
  have opening : definedSignature? (spaces (0 * width) ++ (item.signature ++ " \x7b")).toList =
      some item.signature := by
    simpa [spaces] using defined_signature?_signature plain
  have closing : definedSignature? (spaces (0 * width) ++ "\x7d").toList = none := by
    simpa [spaces] using defined_signature?_closing
  have noneInBody : (Stmt.allLines 1 item.body).filterMap (fun line =>
      definedSignature? (spaces (line.depth * width) ++ line.content).toList) = [] :=
    List.filterMap_eq_nil_iff.mpr fun line there =>
      defined_signature?_indented indented (inBody line there).1
  -- Of the three parts of the listing only the first line is left.
  rw [definedSignatures, Item.print_definition,
    pick_code_lines defined_signature?_nil width oneLine,
    Item.lines, CodeLine.braced]
  simp only [List.filterMap_cons, opening, List.filterMap_append, noneInBody, List.nil_append,
    closing, List.filterMap_nil]

/-- Items in a row show what each of them shows alone. -/
theorem pick_join {α : Type} {find? : List Char → Option α} (blank : find? [] = none) {width : Nat}
    {toDoc : Item → Doc} (stops : ∀ item, Doc.StopsInLine ((toDoc item).layout width 0))
    {shown : Item → α} {items : List Item}
    (alone : ∀ item ∈ items, pick find? ((toDoc item).print width) = [shown item]) :
    pick find? ((Doc.join (items.map toDoc) .blankLine).print width) = items.map shown := by
  rw [Doc.print_join_blank_line width toDoc items stops, Text.pick_intercalate blank,
    List.flatMap_map]
  induction items with
  | nil => rfl
  | cons item items induction =>
      obtain ⟨first, later⟩ := List.forall_mem_cons.mp alone
      rw [List.flatMap_cons, first, induction later, List.map_cons, List.singleton_append]

theorem defined_signatures_join {items : List Item} (plain : ∀ item ∈ items, item.Plain)
    {width : Nat} (indented : 1 ≤ width) :
    definedSignatures ((Doc.join (items.map Item.definition) .blankLine).print width) =
      items.map Item.signature :=
  pick_join defined_signature?_nil (Item.stops_in_line_definition width 0) fun item there =>
    (plain item there).defined_signatures_definition indented

/-! Headers -/

/-- What stands in front of a signature in a header. -/
def Item.exportMark : Item → String
  | .ofMethod _ => ""
  | .ofFunction _ => "FOUNDATION_EXPORT "

def Item.declarationLine (item : Item) : String := item.exportMark ++ item.signature ++ ";"

theorem Item.layout_declaration (item : Item) (width level : Nat) :
    item.declaration.layout width level = item.declarationLine := by
  cases item with
  | ofMethod method => simp [declaration, declarationLine, exportMark, signature]
  | ofFunction function => simp [declaration, declarationLine, exportMark, signature]

theorem Item.print_declaration (item : Item) (width : Nat) :
    item.declaration.print width = item.declarationLine ++ "\n" := by
  rw [Doc.print_eq_end_line_layout, (item.stops_in_line_declaration width 0).end_line,
    item.layout_declaration]

theorem Item.Plain.pick_declaration {item : Item} (plain : item.Plain) (width : Nat) :
    pick visible? (item.declaration.print width) = [item.declarationLine.toList] := by
  have mark : OneLine item.exportMark := by
    cases item with
    | ofMethod _ => exact (by decide : OneLine "")
    | ofFunction _ => exact (by decide : OneLine "FOUNDATION_EXPORT ")
  have oneLine : OneLine item.declarationLine :=
    (mark.append plain.one_line_signature).append (by decide)
  have visible : visible? item.declarationLine.toList = some item.declarationLine.toList := by
    rw [visible?, if_neg]
    simp [declarationLine]
  rw [item.print_declaration, Text.pick_ended rfl, Text.pick_line visible? oneLine, visible,
    Option.toList_some]

theorem pick_declarations {items : List Item} (plain : ∀ item ∈ items, item.Plain) (width : Nat) :
    pick visible? ((Doc.join (items.map Item.declaration) .blankLine).print width) =
      items.map fun item => item.declarationLine.toList :=
  pick_join rfl (Item.stops_in_line_declaration width 0) fun item there =>
    (plain item there).pick_declaration width

/-- A text under another, without an empty line between. -/
theorem print_under (above below : Doc) (width : Nat)
    (stops : Doc.StopsInLine (below.layout width 0)) :
    (Doc.concat [above, .hardline, below]).print width =
      above.layout width 0 ++ "\n" ++ below.print width := by
  have shown : (Doc.concat [above, .hardline, below]).layout width 0 =
      above.layout width 0 ++ "\n" ++ below.layout width 0 := by
    simp [spaces, String.append_assoc]
  rw [Doc.print_eq_end_line_layout, shown, (stops.append _).end_line, Doc.print_eq_end_line_layout,
    stops.end_line, String.append_assoc]

theorem mapM_declaration_line {mark : String} {items : List Item}
    (marked : ∀ item ∈ items, item.exportMark = mark) :
    (items.map fun item => item.declarationLine.toList).mapM (signatureOf? mark ";") =
      some (items.map Item.signature) := by
  induction items with
  | nil => rfl
  | cons item items induction =>
      obtain ⟨isMark, later⟩ := List.forall_mem_cons.mp marked
      have found : signatureOf? mark ";" item.declarationLine.toList = some item.signature := by
        rw [Item.declarationLine, isMark]
        exact signature_of?_eq_some mark ";" item.signature
      rw [List.map_cons, List.mapM_cons, found, induction later]
      rfl

/-! Functions -/

/-- The name in front of the parameters. -/
def functionName (signature : String) : String :=
  String.ofList ((signature.toList.takeWhile (· != '(')).reverse.takeWhile isWordChar).reverse

theorem function_name_eq {text name : String} (front rest : List Char) (separator : Char)
    (chars : text.toList = front ++ separator :: (name.toList ++ '(' :: rest))
    (noParen : '(' ∉ front ++ [separator]) (noWord : isWordChar separator = false)
    (identifier : isIdentifier name) : functionName text = name := by
  have words : ∀ c ∈ name.toList, isWordChar c := fun _ => is_word_char_of_mem identifier
  have before : text.toList.takeWhile (· != '(') = front ++ separator :: name.toList := by
    have regrouped : text.toList = (front ++ [separator] ++ name.toList) ++ '(' :: rest := by
      simp [chars]
    rw [regrouped, List.takeWhile_append_of_pos, List.takeWhile_cons_of_neg (by simp)]
    · simp
    · intro c there
      rw [bne_iff_ne]
      rintro rfl
      rcases List.mem_append.mp there with inFront | inName
      · exact noParen inFront
      · exact absurd (words _ inName) (by decide)
  -- Read backwards, the name ends at the separator.
  have last : (front ++ separator :: name.toList).reverse.takeWhile isWordChar =
      name.toList.reverse := by
    rw [List.reverse_append, List.reverse_cons, List.append_assoc, List.singleton_append,
      List.takeWhile_append_of_pos (by simpa using words),
      List.takeWhile_cons_of_neg (by simp [noWord]), List.append_nil]
  rw [functionName, before, last, List.reverse_reverse, String.ofList_toList]

theorem Function.Plain.function_name_signature {function : Function} (plain : function.Plain) :
    functionName function.signature = function.name := by
  have noParen : '(' ∉ function.returnType.name.toList := fun inside =>
    absurd (is_word_char_of_mem plain.returnType inside) (by decide)
  have named : ∃ rest, (function.name ++ "(" ++ String.intercalate ", "
      (function.params.map fun param => param.type.declare param.name) ++ ")").toList =
        function.name.toList ++ '(' :: rest :=
    ⟨_, by simp only [String.toList_append, List.append_assoc]; rfl⟩
  obtain ⟨rest, isNamed⟩ := named
  rw [Function.signature, CType.declare]
  split
  · refine function_name_eq (function.returnType.name.toList ++ [' ']) rest '*' ?_ ?_ rfl plain.name
    · simp [isNamed]
    · simpa using noParen
  · refine function_name_eq function.returnType.name.toList rest ' ' ?_ ?_ rfl plain.name
    · simp [isNamed]
    · simpa using noParen

end Native

end EnumLowering
