import EnumLowering.Native.Item
import EnumLowering.Proofs.StackPrinter

/-!
The lines of generated code. A statement or an item is listed line by line, each line
with its depth: a simple statement is one line, and a body stands one level deeper
between the line that opens it and the closing brace. What the printer writes for a
statement or a definition is this listing. Items in a row keep the texts that they have
alone, with an empty line between neighbours.
-/

namespace EnumLowering

namespace Doc

/-- The text stops inside a line. -/
def StopsInLine (text : String) : Prop :=
  ∃ last, text.toList.getLast? = some last ∧ last ≠ '\n'

theorem StopsInLine.append {text : String} (stops : StopsInLine text) (front : String) :
    StopsInLine (front ++ text) := by
  obtain ⟨last, ended, inside⟩ := stops
  refine ⟨last, ?_, inside⟩
  rw [String.toList_append, List.getLast?_append, ended]
  rfl

theorem stops_in_line_semicolon (front : String) : StopsInLine (front ++ ";") :=
  StopsInLine.append ⟨';', rfl, by decide⟩ front

theorem StopsInLine.end_line {text : String} (stops : StopsInLine text) :
    endLine text = text ++ "\n" := by
  obtain ⟨last, ended, inside⟩ := stops
  have present : text ≠ "" := by
    rintro rfl
    cases ended
  rw [end_line_eq_ite, if_pos]
  refine ⟨present, ?_⟩
  rw [ended]
  simpa using inside

/-- The body of a braced text: each line on a new one, one level deeper. -/
def bodyLayout (width level : Nat) (docs : List Doc) : String :=
  String.join (docs.map fun doc => "\n" ++ spaces level ++ doc.layout width level)

@[simp] theorem body_layout_cons (width level : Nat) (doc : Doc) (docs : List Doc) :
    bodyLayout width level (doc :: docs) =
      "\n" ++ spaces level ++ doc.layout width level ++ bodyLayout width level docs := by
  simp [bodyLayout, String.append_assoc]

theorem join_on_new_lines (width level : Nat) (docs : List Doc) :
    String.join ((docs.flatMap fun line => [hardline, line]).map (layout width level)) =
      bodyLayout width level docs := by
  induction docs with
  | nil => rfl
  | cons doc docs induction =>
      rw [List.flatMap_cons, List.map_append, String.join_append, induction, body_layout_cons]
      simp [String.append_assoc]

theorem layout_braced (width level : Nat) (header : String) (docs : List Doc) :
    (braced header docs).layout width level =
      header ++ " \x7b" ++ bodyLayout width (level + width) docs ++ "\n" ++ spaces level ++
        "\x7d" := by
  simp [braced, join_on_new_lines, String.append_assoc]

theorem stops_in_line_braced (width level : Nat) (header : String) (docs : List Doc) :
    StopsInLine ((braced header docs).layout width level) := by
  rw [layout_braced]
  exact StopsInLine.append ⟨'\x7d', rfl, by decide⟩ _

/-! Items in a row. -/

theorem layout_join_blank_line (width : Nat) (docs : List Doc) :
    (join docs blankLine).layout width 0 =
      String.intercalate "\n\n" (docs.map (layout width 0)) := by
  have blank : blankLine.layout width 0 = "\n\n" := by
    simp [blankLine, spaces]
  rw [join, layout_concat]
  induction docs with
  | nil => rfl
  | cons doc docs induction =>
      cases docs with
      | nil => simp
      | cons next docs =>
          rw [List.map_cons, List.map_cons, String.intercalate_cons_cons, ← List.map_cons,
            ← induction, List.intersperse_cons_cons, List.map_cons, List.map_cons,
            String.join_cons, String.join_cons, blank, String.append_assoc]

theorem stops_in_line_intercalate (separator text : String) (texts : List String)
    (stop : ∀ other ∈ text :: texts, StopsInLine other) :
    StopsInLine (separator.intercalate (text :: texts)) := by
  induction texts generalizing text with
  | nil => simpa using stop
  | cons next texts induction =>
      rw [String.intercalate_cons_cons]
      exact (induction next fun other there => stop other (List.mem_cons_of_mem _ there)).append _

/-- Texts that stop inside a line end their lines one by one. -/
theorem end_line_intercalate (texts : List String) (stop : ∀ text ∈ texts, StopsInLine text) :
    endLine (String.intercalate "\n\n" texts) = String.intercalate "\n" (texts.map endLine) := by
  induction texts with
  | nil => rfl
  | cons text texts induction =>
      cases texts with
      | nil => simp
      | cons next texts =>
          have head := (stop text List.mem_cons_self).end_line
          have later : ∀ other ∈ next :: texts, StopsInLine other := fun other there =>
            stop other (List.mem_cons_of_mem _ there)
          have whole := (stops_in_line_intercalate "\n\n" next texts later)
          rw [String.intercalate_cons_cons, (whole.append _).end_line, List.map_cons, List.map_cons,
            String.intercalate_cons_cons, ← List.map_cons, ← induction later, whole.end_line, head]
          simp [String.append_assoc]

theorem print_join_blank_line {α : Type} (width : Nat) (toDoc : α → Doc) (items : List α)
    (stop : ∀ item, StopsInLine ((toDoc item).layout width 0)) :
    (join (items.map toDoc) blankLine).print width =
      String.intercalate "\n" (items.map fun item => (toDoc item).print width) := by
  rw [print_eq_end_line_layout, layout_join_blank_line, end_line_intercalate]
  · simp [Function.comp_def, print_eq_end_line_layout]
  · intro text there
    obtain ⟨doc, listed, rfl⟩ := List.mem_map.mp there
    obtain ⟨item, _, rfl⟩ := List.mem_map.mp listed
    exact stop item

end Doc

namespace Native

open Doc (spaces bodyLayout StopsInLine)

structure CodeLine where
  depth : Nat
  content : String

namespace CodeLine

/-- The blanks of its depth, its content and its end. -/
def render (width : Nat) (line : CodeLine) : String :=
  spaces (line.depth * width) ++ line.content ++ "\n"

def text (width : Nat) (lines : List CodeLine) : String := String.join (lines.map (render width))

@[simp] theorem text_nil (width : Nat) : text width [] = "" := rfl

@[simp] theorem text_cons (width depth : Nat) (content : String) (lines : List CodeLine) :
    text width (⟨depth, content⟩ :: lines) =
      spaces (depth * width) ++ content ++ "\n" ++ text width lines := by
  simp [text, render]

@[simp] theorem text_append (width : Nat) (left right : List CodeLine) :
    text width (left ++ right) = text width left ++ text width right := by
  simp [text]

/-- The lines of a body between the line that opens it and the closing brace. -/
def braced (depth : Nat) (header : String) (body : List CodeLine) : List CodeLine :=
  ⟨depth, header ++ " \x7b"⟩ :: (body ++ [⟨depth, "\x7d"⟩])

end CodeLine

mutual

/-- The lines of a statement that stands at a depth. -/
def Stmt.lines (depth : Nat) : Stmt → List CodeLine
  | .expr value => [⟨depth, value.render ++ ";"⟩]
  | .result value => [⟨depth, "return " ++ value.render ++ ";"⟩]
  | .throw value => [⟨depth, "@throw " ++ value.render ++ ";"⟩]
  | .localVariable type name initial =>
      [⟨depth, type.declare name ++ " = " ++ initial.render ++ ";"⟩]
  | .conditional condition body =>
      CodeLine.braced depth ("if (" ++ condition.render ++ ")") (Stmt.allLines (depth + 1) body)
  | .countedFor counter bound body =>
      CodeLine.braced depth
        ("for (int " ++ counter ++ " = 0; " ++ counter ++ " < " ++ Number.decimalText bound ++
          "; " ++ counter ++ "++)")
        (Stmt.allLines (depth + 1) body)

def Stmt.allLines (depth : Nat) : List Stmt → List CodeLine
  | [] => []
  | stmt :: stmts => stmt.lines depth ++ Stmt.allLines depth stmts

end

/-- The lines of a definition: the signature opens the body. -/
def Item.lines (item : Item) : List CodeLine :=
  CodeLine.braced 0 item.signature (Stmt.allLines 1 item.body)

theorem Stmt.stops_in_line_to_doc (width level : Nat) (stmt : Stmt) :
    StopsInLine (stmt.toDoc.layout width level) := by
  cases stmt with
  | expr value =>
      rw [Stmt.toDoc, Doc.layout_text]
      exact Doc.stops_in_line_semicolon _
  | result value =>
      rw [Stmt.toDoc, Doc.layout_text]
      exact Doc.stops_in_line_semicolon _
  | throw value =>
      rw [Stmt.toDoc, Doc.layout_text]
      exact Doc.stops_in_line_semicolon _
  | localVariable type name initial =>
      rw [Stmt.toDoc, Doc.layout_text]
      exact Doc.stops_in_line_semicolon _
  | conditional condition body =>
      rw [Stmt.toDoc]
      exact Doc.stops_in_line_braced width level _ _
  | countedFor counter bound body =>
      rw [Stmt.toDoc]
      exact Doc.stops_in_line_braced width level _ _

/-- A braced text is the listing of its lines if its body is. -/
theorem layout_braced_of_body (width depth : Nat) (header : String) (docs : List Doc)
    (body : List CodeLine)
    (inBody : bodyLayout width ((depth + 1) * width) docs ++ "\n" =
      "\n" ++ CodeLine.text width body) :
    spaces (depth * width) ++ (Doc.braced header docs).layout width (depth * width) ++ "\n" =
      CodeLine.text width (CodeLine.braced depth header body) := by
  have deeper : depth * width + width = (depth + 1) * width := by
    rw [Nat.add_mul, Nat.one_mul]
  calc
    _ = spaces (depth * width) ++ (header ++ " \x7b") ++
          (bodyLayout width ((depth + 1) * width) docs ++ "\n") ++
            (spaces (depth * width) ++ "\x7d" ++ "\n") := by
      rw [Doc.layout_braced, deeper]
      simp only [String.append_assoc]
    _ = CodeLine.text width (CodeLine.braced depth header body) := by
      rw [inBody]
      simp only [CodeLine.braced, CodeLine.text_cons, CodeLine.text_append, CodeLine.text_nil,
        String.append_empty, String.append_assoc]

theorem Stmt.loop_header_eq (counter : String) (bound : Nat) :
    Stmt.loopHeader counter bound =
      "for (int " ++ counter ++ " = 0; " ++ counter ++ " < " ++ Number.decimalText bound ++
        "; " ++ counter ++ "++)" := by
  unfold Stmt.loopHeader
  simp [Expr.render, Comparison.symbol, String.append_assoc]

-- A statement does not bring the blanks in front of it nor the end of its last line: the printer
-- writes these with the line break before it and the one behind it.
mutual

theorem Stmt.layout_to_doc (width depth : Nat) (stmt : Stmt) :
    spaces (depth * width) ++ stmt.toDoc.layout width (depth * width) ++ "\n" =
      CodeLine.text width (stmt.lines depth) := by
  cases stmt with
  | expr value => simp [Stmt.toDoc, Stmt.lines]
  | result value => simp [Stmt.toDoc, Stmt.lines]
  | throw value => simp [Stmt.toDoc, Stmt.lines]
  | localVariable type name initial => simp [Stmt.toDoc, Stmt.lines]
  | conditional condition body =>
      rw [Stmt.toDoc, Stmt.lines]
      exact layout_braced_of_body width depth _ _ _ (Stmt.layout_to_docs width (depth + 1) body)
  | countedFor counter bound body =>
      rw [Stmt.toDoc, Stmt.lines, Stmt.loop_header_eq]
      exact layout_braced_of_body width depth _ _ _ (Stmt.layout_to_docs width (depth + 1) body)

theorem Stmt.layout_to_docs (width depth : Nat) (stmts : List Stmt) :
    bodyLayout width (depth * width) (Stmt.toDocs stmts) ++ "\n" =
      "\n" ++ CodeLine.text width (Stmt.allLines depth stmts) := by
  cases stmts with
  | nil => rfl
  | cons stmt stmts =>
      have head := Stmt.layout_to_doc width depth stmt
      have tail := Stmt.layout_to_docs width depth stmts
      rw [Stmt.toDocs, Stmt.allLines, Doc.body_layout_cons, CodeLine.text_append, ← head]
      simp only [String.append_assoc]
      rw [tail]

end

theorem Stmt.print_to_doc (width : Nat) (stmt : Stmt) :
    stmt.toDoc.print width = CodeLine.text width (stmt.lines 0) := by
  have listed := stmt.layout_to_doc width 0
  rw [Nat.zero_mul] at listed
  rw [Doc.print_eq_end_line_layout, (stmt.stops_in_line_to_doc width 0).end_line, ← listed]
  simp [spaces]

example :
    (Stmt.conditional (.ident "a") [.conditional (.ident "b") [.result .nil]]).toDoc.print 2 =
      "if (a) \x7b\n  if (b) \x7b\n    return nil;\n  \x7d\n\x7d\n" := by
  rw [Stmt.print_to_doc]
  rfl

namespace Item

theorem stops_in_line_definition (width level : Nat) (item : Item) :
    StopsInLine (item.definition.layout width level) :=
  Doc.stops_in_line_braced width level _ _

theorem stops_in_line_declaration (width level : Nat) (item : Item) :
    StopsInLine (item.declaration.layout width level) := by
  cases item with
  | ofMethod method =>
      rw [declaration, Doc.layout_text]
      exact Doc.stops_in_line_semicolon _
  | ofFunction function =>
      rw [declaration, Doc.layout_text]
      exact Doc.stops_in_line_semicolon _

theorem print_definition (width : Nat) (item : Item) :
    item.definition.print width = CodeLine.text width item.lines := by
  have listed := layout_braced_of_body width 0 item.signature _ _
    (Stmt.layout_to_docs width 1 item.body)
  rw [Nat.zero_mul] at listed
  rw [Doc.print_eq_end_line_layout, (item.stops_in_line_definition width 0).end_line, lines,
    ← listed]
  simp [spaces, definition]

end Item

/-- Statements and definitions are printed as the listing of their lines. Definitions in
a row, and declarations in a row, are printed one by one with an empty line between. -/
theorem generated_code_is_printed_by_lines (width : Nat) :
    (∀ stmt : Stmt, stmt.toDoc.print width =
      String.join ((stmt.lines 0).map fun line =>
        spaces (line.depth * width) ++ line.content ++ "\n")) ∧
    (∀ item : Item, item.definition.print width =
      String.join (item.lines.map fun line =>
        spaces (line.depth * width) ++ line.content ++ "\n")) ∧
    (∀ items : List Item, (Doc.join (items.map Item.definition) .blankLine).print width =
      String.intercalate "\n" (items.map fun item => item.definition.print width)) ∧
    ∀ items : List Item, (Doc.join (items.map Item.declaration) .blankLine).print width =
      String.intercalate "\n" (items.map fun item => item.declaration.print width) := by
  refine ⟨Stmt.print_to_doc width, Item.print_definition width, ?_, ?_⟩
  · intro items
    apply Doc.print_join_blank_line
    exact Item.stops_in_line_definition width 0
  · intro items
    apply Doc.print_join_blank_line
    exact Item.stops_in_line_declaration width 0

end Native

end EnumLowering
