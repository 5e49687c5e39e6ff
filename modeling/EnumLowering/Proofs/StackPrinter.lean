import EnumLowering.Layout.Doc

/-!
The printer against plain recursion. The layout of a document is read off the document
part by part, with the indentation handed down. The printer works on a stack instead.
Its loop is taken turn by turn here: a turn removes one node from the stack, and what
the stack still stands for, put behind the text so far, stays the same. So the loop ends
after as many turns as the document has nodes, and its text is the layout.
-/

namespace EnumLowering

namespace Doc

mutual

/-- The text of a document at an indentation. -/
def layout (width level : Nat) : Doc → String
  | .empty => ""
  | .text content => content
  | .hardline => "\n" ++ spaces level
  | .indent body => body.layout width (level + width)
  | .concat parts => layouts width level parts

/-- The texts of the parts, one after the other. -/
def layouts (width level : Nat) : List Doc → String
  | [] => ""
  | part :: parts => part.layout width level ++ layouts width level parts

end

theorem layouts_eq_join (width level : Nat) (parts : List Doc) :
    layouts width level parts = String.join (parts.map (layout width level)) := by
  induction parts with
  | nil => simp [layouts]
  | cons part parts induction => simp [layouts, induction]

section

variable (width level : Nat)

@[simp] theorem layout_empty : empty.layout width level = "" := by rw [layout]

@[simp] theorem layout_text (content : String) : (text content).layout width level = content := by
  rw [layout]

@[simp] theorem layout_hardline : hardline.layout width level = "\n" ++ spaces level := by
  rw [layout]

@[simp] theorem layout_indent (body : Doc) :
    (indent body).layout width level = body.layout width (level + width) := by
  rw [layout]

@[simp] theorem layout_concat (parts : List Doc) :
    (concat parts).layout width level = String.join (parts.map (layout width level)) := by
  rw [layout, layouts_eq_join]

end

theorem size_pos (doc : Doc) : 0 < doc.size := by
  cases doc <;> simp [size]

/-- What the documents on a stack stand for. -/
def PrintStack.layout (width : Nat) (stack : PrintStack) : String :=
  String.join (stack.map fun (level, doc) => doc.layout width level)

@[simp] theorem PrintStack.layout_cons (width level : Nat) (doc : Doc) (stack : PrintStack) :
    PrintStack.layout width ((level, doc) :: stack) =
      doc.layout width level ++ stack.layout width := by
  simp [PrintStack.layout]

@[simp] theorem PrintStack.layout_push (width level : Nat) (parts : List Doc)
    (stack : PrintStack) :
    (stack.push level parts).layout width =
      String.join (parts.map (Doc.layout width level)) ++ stack.layout width := by
  simp [PrintStack.layout, PrintStack.push, Function.comp_def]

theorem PrintStack.size_eq_zero_iff (stack : PrintStack) : stack.size = 0 ↔ stack = [] := by
  cases stack with
  | nil => simp [PrintStack.size, sizes]
  | cons entry stack =>
      have positive := entry.2.size_pos
      rw [size_cons]
      simp only [reduceCtorEq, iff_false]
      omega

/-- Where the loop of the printer stands: what is still to be printed, and the text so
far. -/
structure PrintState where
  stack : PrintStack
  output : String

namespace PrintState

def start (doc : Doc) : PrintState := { stack := [(0, doc)], output := "" }

/-- One turn of the loop; without anything to print, nothing changes. -/
def step (width : Nat) : PrintState → PrintState
  | ⟨[], output⟩ => ⟨[], output⟩
  | ⟨(_, .empty) :: stack, output⟩ => ⟨stack, output⟩
  | ⟨(_, .text content) :: stack, output⟩ => ⟨stack, output ++ content⟩
  | ⟨(level, .hardline) :: stack, output⟩ => ⟨stack, output ++ "\n" ++ spaces level⟩
  | ⟨(level, .indent body) :: stack, output⟩ => ⟨(level + width, body) :: stack, output⟩
  | ⟨(level, .concat parts) :: stack, output⟩ => ⟨PrintStack.push level parts stack, output⟩

def run (width : Nat) : Nat → PrintState → PrintState
  | 0, state => state
  | turns + 1, state => run width turns (state.step width)

/-- The text that the loop is going to end with. -/
def result (width : Nat) (state : PrintState) : String :=
  state.output ++ state.stack.layout width

/-- Every turn takes one node off the stack. -/
theorem size_step (width : Nat) (state : PrintState) :
    (state.step width).stack.size = state.stack.size - 1 := by
  obtain ⟨stack, output⟩ := state
  cases stack with
  | nil => simp [step, PrintStack.size, sizes]
  | cons entry stack =>
      obtain ⟨level, doc⟩ := entry
      cases doc <;> simp only [step, size_cons, size_push, Doc.size] <;> omega

/-- The invariant of the loop: a turn moves text from the stack to the output. -/
theorem result_step (width : Nat) (state : PrintState) :
    (state.step width).result width = state.result width := by
  obtain ⟨stack, output⟩ := state
  cases stack with
  | nil => rfl
  | cons entry stack =>
      obtain ⟨level, doc⟩ := entry
      cases doc <;> simp [step, result, String.append_assoc]

theorem size_run (width turns : Nat) (state : PrintState) :
    (state.run width turns).stack.size = state.stack.size - turns := by
  induction turns generalizing state with
  | zero => rfl
  | succ turns induction =>
      rw [run, induction, size_step]
      omega

theorem result_run (width turns : Nat) (state : PrintState) :
    (state.run width turns).result width = state.result width := by
  induction turns generalizing state with
  | zero => rfl
  | succ turns induction => rw [run, induction, result_step]

theorem stack_run_eq_nil_iff (width turns : Nat) (state : PrintState) :
    (state.run width turns).stack = [] ↔ state.stack.size ≤ turns := by
  rw [← PrintStack.size_eq_zero_iff, size_run]
  omega

/-- Once the stack is empty, the text so far is the whole text. -/
theorem run_size (width : Nat) (state : PrintState) :
    state.run width state.stack.size = ⟨[], state.result width⟩ := by
  have ended := (stack_run_eq_nil_iff width state.stack.size state).mpr (Nat.le_refl _)
  have kept := result_run width state.stack.size state
  cases final : state.run width state.stack.size with
  | mk stack output =>
      rw [final] at ended kept
      subst ended
      simpa [result, PrintStack.layout] using kept

/-- The loop of the printer goes turn by turn. -/
theorem print_stack_step (width : Nat) (state : PrintState) :
    printStack width (state.step width).stack (state.step width).output =
      printStack width state.stack state.output := by
  obtain ⟨stack, output⟩ := state
  cases stack with
  | nil => rfl
  | cons entry stack =>
      obtain ⟨level, doc⟩ := entry
      cases doc <;> simp only [step, printStack]

theorem print_stack_run (width turns : Nat) (state : PrintState) :
    printStack width (state.run width turns).stack (state.run width turns).output =
      printStack width state.stack state.output := by
  induction turns generalizing state with
  | zero => rfl
  | succ turns induction => rw [run, induction, print_stack_step]

theorem print_stack_eq_result (width : Nat) (state : PrintState) :
    printStack width state.stack state.output = state.result width := by
  rw [← print_stack_run width state.stack.size, run_size, printStack]

theorem size_start (doc : Doc) : (start doc).stack.size = doc.size := by
  simp [start, PrintStack.size, sizes]

theorem result_start (width : Nat) (doc : Doc) :
    (start doc).result width = doc.layout width 0 := by
  simp [start, result, PrintStack.layout]

end PrintState

theorem print_eq_end_line_layout (doc : Doc) (width : Nat) :
    doc.print width = endLine (doc.layout width 0) := by
  rw [print, ← PrintState.result_start, ← PrintState.print_stack_eq_result]
  rfl

theorem end_line_eq_ite (text : String) :
    endLine text =
      if text ≠ "" ∧ text.toList.getLast? ≠ some '\n' then text ++ "\n" else text := by
  rw [endLine]
  by_cases blank : text = ""
  · simp [blank]
  · by_cases ended : text.toList.getLast? = some '\n' <;> simp [blank, ended]

/-- The loop of the printer is over after as many turns as the document has nodes, and no
sooner; its text is the layout at no indentation. What is printed is this layout, with
an end of line behind it if it is not empty and does not end with one. -/
theorem printer_refines_layout (doc : Doc) (width : Nat) :
    (∀ turns, ((PrintState.start doc).run width turns).stack = [] ↔ doc.size ≤ turns) ∧
    (PrintState.start doc).run width doc.size = ⟨[], doc.layout width 0⟩ ∧
    doc.print width =
      if doc.layout width 0 ≠ "" ∧ (doc.layout width 0).toList.getLast? ≠ some '\n' then
        doc.layout width 0 ++ "\n"
      else doc.layout width 0 := by
  refine ⟨?_, ?_, ?_⟩
  · intro turns
    rw [PrintState.stack_run_eq_nil_iff, PrintState.size_start]
  · have final := PrintState.run_size width (.start doc)
    rwa [PrintState.size_start, PrintState.result_start] at final
  · rw [print_eq_end_line_layout, end_line_eq_ite]

end Doc

end EnumLowering
