/-!
Layout of generated text. A document fixes line breaks and nesting and leaves
the width of a nesting level to the printer.

The printer keeps its own stack of documents still to be printed, each with the
indentation it is printed at. A step takes the top document apart, so the sizes
on the stack go down.
-/

namespace EnumLowering

inductive Doc where
  | text (content : String)
  /-- A new line, indented to the current level. -/
  | hardline
  | indent (body : Doc)
  | concat (parts : List Doc)
  | empty

namespace Doc

def join (docs : List Doc) (separator : Doc) : Doc := .concat (docs.intersperse separator)

/-- An empty line between two items. -/
def blankLine : Doc := .concat [.hardline, .hardline]

/-- A header with an opening brace, each line on a level of its own, and the
closing brace. -/
def braced (header : String) (lines : List Doc) : Doc :=
  .concat [
    .text (header ++ " \x7b"),
    .indent (.concat (lines.flatMap fun line => [.hardline, line])),
    .hardline,
    .text "\x7d"]

mutual

def size : Doc → Nat
  | .text _ | .hardline | .empty => 1
  | .indent body => body.size + 1
  | .concat parts => sizes parts + 1

def sizes : List Doc → Nat
  | [] => 0
  | part :: parts => part.size + sizes parts

end

/-- Documents still to be printed, each at its indentation, the next one first. -/
abbrev PrintStack := List (Nat × Doc)

def PrintStack.size (stack : PrintStack) : Nat := sizes (stack.map Prod.snd)

def PrintStack.push (level : Nat) (parts : List Doc) (stack : PrintStack) : PrintStack :=
  parts.map (Prod.mk level) ++ stack

theorem size_cons (level : Nat) (doc : Doc) (stack : PrintStack) :
    PrintStack.size ((level, doc) :: stack) = doc.size + stack.size := rfl

theorem size_push (level : Nat) (parts : List Doc) (stack : PrintStack) :
    (stack.push level parts).size = sizes parts + stack.size := by
  induction parts with
  | nil => simp [PrintStack.push, sizes]
  | cons part parts induction =>
      change part.size + (stack.push level parts).size = _
      rw [induction, sizes, Nat.add_assoc]

def spaces (count : Nat) : String := String.ofList (List.replicate count ' ')

def printStack (width : Nat) : PrintStack → String → String
  | [], output => output
  | (_, .empty) :: stack, output => printStack width stack output
  | (_, .text content) :: stack, output => printStack width stack (output ++ content)
  | (level, .hardline) :: stack, output => printStack width stack (output ++ "\n" ++ spaces level)
  | (level, .indent body) :: stack, output => printStack width ((level + width, body) :: stack) output
  | (level, .concat parts) :: stack, output =>
      printStack width (PrintStack.push level parts stack) output
termination_by stack => PrintStack.size stack
decreasing_by
  all_goals simp only [size_cons, size_push, size]
  all_goals omega

/-- Text that does not end its last line gets an end; no text gets none. -/
def endLine (text : String) : String :=
  if text.isEmpty || text.toList.getLast? == some '\n' then text else text ++ "\n"

def print (doc : Doc) (width : Nat) : String := endLine (printStack width [(0, doc)] "")

end Doc

end EnumLowering
