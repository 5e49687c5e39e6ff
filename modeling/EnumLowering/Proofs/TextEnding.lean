import EnumLowering.Native.Support
import EnumLowering.Proofs.PrintedSignatures
import Mathlib.Data.List.DropRight

/-!
How a printed text ends. The printer ends a last line that is still open, but takes no end
of line back: if two line breaks without blanks behind them come last in a document, both
stay. They are counted on the leaves of the document, its texts and line breaks in a row,
and the count says with how many ends of line the printed text ends. The texts that are
generated for an enum always end with one.
-/

namespace EnumLowering

namespace Text

/-- How many ends of line stand at the end of a text. -/
def newlinesAtEnd (text : String) : Nat := (text.toList.rtakeWhile (· == '\n')).length

/-- The last character is an end of line, and the one before it, if any, is not. -/
def EndsOnce (text : String) : Prop :=
  ∃ front : String, text = front ++ "\n" ∧ front.toList.getLast? ≠ some '\n'

theorem newlines_at_end_newline (text : String) :
    newlinesAtEnd (text ++ "\n") = newlinesAtEnd text + 1 := by
  have last : ("\n" : String).toList = ['\n'] := rfl
  rw [newlinesAtEnd, String.toList_append, last, List.rtakeWhile_concat_pos _ _ _ rfl,
    List.length_append]
  rfl

theorem newlines_at_end_eq_zero_iff (text : String) :
    newlinesAtEnd text = 0 ↔ text.toList.getLast? ≠ some '\n' := by
  rw [newlinesAtEnd, List.length_eq_zero_iff, List.rtakeWhile_eq_nil_iff]
  cases given : text.toList with
  | nil => simp
  | cons first rest => simp [List.getLast?_eq_some_getLast]

theorem newlines_at_end_of_stops_in_line {text : String} (stops : Doc.StopsInLine text) :
    newlinesAtEnd text = 0 := by
  obtain ⟨last, isLast, inside⟩ := stops
  rw [newlines_at_end_eq_zero_iff, isLast]
  simpa using inside

theorem ends_once_iff (text : String) : EndsOnce text ↔ newlinesAtEnd text = 1 := by
  constructor
  · rintro ⟨front, rfl, inside⟩
    rw [newlines_at_end_newline, (newlines_at_end_eq_zero_iff front).mpr inside]
  · intro one
    have ended : text.toList.getLast? = some '\n' := by
      by_contra inside
      rw [(newlines_at_end_eq_zero_iff text).mpr inside] at one
      cases one
    obtain ⟨front, split⟩ := List.getLast?_eq_some_iff.mp ended
    have whole : text = String.ofList front ++ "\n" := by
      apply String.toList_injective
      rw [split, String.toList_append, String.toList_ofList]
      rfl
    refine ⟨String.ofList front, whole, ?_⟩
    rw [whole, newlines_at_end_newline] at one
    exact (newlines_at_end_eq_zero_iff _).mp (by omega)

/-- Ending the last line adds an end of line where there is none, and removes none. -/
theorem newlines_at_end_end_line (text : String) :
    newlinesAtEnd (Doc.endLine text) = if text = "" then 0 else max 1 (newlinesAtEnd text) := by
  rw [Doc.end_line_eq_ite]
  by_cases blank : text = ""
  · subst blank
    rfl
  · by_cases ended : text.toList.getLast? = some '\n'
    · have positive := mt (newlines_at_end_eq_zero_iff text).mp (not_not_intro ended)
      rw [if_neg (fun unended => unended.2 ended), if_neg blank]
      omega
    · rw [if_pos ⟨blank, ended⟩, if_neg blank, newlines_at_end_newline,
        (newlines_at_end_eq_zero_iff text).mpr ended]
      rfl

end Text

namespace Doc

open Text (OneLine newlinesAtEnd EndsOnce)

/-- What is printed in one go: a text, or a line break with the number of indents around
it. -/
inductive Leaf where
  | words (content : String)
  | lineBreak (depth : Nat)

namespace Leaf

/-- A text does not break its line. -/
def InLine : Leaf → Prop
  | .words content => OneLine content
  | .lineBreak _ => True

instance : DecidablePred InLine
  | .words content => inferInstanceAs (Decidable (OneLine content))
  | .lineBreak _ => isTrue trivial

def shows : Leaf → Bool
  | .words content => content != ""
  | .lineBreak _ => true

/-- A line break with no blanks behind it. -/
def isBareBreak (width : Nat) : Leaf → Bool
  | .words _ => false
  | .lineBreak depth => depth * width == 0

def render (width : Nat) : Leaf → String
  | .words content => content
  | .lineBreak depth => "\n" ++ spaces (depth * width)

def text (width : Nat) (leaves : List Leaf) : String := String.join (leaves.map (render width))

/-- How many bare breaks come last, empty texts aside. -/
def bareBreaksAtEnd (width : Nat) (leaves : List Leaf) : Nat :=
  ((leaves.filter shows).rtakeWhile (isBareBreak width)).length

end Leaf

mutual

/-- The leaves of a document in the order in which they are printed. -/
def leaves (depth : Nat) : Doc → List Leaf
  | .empty => []
  | .text content => [.words content]
  | .hardline => [.lineBreak depth]
  | .indent body => body.leaves (depth + 1)
  | .concat parts => allLeaves depth parts

def allLeaves (depth : Nat) : List Doc → List Leaf
  | [] => []
  | part :: parts => part.leaves depth ++ allLeaves depth parts

end

/-- No text of the document breaks its line. -/
def TextsInLine (doc : Doc) : Prop := ∀ leaf ∈ doc.leaves 0, leaf.InLine

instance (doc : Doc) : Decidable doc.TextsInLine :=
  inferInstanceAs (Decidable (∀ leaf ∈ doc.leaves 0, leaf.InLine))

mutual

theorem layout_eq_text_leaves (width depth : Nat) (doc : Doc) :
    doc.layout width (depth * width) = Leaf.text width (doc.leaves depth) := by
  cases doc with
  | empty => simp [leaves, Leaf.text]
  | text content => simp [leaves, Leaf.text, Leaf.render]
  | hardline => simp [leaves, Leaf.text, Leaf.render]
  | indent body =>
      have deeper := layout_eq_text_leaves width (depth + 1) body
      rwa [Nat.succ_mul] at deeper
  | concat parts => exact layouts_eq_text_leaves width depth parts

theorem layouts_eq_text_leaves (width depth : Nat) (parts : List Doc) :
    layouts width (depth * width) parts = Leaf.text width (allLeaves depth parts) := by
  cases parts with
  | nil => rfl
  | cons part parts =>
      rw [layouts, allLeaves, layout_eq_text_leaves width depth part,
        layouts_eq_text_leaves width depth parts, Leaf.text, Leaf.text, Leaf.text,
        List.map_append, String.join_append]

end

theorem end_line_eq_empty_iff {text : String} : endLine text = "" ↔ text = "" := by
  rw [end_line_eq_ite]
  split
  next unended => simp [unended.1]
  next => rfl

theorem print_eq_end_line_text (doc : Doc) (width : Nat) :
    doc.print width = endLine (Leaf.text width (doc.leaves 0)) := by
  rw [print_eq_end_line_layout, ← layout_eq_text_leaves, Nat.zero_mul]

namespace Leaf

theorem render_eq_empty_iff (width : Nat) (leaf : Leaf) :
    leaf.render width = "" ↔ leaf.shows = false := by
  cases leaf <;> simp [render, shows]

theorem text_eq_empty_iff (width : Nat) (leaves : List Leaf) :
    text width leaves = "" ↔ ∀ leaf ∈ leaves, leaf.shows = false := by
  induction leaves with
  | nil => simp [text]
  | cons leaf leaves induction =>
      have split : text width (leaf :: leaves) = leaf.render width ++ text width leaves := by
        simp [text]
      rw [split, String.append_eq_empty_iff, induction, render_eq_empty_iff,
        List.forall_mem_cons]

/-- A leaf that shows and is no bare break ends with a character inside a line: the last
one of its text, or a blank. -/
theorem stops_in_line_render {width : Nat} {leaf : Leaf} (inLine : leaf.InLine)
    (shown : leaf.shows = true) (notBare : leaf.isBareBreak width = false) :
    StopsInLine (leaf.render width) := by
  cases leaf with
  | words content =>
      have present : content.toList ≠ [] := by simpa [shows] using shown
      refine ⟨content.toList.getLast present, List.getLast?_eq_some_getLast present, ?_⟩
      intro ends
      exact inLine (ends ▸ List.getLast_mem present)
  | lineBreak depth =>
      have indented : depth * width ≠ 0 := by simpa [isBareBreak] using notBare
      apply StopsInLine.append
      refine ⟨' ', ?_, by decide⟩
      simp [spaces, List.getLast?_replicate, indented]

/-- What one more leaf does to the end of the text. -/
theorem newlines_at_end_append_render (width : Nat) (front : String) {leaf : Leaf}
    (inLine : leaf.InLine) :
    newlinesAtEnd (front ++ leaf.render width) =
      if leaf.isBareBreak width then newlinesAtEnd front + 1
      else if leaf.shows then 0
      else newlinesAtEnd front := by
  by_cases bare : leaf.isBareBreak width = true
  · have isNewline : leaf.render width = "\n" := by
      cases leaf with
      | words content => cases bare
      | lineBreak depth =>
          have outermost : depth * width = 0 := by simpa [isBareBreak] using bare
          rw [render, outermost]
          rfl
    rw [if_pos bare, isNewline, Text.newlines_at_end_newline]
  · rw [if_neg bare]
    by_cases shown : leaf.shows = true
    · have stops := stops_in_line_render inLine shown (Bool.eq_false_iff.mpr bare)
      rw [if_pos shown, Text.newlines_at_end_of_stops_in_line (stops.append front)]
    · have blank := (render_eq_empty_iff width leaf).mpr (Bool.eq_false_iff.mpr shown)
      rw [if_neg shown, blank, String.append_empty]

/-- What one more leaf does to the bare breaks at the end. -/
theorem bare_breaks_at_end_concat (width : Nat) (leaves : List Leaf) (leaf : Leaf) :
    bareBreaksAtEnd width (leaves ++ [leaf]) =
      if leaf.isBareBreak width then bareBreaksAtEnd width leaves + 1
      else if leaf.shows then 0
      else bareBreaksAtEnd width leaves := by
  cases shown : leaf.shows with
  | false =>
      have notBare : leaf.isBareBreak width = false := by
        cases leaf with
        | words content => rfl
        | lineBreak depth => cases shown
      simp [bareBreaksAtEnd, shown, notBare]
  | true =>
      rw [bareBreaksAtEnd, List.filter_append, List.filter_cons_of_pos shown, List.filter_nil,
        List.rtakeWhile_concat]
      split <;> simp [bareBreaksAtEnd]

theorem bare_breaks_at_end_of_hidden (width : Nat) {leaves : List Leaf}
    (hidden : ∀ leaf ∈ leaves, leaf.shows = false) : bareBreaksAtEnd width leaves = 0 := by
  have nothing : leaves.filter shows = [] := by simpa using hidden
  rw [bareBreaksAtEnd, nothing]
  rfl

/-- The ends of line at the end of a row of leaves are its last bare breaks. -/
theorem newlines_at_end_text (width : Nat) {leaves : List Leaf}
    (inLine : ∀ leaf ∈ leaves, leaf.InLine) :
    newlinesAtEnd (text width leaves) = bareBreaksAtEnd width leaves := by
  -- A text is judged from its end, so the row grows there.
  induction leaves using List.reverseRecOn with
  | nil => rfl
  | append_singleton leaves leaf induction =>
      rw [List.forall_mem_append, List.forall_mem_singleton] at inLine
      have split : text width (leaves ++ [leaf]) = text width leaves ++ leaf.render width := by
        simp [text]
      rw [split, newlines_at_end_append_render width _ inLine.2, bare_breaks_at_end_concat,
        induction inLine.1]

end Leaf

theorem print_eq_empty_iff (doc : Doc) (width : Nat) :
    doc.print width = "" ↔ ∀ leaf ∈ doc.leaves 0, leaf.shows = false := by
  rw [print_eq_end_line_text, end_line_eq_empty_iff, Leaf.text_eq_empty_iff]

theorem newlines_at_end_print {doc : Doc} (width : Nat) (inLine : doc.TextsInLine) :
    newlinesAtEnd (doc.print width) =
      if doc.print width = "" then 0
      else max 1 (Leaf.bareBreaksAtEnd width (doc.leaves 0)) := by
  simp only [print_eq_end_line_text, end_line_eq_empty_iff]
  rw [Text.newlines_at_end_end_line, Leaf.newlines_at_end_text width inLine]

theorem ends_once_print_of_stops_in_line {doc : Doc} {width : Nat}
    (stops : StopsInLine (doc.layout width 0)) : EndsOnce (doc.print width) := by
  rw [print_eq_end_line_layout, stops.end_line, Text.ends_once_iff, Text.newlines_at_end_newline,
    Text.newlines_at_end_of_stops_in_line stops]

theorem stops_in_line_join {α : Type} (width : Nat) (toDoc : α → Doc) {items : List α}
    (present : items ≠ []) (stop : ∀ item, StopsInLine ((toDoc item).layout width 0)) :
    StopsInLine ((join (items.map toDoc) blankLine).layout width 0) := by
  obtain ⟨item, items, rfl⟩ := List.exists_cons_of_ne_nil present
  rw [layout_join_blank_line, List.map_map, List.map_cons]
  apply stops_in_line_intercalate
  rw [← List.map_cons, List.forall_mem_map]
  exact fun item _ => stop item

end Doc

namespace Native

open Text (EndsOnce)

theorem InnerItems.stops_in_line_header (width : Nat) (items : InnerItems) :
    Doc.StopsInLine (items.header.layout width 0) := by
  rw [header]
  cases items.conversion with
  | none => exact Doc.stops_in_line_join width _ (by simp) (Item.stops_in_line_declaration width 0)
  | some conversion =>
      simp only [Doc.layout_concat, List.map_cons, List.map_nil, String.join_cons,
        String.join_nil, String.append_empty]
      exact ((conversion.stops_in_line_declaration width 0).append _).append _

/-- The texts of both blocks. -/
def EnumSupport.texts (support : EnumSupport) : List String :=
  [support.inner.header, support.inner.implementation, support.outer.header,
    support.outer.implementation]

theorem ends_once_enum_support (typeName : String) (count : Nat) (options : Options) :
    ∀ text ∈ (enumSupport typeName count options).texts, EndsOnce text := by
  simp only [EnumSupport.texts, enumSupport, List.forall_mem_cons]
  refine ⟨?_, ?_, ?_, ?_, by simp⟩ <;> apply Doc.ends_once_print_of_stops_in_line
  · exact InnerItems.stops_in_line_header _ _
  · exact Doc.stops_in_line_join _ _ (by simp [InnerItems.defined])
      (Item.stops_in_line_definition _ 0)
  · exact Doc.stops_in_line_join _ _ (by simp [outerItems]) (Item.stops_in_line_declaration _ 0)
  · exact Doc.stops_in_line_join _ _ (by simp [outerItems]) (Item.stops_in_line_definition _ 0)

end Native

namespace Doc

open Text (newlinesAtEnd EndsOnce)

/-- A document whose texts do not break their lines prints nothing if none of its leaves
shows. Otherwise its text ends with as many ends of line as bare breaks come last, and
with one if none does. So it ends with exactly one unless two or more bare breaks come
last. The texts of the support of an enum all end with exactly one, whatever the enum is
called. -/
theorem print_ends_once_iff_no_two_bare_breaks (doc : Doc) (width : Nat)
    (inLine : doc.TextsInLine) :
    (doc.print width = "" ↔ ∀ leaf ∈ doc.leaves 0, leaf.shows = false) ∧
    (doc.print width ≠ "" →
      newlinesAtEnd (doc.print width) =
        max 1 (Leaf.bareBreaksAtEnd width (doc.leaves 0))) ∧
    (doc.print width = "" ∨ EndsOnce (doc.print width) ↔
      Leaf.bareBreaksAtEnd width (doc.leaves 0) ≤ 1) ∧
    ∀ typeName count options,
      ∀ text ∈ (Native.enumSupport typeName count options).texts, EndsOnce text := by
  have counted := newlines_at_end_print width inLine
  refine ⟨doc.print_eq_empty_iff width, ?_, ?_, Native.ends_once_enum_support⟩
  · intro present
    rw [counted, if_neg present]
  · by_cases blank : doc.print width = ""
    · have hidden := (doc.print_eq_empty_iff width).mp blank
      simp [blank, Leaf.bare_breaks_at_end_of_hidden width hidden]
    · rw [or_iff_right blank, Text.ends_once_iff, counted, if_neg blank]
      omega

end Doc

namespace Sample

/-- The last of the joined documents prints nothing. -/
def openGap : Doc := .join [.text "a;", .empty] .blankLine

theorem openGap_ends_twice :
    openGap.TextsInLine ∧ openGap.print 2 = "a;\n\n" ∧
      ¬ (openGap.print 2 = "" ∨ Text.EndsOnce (openGap.print 2)) := by
  have inLine : openGap.TextsInLine := by decide
  refine ⟨inLine, ?_, ?_⟩
  · rw [Doc.print_eq_end_line_layout]
    decide
  · rw [(Doc.print_ends_once_iff_no_two_bare_breaks openGap 2 inLine).2.2.1]
    decide

end Sample

end EnumLowering
