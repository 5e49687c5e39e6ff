import EnumLowering.Command.Run
import EnumLowering.Proofs.StackPrinter

/-!
The width of a nesting level. Printed with two widths, a document gives the same lines up
to the blanks at their beginnings, and both texts end in the same way. What a part of a
document adds to a line depends on whether the line has anything but blanks so far, so
texts are compared from both of these states.
-/

namespace EnumLowering

namespace Text

/-- The lines of a text. An end of line at the end of the text opens one more, empty line. -/
def linesOf (text : String) : List (List Char) := text.toList.splitOn '\n'

def withoutMargin (line : List Char) : List Char := line.dropWhile (· == ' ')

/-- The text with the blanks at the beginning of every line deleted. -/
def withoutMargins (text : String) : String :=
  String.ofList (['\n'].intercalate ((linesOf text).map withoutMargin))

theorem newline_not_mem_line {text line : List Char} (there : line ∈ text.splitOn '\n') :
    '\n' ∉ line := by
  induction text generalizing line with
  | nil =>
      rw [List.splitOn_nil, List.mem_singleton] at there
      simp [there]
  | cons c text induction =>
      obtain ⟨first, lines, split⟩ := List.exists_cons_of_ne_nil (List.splitOn_ne_nil '\n' text)
      rw [List.splitOn_cons_eq_if_modifyHead, split] at there
      rw [split] at induction
      by_cases ends : c = '\n'
      · simp only [ends, beq_self_eq_true, if_true, List.mem_cons] at there
        rcases there with rfl | later
        · exact List.not_mem_nil
        · exact induction (List.mem_cons.mpr later)
      · have other : (c == '\n') = false := by simpa using ends
        simp only [other, Bool.false_eq_true, if_false, List.modifyHead_cons,
          List.mem_cons] at there
        rcases there with rfl | later
        · rw [List.mem_cons, not_or]
          exact ⟨fun same => ends same.symm, induction List.mem_cons_self⟩
        · exact induction (List.mem_cons_of_mem _ later)

theorem lines_of_without_margins (text : String) :
    linesOf (withoutMargins text) = (linesOf text).map withoutMargin := by
  rw [withoutMargins, linesOf, String.toList_ofList, List.splitOn_intercalate]
  · intro line there
    obtain ⟨whole, isLine, rfl⟩ := List.mem_map.mp there
    exact fun inside => newline_not_mem_line isLine ((List.dropWhile_sublist _).mem inside)
  · simp [linesOf]

/-! Deleting the margins from front to back. -/

/-- The text without margins, where `inMargin` says whether the line that it continues has
only blanks so far. -/
def dropMargins : Bool → List Char → List Char
  | _, [] => []
  | inMargin, c :: rest =>
      if inMargin && c == ' ' then dropMargins true rest
      else c :: dropMargins (c == '\n') rest

/-- Whether the last line has only blanks. -/
def staysInMargin (inMargin : Bool) (text : List Char) : Bool :=
  text.foldl (fun inMargin c => inMargin && c == ' ' || c == '\n') inMargin

theorem stays_in_margin_append (inMargin : Bool) (front back : List Char) :
    staysInMargin inMargin (front ++ back) =
      staysInMargin (staysInMargin inMargin front) back :=
  List.foldl_append

theorem drop_margins_append (inMargin : Bool) (front back : List Char) :
    dropMargins inMargin (front ++ back) =
      dropMargins inMargin front ++ dropMargins (staysInMargin inMargin front) back := by
  induction front generalizing inMargin with
  | nil => rfl
  | cons c front induction =>
      rw [List.cons_append, dropMargins, dropMargins, staysInMargin, List.foldl_cons]
      by_cases deleted : (inMargin && c == ' ') = true
      · rw [if_pos deleted, if_pos deleted, deleted, Bool.true_or]
        exact induction true
      · rw [if_neg deleted, if_neg deleted, Bool.eq_false_iff.mpr deleted, Bool.false_or,
          List.cons_append]
        exact congrArg (c :: ·) (induction _)

theorem drop_margins_eq_intercalate (inMargin : Bool) (text : List Char) {line : List Char}
    {lines : List (List Char)} (split : text.splitOn '\n' = line :: lines) :
    dropMargins inMargin text =
      ['\n'].intercalate
        ((if inMargin then withoutMargin line else line) :: lines.map withoutMargin) := by
  -- The first line may continue a line that has begun, and keeps its blanks then.
  induction text generalizing inMargin line lines with
  | nil =>
      obtain ⟨rfl, rfl⟩ : [] = line ∧ [] = lines := by simpa using split
      cases inMargin <;> simp [dropMargins, withoutMargin]
  | cons c text induction =>
      obtain ⟨first, later, rest⟩ := List.exists_cons_of_ne_nil (List.splitOn_ne_nil '\n' text)
      rw [List.splitOn_cons_eq_if_modifyHead, rest] at split
      by_cases ends : c = '\n'
      · subst ends
        obtain ⟨rfl, rfl⟩ : [] = line ∧ first :: later = lines := by simpa using split
        simp [dropMargins, induction true rest, withoutMargin, List.intercalate]
      · obtain ⟨rfl, rfl⟩ : c :: first = line ∧ later = lines := by
          simpa [ends] using split
        have inLine : (c == '\n') = false := by simpa using ends
        by_cases deleted : (inMargin && c == ' ') = true
        · obtain ⟨rfl, rfl⟩ : inMargin = true ∧ c = ' ' := by simpa using deleted
          simp [dropMargins, induction true rest, withoutMargin]
        · have kept : (if inMargin then withoutMargin (c :: first) else c :: first) =
              c :: first := by
            cases inMargin with
            | false => rfl
            | true =>
                have visible : (c == ' ') = false := by simpa using deleted
                simp [withoutMargin, visible]
          rw [dropMargins, if_neg deleted, inLine, induction false rest, kept]
          cases later <;> simp [List.intercalate]

theorem toList_new_line (level : Nat) :
    ("\n" ++ Doc.spaces level).toList = '\n' :: List.replicate level ' ' := by
  simp [Doc.spaces]

theorem drop_margins_new_line (inMargin : Bool) (level : Nat) :
    dropMargins inMargin ("\n" ++ Doc.spaces level).toList = ['\n'] := by
  have blanks : dropMargins true (List.replicate level ' ') = [] := by
    induction level with
    | zero => rfl
    | succ level induction => exact induction
  rw [toList_new_line, dropMargins, if_neg (by simp)]
  exact congrArg _ blanks

theorem stays_in_margin_new_line (inMargin : Bool) (level : Nat) :
    staysInMargin inMargin ("\n" ++ Doc.spaces level).toList = true := by
  have blanks : staysInMargin true (List.replicate level ' ') = true := by
    induction level with
    | zero => rfl
    | succ level induction => exact induction
  rw [toList_new_line, staysInMargin, List.foldl_cons, beq_self_eq_true, Bool.or_true]
  exact blanks

theorem drop_margins_toList (text : String) :
    dropMargins true text.toList = (withoutMargins text).toList := by
  obtain ⟨line, lines, split⟩ :=
    List.exists_cons_of_ne_nil (List.splitOn_ne_nil '\n' text.toList)
  rw [drop_margins_eq_intercalate true text.toList split, withoutMargins, linesOf, split]
  simp

end Text

/-- A width of zero is refused, whatever the flags. -/
theorem OptionFlags.indent_width_pos {flags : OptionFlags} {options accepted : Options}
    (accepts : flags.applyTo options = .ok accepted) : 1 ≤ accepted.indentWidth := by
  have checked : ∃ memory, (if options.indentWidth = 0 then .error .noIndent
      else .ok { options with
        swiftFriendly := options.swiftFriendly || flags.swiftFriendly, memory }) =
        (.ok accepted : Except Failure Options) := by
    unfold OptionFlags.applyTo at accepts
    cases given : flags.memory with
    | none => exact ⟨options.memory, by simpa [given, bind, Except.bind] using accepts⟩
    | some name =>
        cases known : MemoryManagement.ofName? name with
        | none => simp [given, known, bind, Except.bind] at accepts
        | some memory => exact ⟨memory, by simpa [given, known, bind, Except.bind] using accepts⟩
  obtain ⟨memory, passed⟩ := checked
  by_cases zero : options.indentWidth = 0
  · simp [zero] at passed
  · rw [if_neg zero, Except.ok.injEq] at passed
    subst passed
    exact Nat.pos_of_ne_zero zero

namespace Doc

open Text (linesOf withoutMargin withoutMargins dropMargins staysInMargin)

/-- Two texts that only the margins of their lines tell apart, also behind a text that
they continue, and that end with the same character. -/
structure AgreeUpToMargins (left right : String) : Prop where
  kept : ∀ inMargin, dropMargins inMargin left.toList = dropMargins inMargin right.toList
  margin : ∀ inMargin, staysInMargin inMargin left.toList = staysInMargin inMargin right.toList
  last : left.toList.getLast? = right.toList.getLast?

namespace AgreeUpToMargins

theorem refl (text : String) : AgreeUpToMargins text text := ⟨fun _ => rfl, fun _ => rfl, rfl⟩

theorem append {left right left' right' : String} (front : AgreeUpToMargins left left')
    (back : AgreeUpToMargins right right') :
    AgreeUpToMargins (left ++ right) (left' ++ right') where
  kept inMargin := by
    rw [String.toList_append, String.toList_append, Text.drop_margins_append,
      Text.drop_margins_append, front.kept, front.margin, back.kept]
  margin inMargin := by
    rw [String.toList_append, String.toList_append, Text.stays_in_margin_append,
      Text.stays_in_margin_append, front.margin, back.margin]
  last := by
    rw [String.toList_append, String.toList_append, List.getLast?_append, List.getLast?_append,
      front.last, back.last]

/-- A new line looks the same at two depths if both or neither is the outermost. -/
theorem new_line {left right : Nat} (outermost : left = 0 ↔ right = 0) :
    AgreeUpToMargins ("\n" ++ spaces left) ("\n" ++ spaces right) where
  kept inMargin := by rw [Text.drop_margins_new_line, Text.drop_margins_new_line]
  margin inMargin := by rw [Text.stays_in_margin_new_line, Text.stays_in_margin_new_line]
  last := by
    rw [Text.toList_new_line, Text.toList_new_line, List.getLast?_cons, List.getLast?_cons,
      List.getLast?_replicate, List.getLast?_replicate]
    simp only [outermost]

theorem end_line {left right : String} (agree : AgreeUpToMargins left right) :
    AgreeUpToMargins (endLine left) (endLine right) := by
  -- Only the empty text has no last character.
  have blank : left = "" ↔ right = "" := by
    rw [← String.toList_eq_nil_iff, ← String.toList_eq_nil_iff, ← List.getLast?_eq_none_iff,
      agree.last, List.getLast?_eq_none_iff]
  rw [end_line_eq_ite, end_line_eq_ite, agree.last]
  by_cases unended : left ≠ "" ∧ right.toList.getLast? ≠ some '\n'
  · rw [if_pos unended, if_pos ⟨mt blank.mpr unended.1, unended.2⟩]
    exact agree.append (refl "\n")
  · rw [if_neg unended, if_neg (by rwa [ne_eq, ← blank])]
    exact agree

theorem without_margins_eq {left right : String} (agree : AgreeUpToMargins left right) :
    withoutMargins left = withoutMargins right := by
  apply String.toList_injective
  rw [← Text.drop_margins_toList, ← Text.drop_margins_toList, agree.kept]

end AgreeUpToMargins

mutual

theorem agree_layout {narrow wide : Nat} (narrowPos : 1 ≤ narrow) (widePos : 1 ≤ wide)
    (depth : Nat) (doc : Doc) :
    AgreeUpToMargins (doc.layout narrow (depth * narrow)) (doc.layout wide (depth * wide)) := by
  cases doc with
  | empty => exact .refl ""
  | text content => exact .refl content
  | hardline =>
      apply AgreeUpToMargins.new_line
      rw [Nat.mul_eq_zero, Nat.mul_eq_zero]
      omega
  | indent body =>
      have deeper := agree_layout narrowPos widePos (depth + 1) body
      rwa [Nat.succ_mul, Nat.succ_mul] at deeper
  | concat parts => exact agree_layouts narrowPos widePos depth parts

theorem agree_layouts {narrow wide : Nat} (narrowPos : 1 ≤ narrow) (widePos : 1 ≤ wide)
    (depth : Nat) (parts : List Doc) :
    AgreeUpToMargins (layouts narrow (depth * narrow) parts)
      (layouts wide (depth * wide) parts) := by
  cases parts with
  | nil => exact .refl ""
  | cons part parts =>
      exact (agree_layout narrowPos widePos depth part).append
        (agree_layouts narrowPos widePos depth parts)

end

theorem agree_print {narrow wide : Nat} (narrowPos : 1 ≤ narrow) (widePos : 1 ≤ wide)
    (doc : Doc) : AgreeUpToMargins (doc.print narrow) (doc.print wide) := by
  have agree := agree_layout narrowPos widePos 0 doc
  rw [Nat.zero_mul, Nat.zero_mul] at agree
  rw [print_eq_end_line_layout, print_eq_end_line_layout]
  exact agree.end_line

end Doc

namespace Sample

/-- Its last line is nothing but a margin. -/
def openMargin : Doc :=
  .concat [.text "a", .indent (.concat [.hardline, .text " b", .hardline])]

-- Without a margin the last line is missing.
example : (Text.linesOf (openMargin.print 0)).length = 3 ∧
    (Text.linesOf (openMargin.print 1)).length = 4 := by
  rw [Doc.print_eq_end_line_layout, Doc.print_eq_end_line_layout]
  decide

end Sample

end EnumLowering
