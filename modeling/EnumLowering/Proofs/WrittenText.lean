import EnumLowering.Json.Tree
import Mathlib.Algebra.Group.Nat.Defs
import Mathlib.Tactic.IntervalCases
import Mathlib.Tactic.SplitIfs

/-!
A written value is its own tree. The text of a value is read one character at a time:
the scanner finds the lexemes of the value in it, whatever blanks the style puts between
them, and the builder puts them together to the tree of the value. A number is complete
only when something follows that cannot belong to it, so what stands behind a value is
part of every statement.
-/

namespace EnumLowering.Json

/-! Scanning -/

/-- The lexemes of a text, behind those that were found before it. -/
def scan (found : List Token) (text : List Char) : List Token :=
  (text.foldl Scanner.step { found }).finish

theorem scan_blank (found : List Token) (text : List Char) {c : Char}
    (blank : Scanner.isBlank c = true) : scan found (c :: text) = scan found text := by
  have stays : Scanner.step { found } c = { found } := by
    unfold Scanner.step Scanner.start
    exact if_pos blank
  rw [scan, List.foldl_cons, stays, scan]

theorem scan_blanks (found : List Token) (blanks text : List Char)
    (blank : ∀ c ∈ blanks, Scanner.isBlank c = true) :
    scan found (blanks ++ text) = scan found text := by
  induction blanks with
  | nil => rfl
  | cons c blanks induction =>
      rw [List.cons_append, scan_blank found _ (blank c List.mem_cons_self)]
      exact induction fun later member => blank later (List.mem_cons_of_mem _ member)

theorem step_unit {c : Char} {digit : Nat} (hex : Number.hexDigit? c = some digit)
    (found : List Token) (content : Content) (left value : Nat) :
    Scanner.step { found, mode := .unit content (left + 1) value } c =
      { found, mode := .unit content left (16 * value + digit) } := by
  unfold Scanner.step
  rw [hex]

theorem step_last_unit {c : Char} {digit : Nat} (hex : Number.hexDigit? c = some digit)
    (found : List Token) (content : Content) (value : Nat) :
    Scanner.step { found, mode := .unit content 0 value } c =
      { found, mode := .string (content.pushUnit (16 * value + digit)) } := by
  unfold Scanner.step
  rw [hex]

theorem push_unit_small (characters : List Char) {unit : Nat} (small : unit < 0xD800) :
    Content.pushUnit { characters } unit = { characters := Char.ofNat unit :: characters } := by
  have notLow : (0xDC00 ≤ unit && unit < 0xE000) = false := by simp; omega
  have notHigh : (0xD800 ≤ unit && unit < 0xDC00) = false := by simp; omega
  unfold Content.pushUnit
  rw [notLow, notHigh]
  rfl

/-- A character of a string, escaped or not, is taken into the string. -/
theorem foldl_escape_char (found : List Token) (characters : List Char) (c : Char) :
    (escapeChar c).foldl Scanner.step { found, mode := .string { characters } } =
      { found, mode := .string { characters := c :: characters } } := by
  unfold escapeChar
  split_ifs with quote backslash backspace tab newline feed carriage control
  · rw [quote]; rfl
  · rw [backslash]; rfl
  · rw [backspace]; rfl
  · rw [tab]; rfl
  · rw [newline]; rfl
  · rw [feed]; rfl
  · rw [carriage]; rfl
  · -- A control character is written by its number, in two digits.
    have high := Number.hex_digit_of_digit_char (c.toNat / 16) (by omega)
    have low := Number.hex_digit_of_digit_char (c.toNat % 16) (by omega)
    have value : 16 * (16 * 0 + c.toNat / 16) + c.toNat % 16 = c.toNat := by omega
    change [Nat.digitChar (c.toNat / 16), Nat.digitChar (c.toNat % 16)].foldl Scanner.step
      { found, mode := .unit { characters } 1 0 } = _
    rw [List.foldl_cons, List.foldl_cons, List.foldl_nil, step_unit high, step_last_unit low,
      value, push_unit_small _ (by omega), Char.ofNat_toNat]
  · unfold List.foldl Scanner.step
    simp only [quote, backslash, control, if_false, List.foldl_nil]
    rfl

theorem foldl_escaped (found : List Token) (characters text rest : List Char) :
    (text.foldr (fun c written => escapeChar c ++ written) rest).foldl Scanner.step
        { found, mode := .string { characters } } =
      rest.foldl Scanner.step
        { found, mode := .string { characters := text.reverse ++ characters } } := by
  induction text generalizing characters with
  | nil => rfl
  | cons c text induction =>
      rw [List.foldr_cons, List.foldl_append, foldl_escape_char, induction, List.reverse_cons,
        List.append_assoc]
      rfl

theorem scan_string (found : List Token) (text : String) (rest : List Char) :
    scan found (writeString text rest) = scan (.string (some text) :: found) rest := by
  have opened : Scanner.step { found } '"' = { found, mode := .string {} } := rfl
  have closed : Scanner.step
      { found, mode := .string { characters := text.toList.reverse ++ [] } } '"' =
        { found := .string (some text) :: found } := by
    rw [List.append_nil]
    change Scanner.emit _ (.string (some (String.ofList text.toList.reverse.reverse))) = _
    rw [List.reverse_reverse, String.ofList_toList]
    rfl
  rw [scan, writeString, List.foldl_cons, opened, foldl_escaped, List.foldl_cons, closed, scan]

/-! Numbers -/

/-- Where a text goes on like this, a number in front of it is complete. -/
def EndsNumber (rest : List Char) : Prop :=
  ∀ c ∈ rest.head?, Number.digit? c = none ∧ c ≠ '.' ∧ c ≠ 'e' ∧ c ≠ 'E'

theorem ends_number_cons {c : Char} (rest : List Char)
    (terminator : Number.digit? c = none ∧ c ≠ '.' ∧ c ≠ 'e' ∧ c ≠ 'E') :
    EndsNumber (c :: rest) := by
  intro first isFirst
  obtain rfl : c = first := by simpa using isFirst
  exact terminator

theorem ends_number_blanks {blanks rest : List Char}
    (blank : ∀ c ∈ blanks, Scanner.isBlank c = true) (ends : EndsNumber rest) :
    EndsNumber (blanks ++ rest) := by
  cases blanks with
  | nil => exact ends
  | cons c blanks =>
      have options := blank c List.mem_cons_self
      simp only [Scanner.isBlank, Bool.or_eq_true, decide_eq_true_eq] at options
      refine ends_number_cons _ ?_
      rcases options with ((rfl | rfl) | rfl) | rfl <;> decide

/-- The phase of a number that has no point or exponent yet. -/
def wholePhase (value : Nat) : NumberPhase := if value = 0 then .zero else .whole

/-- The digits of a number are read one by one from any state in which the first of them
opens the number. -/
theorem foldl_toDigits (opened : Scanner) (found : List Token) (isNegative : Bool)
    (opens : ∀ digit < 10, opened.step (Nat.digitChar digit) =
      { found, mode := .number (wholePhase digit) { isNegative, whole := [digit] } })
    (value : Nat) :
    ∃ whole, Number.digitsValue whole.reverse = value ∧
      (Nat.toDigits 10 value).foldl Scanner.step opened =
        { found, mode := .number (wholePhase value) { isNegative, whole } } := by
  induction value using Nat.strongRecOn with
  | ind value induction =>
      rw [Nat.toDigits_eq_if (by decide)]
      by_cases small : value < 10
      · refine ⟨[value], by simp [Number.digitsValue], ?_⟩
        rw [if_pos small]
        exact opens value small
      · obtain ⟨whole, isValue, read⟩ := induction (value / 10) (by omega)
        have digit := Number.digit_of_digit_char (value % 10) (Nat.mod_lt _ (by decide))
        have before : wholePhase (value / 10) = .whole := if_neg (by omega)
        have after : wholePhase value = .whole := if_neg (by omega)
        refine ⟨value % 10 :: whole, ?_, ?_⟩
        · rw [List.reverse_cons, Number.digits_value_concat, isValue]
          omega
        · rw [if_neg small, List.foldl_append, read, before, after, List.foldl_cons,
            List.foldl_nil]
          unfold Scanner.step NumberPhase.step
          rw [digit]

theorem finish_whole_number (found : List Token) (value : Nat) (digits : Digits)
    {rest : List Char} (ends : EndsNumber rest) :
    (rest.foldl Scanner.step { found, mode := .number (wholePhase value) digits }).finish =
      scan (.number digits.integer :: found) rest := by
  have finished : (wholePhase value).finish? digits = some digits.integer := by
    unfold wholePhase
    split_ifs <;> rfl
  cases rest with
  | nil =>
      unfold scan Scanner.finish
      simp only [List.foldl_nil]
      rw [finished]
  | cons c rest =>
      obtain ⟨noDigit, noPoint, noMark, noLargeMark⟩ := ends c rfl
      have ended : (wholePhase value).step digits c = .ends := by
        unfold wholePhase
        split_ifs <;> simp [NumberPhase.step, noDigit, noPoint, noMark, noLargeMark]
      have stepped : Scanner.step { found, mode := .number (wholePhase value) digits } c =
          Scanner.step { found := .number digits.integer :: found } c := by
        unfold Scanner.step
        simp only [ended, finished]
        rfl
      rw [scan, List.foldl_cons, List.foldl_cons, stepped]

/-- The integers that a text carries exactly: those of 64 bits, signed or not. -/
def IsExactInteger (value : Int) : Prop := Int64.minValue.toInt ≤ value ∧ value < UInt64.size

theorem scan_integer (found : List Token) {value : Int} (exact : IsExactInteger value)
    {rest : List Char} (ends : EndsNumber rest) :
    scan found (Number.decimalInt value ++ rest) =
      scan (.number (.integer value) :: found) rest := by
  obtain ⟨low, high⟩ := exact
  cases value with
  | ofNat value =>
      have opens : ∀ digit < 10, Scanner.step { found } (Nat.digitChar digit) =
          { found, mode := .number (wholePhase digit) { whole := [digit] } } := by
        intro digit small
        interval_cases digit <;> rfl
      obtain ⟨whole, isValue, read⟩ := foldl_toDigits { found } found false opens value
      have fits : value < UInt64.size := Int.ofNat_lt.mp high
      have integer : Digits.integer { isNegative := false, whole } = .integer value := by
        simp only [Digits.integer, isValue, fits, if_true, Bool.false_eq_true, if_false]
      rw [scan, Number.decimalInt, List.foldl_append, read, finish_whole_number _ _ _ ends, integer]
      rfl
  | negSucc value =>
      let opened : Scanner := { found, mode := .number .sign { isNegative := true } }
      have opens : ∀ digit < 10, opened.step (Nat.digitChar digit) =
          { found
            mode := .number (wholePhase digit) { isNegative := true, whole := [digit] } } := by
        intro digit small
        interval_cases digit <;> rfl
      obtain ⟨whole, isValue, read⟩ := foldl_toDigits opened found true opens (value + 1)
      have bound : Int64.minValue.toInt = -9223372036854775808 := by decide
      have power : Nat.pow 2 63 = 9223372036854775808 := rfl
      have fits : (value + 1 = 0 || Nat.pow 2 63 < value + 1) = false := by
        simp only [power, Bool.or_eq_false_iff, decide_eq_false_iff_not]
        omega
      have integer : Digits.integer { isNegative := true, whole } = .integer (.negSucc value) := by
        simp only [Digits.integer, isValue, fits, if_true, Bool.false_eq_true, if_false]
        rfl
      have sign : Scanner.step { found } '-' = opened := rfl
      rw [scan, Number.decimalInt, List.cons_append, List.foldl_cons, sign, List.foldl_append,
        read, finish_whole_number _ _ _ ends, integer]

/-! Values -/

mutual

/-- The lexemes of a value, in the order of its text. -/
def lexemes : Json → List Token
  | .null => [.null]
  | .boolean value => [.boolean value]
  | .integer value => [.number (.integer value)]
  | .string value => [.string (some value)]
  | .array [] => [.openArray, .closeArray]
  | .array (item :: items) =>
      .openArray :: (lexemes item ++ (itemLexemes items ++ [.closeArray]))
  | .object [] => [.openObject, .closeObject]
  | .object ((key, value) :: entries) =>
      .openObject :: .string (some key) :: .colon ::
        (lexemes value ++ (entryLexemes entries ++ [.closeObject]))

/-- Further items, each behind a comma. -/
def itemLexemes : List Json → List Token
  | [] => []
  | item :: items => .comma :: (lexemes item ++ itemLexemes items)

def entryLexemes : List (String × Json) → List Token
  | [] => []
  | (key, value) :: entries =>
      .comma :: .string (some key) :: .colon :: (lexemes value ++ entryLexemes entries)

end

mutual

/-- Every integer in the value is carried exactly by its text. -/
def IsExact : Json → Prop
  | .integer value => IsExactInteger value
  | .array items => ItemsExact items
  | .object entries => EntriesExact entries
  | .null | .boolean _ | .string _ => True

def ItemsExact : List Json → Prop
  | [] => True
  | item :: items => IsExact item ∧ ItemsExact items

def EntriesExact : List (String × Json) → Prop
  | [] => True
  | (_, value) :: entries => IsExact value ∧ EntriesExact entries

end

/-- A style that puts only blanks between the parts of a value. -/
structure Style.IsBlank (style : Style) : Prop where
  gap : ∀ depth, ∀ c ∈ style.gap depth, Scanner.isBlank c = true
  colon : ∃ blanks, style.colon = ':' :: blanks ∧ ∀ c ∈ blanks, Scanner.isBlank c = true

theorem Style.compact_is_blank : Style.compact.IsBlank where
  gap _ _ member := absurd member List.not_mem_nil
  colon := ⟨[], rfl, fun _ member => absurd member List.not_mem_nil⟩

theorem Style.pretty_is_blank : Style.pretty.IsBlank where
  gap depth c member := by
    rcases List.mem_cons.mp member with rfl | indent
    · rfl
    · rw [List.eq_of_mem_replicate indent]
      rfl
  colon := ⟨[' '], rfl, fun c member => by rw [List.mem_singleton.mp member]; rfl⟩

section

variable {style : Style} (blank : style.IsBlank)
include blank

theorem scan_gap (found : List Token) (depth : Nat) (text : List Char) :
    scan found (style.gap depth ++ text) = scan found text :=
  scan_blanks found _ text (blank.gap depth)

theorem scan_colon (found : List Token) (text : List Char) :
    scan found (style.colon ++ text) = scan (.colon :: found) text := by
  obtain ⟨blanks, isColon, areBlank⟩ := blank.colon
  rw [isColon]
  exact scan_blanks (.colon :: found) blanks text areBlank

theorem ends_number_gap (depth : Nat) {rest : List Char} (ends : EndsNumber rest) :
    EndsNumber (style.gap depth ++ rest) :=
  ends_number_blanks (blank.gap depth) ends

end

theorem scan_comma (found : List Token) (text : List Char) :
    scan found (',' :: text) = scan (.comma :: found) text := rfl

theorem ends_number_write_items (style : Style) (depth : Nat) (items : List Json)
    {rest : List Char} (ends : EndsNumber rest) :
    EndsNumber (writeItems style depth items rest) := by
  cases items with
  | nil => rwa [writeItems]
  | cons item items => rw [writeItems]; exact ends_number_cons _ (by decide)

theorem ends_number_write_entries (style : Style) (depth : Nat) (entries : List (String × Json))
    {rest : List Char} (ends : EndsNumber rest) :
    EndsNumber (writeEntries style depth entries rest) := by
  cases entries with
  | nil => rwa [writeEntries]
  | cons entry entries => rw [writeEntries]; exact ends_number_cons _ (by decide)

mutual

/-- The scanner finds the lexemes of a value at the front of its text. -/
theorem scan_write {style : Style} (blank : style.IsBlank) (depth : Nat) (found : List Token)
    {rest : List Char} (ends : EndsNumber rest) : ∀ json : Json, json.IsExact →
      scan found (write style depth json rest) = scan (json.lexemes.reverse ++ found) rest
  | .null, _ => by rw [write, lexemes]; rfl
  | .boolean true, _ => by rw [write, lexemes]; rfl
  | .boolean false, _ => by rw [write, lexemes]; rfl
  | .integer value, exact => by
      rw [IsExact] at exact
      rw [write, lexemes, scan_integer found exact ends]
      rfl
  | .string value, _ => by
      rw [write, lexemes, scan_string]
      rfl
  | .array [], _ => by rw [write, lexemes]; rfl
  | .array (item :: items), exact => by
      rw [IsExact, ItemsExact] at exact
      have closing : EndsNumber (style.gap depth ++ ']' :: rest) :=
        ends_number_gap blank depth (ends_number_cons rest (by decide))
      have opened (text : List Char) :
          scan found ('[' :: text) = scan (.openArray :: found) text := rfl
      have closed (found : List Token) :
          scan found (']' :: rest) = scan (.closeArray :: found) rest := rfl
      rw [write, opened, scan_gap blank,
        scan_write blank _ _ (ends_number_write_items style _ items closing) item exact.1,
        scan_write_items blank _ _ closing items exact.2, scan_gap blank, closed, lexemes]
      simp only [List.reverse_cons, List.reverse_append, List.reverse_nil, List.append_assoc,
        List.nil_append, List.cons_append]
  | .object [], _ => by rw [write, lexemes]; rfl
  | .object ((key, value) :: entries), exact => by
      rw [IsExact, EntriesExact] at exact
      have closing : EndsNumber (style.gap depth ++ '\x7d' :: rest) :=
        ends_number_gap blank depth (ends_number_cons rest (by decide))
      have opened (text : List Char) :
          scan found ('\x7b' :: text) = scan (.openObject :: found) text := rfl
      have closed (found : List Token) :
          scan found ('\x7d' :: rest) = scan (.closeObject :: found) rest := rfl
      rw [write, opened, scan_gap blank, scan_string, scan_colon blank,
        scan_write blank _ _ (ends_number_write_entries style _ entries closing) value exact.1,
        scan_write_entries blank _ _ closing entries exact.2, scan_gap blank, closed, lexemes]
      simp only [List.reverse_cons, List.reverse_append, List.reverse_nil, List.append_assoc,
        List.nil_append, List.cons_append]

theorem scan_write_items {style : Style} (blank : style.IsBlank) (depth : Nat)
    (found : List Token) {rest : List Char} (ends : EndsNumber rest) :
    ∀ items : List Json, ItemsExact items →
      scan found (writeItems style depth items rest) =
        scan ((itemLexemes items).reverse ++ found) rest
  | [], _ => by rw [writeItems, itemLexemes]; rfl
  | item :: items, exact => by
      rw [ItemsExact] at exact
      rw [writeItems, scan_comma, scan_gap blank,
        scan_write blank _ _ (ends_number_write_items style _ items ends) item exact.1,
        scan_write_items blank _ _ ends items exact.2, itemLexemes]
      simp only [List.reverse_cons, List.reverse_append, List.append_assoc, List.nil_append,
        List.cons_append]

theorem scan_write_entries {style : Style} (blank : style.IsBlank) (depth : Nat)
    (found : List Token) {rest : List Char} (ends : EndsNumber rest) :
    ∀ entries : List (String × Json), EntriesExact entries →
      scan found (writeEntries style depth entries rest) =
        scan ((entryLexemes entries).reverse ++ found) rest
  | [], _ => by rw [writeEntries, entryLexemes]; rfl
  | (key, value) :: entries, exact => by
      rw [EntriesExact] at exact
      rw [writeEntries, scan_comma, scan_gap blank, scan_string, scan_colon blank,
        scan_write blank _ _ (ends_number_write_entries style _ entries ends) value exact.1,
        scan_write_entries blank _ _ ends entries exact.2, entryLexemes]
      simp only [List.reverse_cons, List.reverse_append, List.append_assoc, List.nil_append,
        List.cons_append]

end

/-! Building -/

/-- No value starts with the end of an array. -/
theorem foldl_first_item (json : Json) (stack : List Frame) (rest : List Token) :
    (json.lexemes ++ rest).foldl Builder.step (.wantsFirstItem stack) =
      (json.lexemes ++ rest).foldl Builder.step (.wantsValue (.items [] :: stack)) := by
  cases json with
  | null | boolean | integer | string => rw [lexemes]; rfl
  | array items => cases items <;> (rw [lexemes]; rfl)
  | object entries => cases entries <;> (rw [lexemes]; rfl)

mutual

/-- Where a value is wanted, its lexemes put its tree in place. -/
theorem foldl_lexemes (stack : List Frame) (rest : List Token) : ∀ json : Json,
    (json.lexemes ++ rest).foldl Builder.step (.wantsValue stack) =
      rest.foldl Builder.step (Builder.place json.toTree stack)
  | .null => by rw [lexemes, toTree]; rfl
  | .boolean value => by rw [lexemes, toTree]; rfl
  | .integer value => by rw [lexemes, toTree]; rfl
  | .string value => by rw [lexemes, toTree]; rfl
  | .array [] => by rw [lexemes, toTree, toTreeItems]; rfl
  | .array (item :: items) => by
      have opened : Builder.step (.wantsValue stack) .openArray = .wantsFirstItem stack := rfl
      rw [lexemes, List.cons_append, List.append_assoc, List.foldl_cons, opened, foldl_first_item,
        foldl_lexemes _ _ item, List.append_assoc]
      exact foldl_item_lexemes [item.toTree] stack rest items
  | .object [] => by rw [lexemes, toTree, toTreeEntries]; rfl
  | .object ((key, value) :: entries) => by
      rw [lexemes]
      change ((lexemes value ++ _) ++ rest).foldl Builder.step
        (.wantsValue (.entry [] (some key) :: stack)) = _
      rw [List.append_assoc, foldl_lexemes _ _ value, List.append_assoc]
      exact foldl_entry_lexemes [(some key, value.toTree)] stack rest entries

theorem foldl_item_lexemes (before : List Tree) (stack : List Frame) (rest : List Token) :
    ∀ items : List Json,
      (itemLexemes items ++ (Token.closeArray :: rest)).foldl Builder.step
          (.wantsComma (.items before) stack) =
        rest.foldl Builder.step
          (Builder.place (.array (before.reverse ++ toTreeItems items) true) stack)
  | [] => by
      rw [itemLexemes, toTreeItems, List.append_nil]
      rfl
  | item :: items => by
      rw [itemLexemes, toTreeItems]
      change ((lexemes item ++ _) ++ _).foldl Builder.step
        (.wantsValue (.items before :: stack)) = _
      rw [List.append_assoc, foldl_lexemes _ _ item]
      refine (foldl_item_lexemes (item.toTree :: before) stack rest items).trans ?_
      rw [List.reverse_cons, List.append_assoc]
      rfl

theorem foldl_entry_lexemes (before : List (Option String × Tree)) (stack : List Frame)
    (rest : List Token) : ∀ entries : List (String × Json),
      (entryLexemes entries ++ (Token.closeObject :: rest)).foldl Builder.step
          (.wantsComma (.entries before) stack) =
        rest.foldl Builder.step
          (Builder.place (.object (before.reverse ++ toTreeEntries entries) true) stack)
  | [] => by
      rw [entryLexemes, toTreeEntries, List.append_nil]
      rfl
  | (key, value) :: entries => by
      rw [entryLexemes, toTreeEntries]
      change ((lexemes value ++ _) ++ _).foldl Builder.step
        (.wantsValue (.entry before (some key) :: stack)) = _
      rw [List.append_assoc, foldl_lexemes _ _ value]
      refine (foldl_entry_lexemes ((some key, value.toTree) :: before) stack rest entries).trans ?_
      rw [List.reverse_cons, List.append_assoc]
      rfl

end

/-- A text that a value was written to has the tree of that value, and nothing else. -/
theorem tree_of_text_write {style : Style} (blank : style.IsBlank) {json : Json}
    (exact : json.IsExact) :
    treeOfText (String.ofList (json.write style 0 [])) = (json.toTree, true) := by
  have atEnd : EndsNumber [] := fun c isFirst => by simp at isFirst
  have found : tokens (json.write style 0 []) = json.lexemes := by
    refine (scan_write blank 0 [] atEnd json exact).trans ?_
    rw [List.append_nil]
    exact List.reverse_reverse _
  have built := foldl_lexemes [] [] json
  rw [List.append_nil] at built
  rw [treeOfText, String.toList_ofList, found, treeOfTokens, built]
  rfl

end EnumLowering.Json
