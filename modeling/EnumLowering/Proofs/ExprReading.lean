import EnumLowering.Proofs.PlainCode
import EnumLowering.Proofs.WrittenText

/-!
Reading expressions back. A reader goes through a text once, word by word and mark by
mark, and keeps the frames around the place that it has reached. It gives every plain
expression back from its text, so plain expressions with one text are equal.

A cast and the sign of a comparison also reach over an index behind their operand. Their
frames therefore stay open until a mark shows that the operand is complete.
-/

namespace EnumLowering.Native

/-! Lexemes -/

inductive Lexeme where
  | word (chars : List Char)
  | mark (c : Char)

/-- Words are the longest runs of word characters; any other character is a mark. -/
def lex : List Char → List Lexeme
  | [] => []
  | c :: rest =>
      if isWordChar c then
        match lex rest with
        | .word chars :: lexemes => .word (c :: chars) :: lexemes
        | lexemes => .word [c] :: lexemes
      else .mark c :: lex rest

theorem lex_mark {c : Char} (mark : isWordChar c = false) (rest : List Char) :
    lex (c :: rest) = .mark c :: lex rest := by
  simp [lex, mark]

theorem lex_word {chars : List Char} (present : chars ≠ []) (word : ∀ c ∈ chars, isWordChar c)
    {c : Char} (mark : isWordChar c = false) (rest : List Char) :
    lex (chars ++ c :: rest) = .word chars :: lex (c :: rest) := by
  induction chars with
  | nil => exact absurd rfl present
  | cons first chars induction =>
      obtain ⟨isWord, words⟩ := List.forall_mem_cons.mp word
      rw [List.cons_append, lex, if_pos isWord]
      cases chars with
      | nil => simp [lex_mark mark]
      | cons second chars => rw [induction (by simp) words]

/-! The reader -/

inductive Frame where
  | receiver
  | argument (receiver : Expr) (parts : List (String × Expr)) (label : String)
  | callArgument (function : String) (before : List Expr)
  | position (base : Expr)
  | castOperand (type : CType)
  | rightSide (comparison : Comparison) (left : Expr)

/-- What the reader has read of the innermost frame. -/
inductive Place where
  | start
  | read (value : Expr)
  /-- A complete value and a blank. -/
  | blank (value : Expr)
  | greater (left : Expr)
  /-- A blank has to follow, and then an operand. -/
  | gap
  | label (receiver : Expr) (parts : List (String × Expr)) (label : String)
  | castOpen
  | castType (name : String)
  | castBlank (name : String)
  | castPointer (name : String)
  | done (value : Expr)
  | stuck

structure Reader where
  frames : List Frame
  place : Place

namespace Reader

def stuck : Reader := ⟨[], .stuck⟩

def ofWord (chars : List Char) : Expr :=
  if chars = "nil".toList then .nil
  else
    match chars.mapM Number.digit? with
    | some digits => .int (Number.digitsValue digits)
    | none => .ident (String.ofList chars)

/-- Close the casts and comparisons whose last operand is complete. -/
def settle : List Frame → Expr → List Frame × Expr
  | .castOperand type :: frames, value => settle frames (.cast type value)
  | .rightSide comparison left :: frames, value => settle frames (.compare comparison left value)
  | frames, value => (frames, value)

/-- A mark behind a complete value. -/
def close : List Frame × Expr → Char → Reader
  | (frames, value), ' ' => ⟨frames, .blank value⟩
  | ([], value), ';' => ⟨[], .done value⟩
  | (.position base :: frames, value), ']' => ⟨frames, .read (.index base value)⟩
  | (.argument receiver parts label :: frames, value), ']' =>
      ⟨frames, .read (.keywordSend receiver (parts ++ [(label, value)]))⟩
  | (.callArgument function before :: frames, value), ')' =>
      ⟨frames, .read (.call function (before ++ [value]))⟩
  | (.callArgument function before :: frames, value), ',' =>
      ⟨.callArgument function (before ++ [value]) :: frames, .gap⟩
  | _, _ => stuck

/-- An opening mark belongs to the operand just read; any other one ends it. -/
def afterValue (frames : List Frame) (value : Expr) (c : Char) : Reader :=
  if c = '[' then ⟨.position value :: frames, .start⟩
  else if c = '(' then
    match value with
    | .ident function => ⟨.callArgument function [] :: frames, .start⟩
    | .nil => ⟨.callArgument "nil" [] :: frames, .start⟩
    | _ => stuck
  else close (settle frames value) c

def step : Reader → Lexeme → Reader
  | ⟨frames, .start⟩, .word chars => ⟨frames, .read (ofWord chars)⟩
  | ⟨frames, .start⟩, .mark '[' => ⟨.receiver :: frames, .start⟩
  | ⟨frames, .start⟩, .mark '(' => ⟨frames, .castOpen⟩
  | ⟨.callArgument function [] :: frames, .start⟩, .mark ')' =>
      ⟨frames, .read (.call function [])⟩
  | ⟨frames, .read value⟩, .mark c => afterValue frames value c
  | ⟨frames, .blank left⟩, .mark '<' => ⟨.rightSide .less left :: frames, .gap⟩
  | ⟨frames, .blank left⟩, .mark '>' => ⟨frames, .greater left⟩
  | ⟨frames, .greater left⟩, .mark '=' => ⟨.rightSide .greaterEq left :: frames, .gap⟩
  | ⟨frames, .gap⟩, .mark ' ' => ⟨frames, .start⟩
  | ⟨.receiver :: frames, .blank receiver⟩, .word label =>
      ⟨frames, .label receiver [] (String.ofList label)⟩
  | ⟨.argument receiver parts label :: frames, .blank value⟩, .word next =>
      ⟨frames, .label receiver (parts ++ [(label, value)]) (String.ofList next)⟩
  | ⟨frames, .label receiver [] label⟩, .mark ']' => ⟨frames, .read (.unarySend receiver label)⟩
  | ⟨frames, .label receiver parts label⟩, .mark ':' =>
      ⟨.argument receiver parts label :: frames, .start⟩
  | ⟨frames, .castOpen⟩, .word name => ⟨frames, .castType (String.ofList name)⟩
  | ⟨frames, .castType name⟩, .mark ')' => ⟨.castOperand (.value name) :: frames, .start⟩
  | ⟨frames, .castType name⟩, .mark ' ' => ⟨frames, .castBlank name⟩
  | ⟨frames, .castBlank name⟩, .mark '*' => ⟨frames, .castPointer name⟩
  | ⟨frames, .castPointer name⟩, .mark ')' => ⟨.castOperand (.object name) :: frames, .start⟩
  | _, _ => stuck

def feed (reader : Reader) (text : List Char) : Reader := (lex text).foldl step reader

def start : Reader := ⟨[], .start⟩

end Reader

/-- The expression that a text shows. -/
def readExpr (text : String) : Option Expr :=
  match (Reader.start.feed (text.toList ++ [';'])).place with
  | .done value => some value
  | _ => none

namespace Reader

section

variable (frames : List Frame)

theorem step_word (chars : List Char) :
    step ⟨frames, .start⟩ (.word chars) = ⟨frames, .read (ofWord chars)⟩ := rfl

theorem step_bracket : step ⟨frames, .start⟩ (.mark '[') = ⟨.receiver :: frames, .start⟩ := rfl

theorem step_parenthesis : step ⟨frames, .start⟩ (.mark '(') = ⟨frames, .castOpen⟩ := rfl

theorem step_read (value : Expr) (c : Char) :
    step ⟨frames, .read value⟩ (.mark c) = afterValue frames value c := rfl

theorem step_cast_open (chars : List Char) :
    step ⟨frames, .castOpen⟩ (.word chars) = ⟨frames, .castType (String.ofList chars)⟩ := rfl

theorem step_receiver (receiver : Expr) (chars : List Char) :
    step ⟨.receiver :: frames, .blank receiver⟩ (.word chars) =
      ⟨frames, .label receiver [] (String.ofList chars)⟩ := rfl

theorem step_argument (receiver value : Expr) (parts : List (String × Expr)) (label : String)
    (chars : List Char) :
    step ⟨.argument receiver parts label :: frames, .blank value⟩ (.word chars) =
      ⟨frames, .label receiver (parts ++ [(label, value)]) (String.ofList chars)⟩ := rfl

end

theorem feed_mark {c : Char} (mark : isWordChar c = false) (reader : Reader) (rest : List Char) :
    reader.feed (c :: rest) = (reader.step (.mark c)).feed rest := by
  rw [feed, lex_mark mark]
  rfl

theorem feed_word {chars : List Char} (present : chars ≠ []) (word : ∀ c ∈ chars, isWordChar c)
    {c : Char} (mark : isWordChar c = false) (reader : Reader) (rest : List Char) :
    reader.feed (chars ++ c :: rest) = (reader.step (.word chars)).feed (c :: rest) := by
  rw [feed, lex_word present word mark]
  rfl

theorem feed_identifier {name : String} (identifier : isIdentifier name) {c : Char}
    (mark : isWordChar c = false) (reader : Reader) (rest : List Char) :
    reader.feed (name.toList ++ c :: rest) =
      (reader.step (.word name.toList)).feed (c :: rest) := by
  obtain ⟨first, others, chars, _⟩ := exists_first identifier
  exact feed_word (by simp [chars]) (fun _ => is_word_char_of_mem identifier) mark reader rest

/-! Words -/

theorem of_word_identifier {name : String} (identifier : isIdentifier name)
    (notNil : name ≠ "nil") :
    ofWord name.toList = .ident name := by
  obtain ⟨first, rest, chars, noDigit⟩ := exists_first identifier
  have noNumber : name.toList.mapM Number.digit? = none := by
    rw [chars, List.mapM_cons, Number.digit_eq_none noDigit]
    rfl
  rw [ofWord, if_neg fun same => notNil (String.toList_injective same), noNumber]
  simp

theorem of_word_decimal (value : Nat) : ofWord (Nat.toDigits 10 value) = .int value := by
  obtain ⟨digits, read, isValue⟩ := Number.map_digit_of_to_digits value
  have notNil : Nat.toDigits 10 value ≠ "nil".toList := by
    intro same
    rw [same] at read
    cases read
  rw [ofWord, if_neg notNil, read]
  exact congrArg Expr.int isValue

/-- A word in front of a parenthesis is a callee, also the word `nil`. -/
theorem after_value_callee {function : String} (identifier : isIdentifier function)
    (frames : List Frame) :
    afterValue frames (ofWord function.toList) '(' =
      ⟨.callArgument function [] :: frames, .start⟩ := by
  by_cases isNil : function = "nil"
  · subst isNil
    rfl
  · rw [of_word_identifier identifier isNil]
    rfl

/-! Values -/

/-- Neither a cast nor a comparison waits for the end of its last operand. -/
def Settled (frames : List Frame) : Prop := ∀ value, settle frames value = (frames, value)

/-- An opening mark would belong to the last operand. -/
def EndsOperand (c : Char) : Prop := c ≠ '[' ∧ c ≠ '('

theorem after_value_eq_close {c : Char} (ends : EndsOperand c) (frames : List Frame)
    (value : Expr) :
    afterValue frames value c = close (settle frames value) c := by
  unfold afterValue
  rw [if_neg ends.1, if_neg ends.2]

/-- Reading the text of a value up to the mark behind it. A value that is no operand is
read only where nothing waits for the end of an operand. -/
def Reads (value : Expr) : Prop :=
  ∀ (frames : List Frame) (c : Char) (rest : List Char), isWordChar c = false →
    (value.isPostfix ∨ EndsOperand c) → (value.isOperand ∨ Settled frames) →
    feed ⟨frames, .start⟩ (value.render.toList ++ c :: rest) =
      feed ⟨frames, .read value⟩ (c :: rest)

theorem reads_ident {name : String} (identifier : isIdentifier name) (notNil : name ≠ "nil") :
    Reads (.ident name) := by
  intro frames c rest mark _ _
  rw [Expr.render, feed_identifier identifier mark, step_word, of_word_identifier identifier notNil]

theorem reads_int (value : Nat) : Reads (.int value) := by
  intro frames c rest mark _ _
  rw [Expr.render, Number.decimalText, String.toList_ofList,
    feed_word Nat.toDigits_ne_nil (is_word_char_decimal value) mark, step_word, of_word_decimal]

theorem reads_nil : Reads .nil := by
  intro frames c rest mark _ _
  rw [Expr.render, feed_identifier rfl mark]
  rfl

theorem reads_index {base position : Expr} (readsBase : Reads base) (readsPosition : Reads position)
    (isPostfix : base.isPostfix) : Reads (.index base position) := by
  intro frames c rest mark _ _
  have operand : base.isOperand := by
    cases base with
    | compare _ _ _ => exact isPostfix
    | _ => rfl
  calc
    feed ⟨frames, .start⟩ ((Expr.index base position).render.toList ++ c :: rest)
      = feed ⟨frames, .start⟩
          (base.render.toList ++ '[' :: (position.render.toList ++ ']' :: c :: rest)) := by
        simp [Expr.render]
    _ = feed ⟨.position base :: frames, .start⟩ (position.render.toList ++ ']' :: c :: rest) := by
        rw [readsBase _ _ _ rfl (.inl isPostfix) (.inl operand), feed_mark rfl]
        rfl
    _ = feed ⟨.position base :: frames, .read position⟩ (']' :: c :: rest) :=
        readsPosition _ _ _ rfl (.inr ⟨by decide, by decide⟩) (.inr fun _ => rfl)
    _ = feed ⟨frames, .read (.index base position)⟩ (c :: rest) := feed_mark rfl _ _

/-- What the reader makes of a mark behind an operand depends on the settled value only. -/
theorem feed_settle {frames frames' : List Frame} {value value' : Expr} {c : Char}
    (mark : isWordChar c = false) (ends : EndsOperand c)
    (settles : settle frames value = settle frames' value') (rest : List Char) :
    feed ⟨frames, .read value⟩ (c :: rest) = feed ⟨frames', .read value'⟩ (c :: rest) := by
  rw [feed_mark mark, feed_mark mark, step_read, step_read, after_value_eq_close ends,
    after_value_eq_close ends, settles]

theorem feed_cast_type {type : CType} (identifier : isIdentifier type.name) (frames : List Frame)
    (rest : List Char) :
    feed ⟨frames, .castOpen⟩ (type.spelled.toList ++ ')' :: rest) =
      feed ⟨.castOperand type :: frames, .start⟩ rest := by
  obtain ⟨name, isPointer⟩ := type
  cases isPointer with
  | false =>
      rw [CType.spelled, if_neg (by simp), feed_identifier identifier rfl, step_cast_open,
        String.ofList_toList, feed_mark rfl]
      rfl
  | true =>
      have spelled : (CType.mk name true).spelled.toList ++ ')' :: rest =
          name.toList ++ ' ' :: '*' :: ')' :: rest := by
        simp [CType.spelled]
      rw [spelled, feed_identifier identifier rfl, step_cast_open, String.ofList_toList,
        feed_mark rfl, feed_mark rfl, feed_mark rfl]
      rfl

theorem reads_cast {type : CType} {operand : Expr} (identifier : isIdentifier type.name)
    (reads : Reads operand) (isOperand : operand.isOperand) : Reads (.cast type operand) := by
  intro frames c rest mark follows _
  have ends : EndsOperand c := follows.resolve_left (by simp [Expr.isPostfix])
  calc
    feed ⟨frames, .start⟩ ((Expr.cast type operand).render.toList ++ c :: rest)
      = feed ⟨frames, .start⟩
          ('(' :: (type.spelled.toList ++ ')' :: (operand.render.toList ++ c :: rest))) := by
        simp [Expr.render]
    _ = feed ⟨.castOperand type :: frames, .start⟩ (operand.render.toList ++ c :: rest) := by
        rw [feed_mark rfl, step_parenthesis, feed_cast_type identifier]
    _ = feed ⟨.castOperand type :: frames, .read operand⟩ (c :: rest) :=
        reads _ _ _ mark (.inr ends) (.inl isOperand)
    -- The mark closes the cast as well, so nothing shows yet which of the two was read.
    _ = feed ⟨frames, .read (.cast type operand)⟩ (c :: rest) := feed_settle mark ends (by rfl) rest

theorem feed_comparison (comparison : Comparison) (left : Expr) (frames : List Frame)
    (rest : List Char) :
    feed ⟨frames, .blank left⟩ (comparison.symbol.toList ++ ' ' :: rest) =
      feed ⟨.rightSide comparison left :: frames, .start⟩ rest := by
  cases comparison with
  | less =>
      change feed _ ('<' :: ' ' :: rest) = _
      rw [feed_mark rfl, feed_mark rfl]
      rfl
  | greaterEq =>
      change feed _ ('>' :: '=' :: ' ' :: rest) = _
      rw [feed_mark rfl, feed_mark rfl, feed_mark rfl]
      rfl

theorem reads_compare {comparison : Comparison} {left right : Expr} (readsLeft : Reads left)
    (readsRight : Reads right) (leftOperand : left.isOperand) (rightOperand : right.isOperand) :
    Reads (.compare comparison left right) := by
  intro frames c rest mark follows waits
  have ends : EndsOperand c := follows.resolve_left (by simp [Expr.isPostfix])
  have settled : Settled frames := waits.resolve_left (by simp [Expr.isOperand])
  have blankEnds : EndsOperand ' ' := ⟨by decide, by decide⟩
  calc
    feed ⟨frames, .start⟩ ((Expr.compare comparison left right).render.toList ++ c :: rest)
      = feed ⟨frames, .start⟩ (left.render.toList ++
          ' ' :: (comparison.symbol.toList ++ ' ' :: (right.render.toList ++ c :: rest))) := by
        simp [Expr.render]
    _ = feed ⟨frames, .blank left⟩
          (comparison.symbol.toList ++ ' ' :: (right.render.toList ++ c :: rest)) := by
        rw [readsLeft _ _ _ rfl (.inr blankEnds) (.inl leftOperand), feed_mark rfl, step_read,
          after_value_eq_close blankEnds, settled left]
        rfl
    _ = feed ⟨.rightSide comparison left :: frames, .start⟩ (right.render.toList ++ c :: rest) :=
        feed_comparison comparison left frames _
    _ = feed ⟨.rightSide comparison left :: frames, .read right⟩ (c :: rest) :=
        readsRight _ _ _ mark (.inr ends) (.inl rightOperand)
    _ = feed ⟨frames, .read (.compare comparison left right)⟩ (c :: rest) :=
        feed_settle mark ends (by rfl) rest

/-! Calls and messages -/

theorem feed_arguments {function : String} (argument : Expr) (arguments : List Expr)
    (reads : ∀ value ∈ argument :: arguments, Reads value) (before : List Expr)
    (frames : List Frame) (rest : List Char) :
    feed ⟨.callArgument function before :: frames, .start⟩
        ((String.intercalate ", " (Expr.renderAll (argument :: arguments))).toList ++ ')' :: rest) =
      feed ⟨frames, .read (.call function (before ++ argument :: arguments))⟩ rest := by
  induction arguments generalizing argument before with
  | nil =>
      have last : Reads argument := reads argument List.mem_cons_self
      simp only [Expr.renderAll, String.intercalate_singleton]
      rw [last _ _ _ rfl (.inr ⟨by decide, by decide⟩) (.inr fun _ => rfl), feed_mark rfl]
      rfl
  | cons next arguments induction =>
      obtain ⟨head, later⟩ := List.forall_mem_cons.mp reads
      calc
        feed ⟨.callArgument function before :: frames, .start⟩ ((String.intercalate ", "
            (Expr.renderAll (argument :: next :: arguments))).toList ++ ')' :: rest)
          = feed ⟨.callArgument function before :: frames, .start⟩ (argument.render.toList ++
              ',' :: ' ' :: ((String.intercalate ", "
                (Expr.renderAll (next :: arguments))).toList ++ ')' :: rest)) := by
            simp [Expr.renderAll]
        _ = feed ⟨.callArgument function (before ++ [argument]) :: frames, .start⟩
              ((String.intercalate ", "
                (Expr.renderAll (next :: arguments))).toList ++ ')' :: rest) := by
            rw [head _ _ _ rfl (.inr ⟨by decide, by decide⟩) (.inr fun _ => rfl), feed_mark rfl,
              feed_mark rfl]
            rfl
        _ = feed ⟨frames, .read (.call function (before ++ argument :: next :: arguments))⟩
              rest := by
            rw [induction next later (before ++ [argument]), List.append_assoc,
              List.singleton_append]

theorem reads_call {function : String} {arguments : List Expr} (identifier : isIdentifier function)
    (reads : ∀ argument ∈ arguments, Reads argument) : Reads (.call function arguments) := by
  intro frames c rest mark _ _
  calc
    feed ⟨frames, .start⟩ ((Expr.call function arguments).render.toList ++ c :: rest)
      = feed ⟨frames, .start⟩ (function.toList ++ '(' ::
          ((String.intercalate ", " (Expr.renderAll arguments)).toList ++ ')' :: c :: rest)) := by
        simp [Expr.render]
    _ = feed ⟨.callArgument function [] :: frames, .start⟩
          ((String.intercalate ", " (Expr.renderAll arguments)).toList ++ ')' :: c :: rest) := by
        rw [feed_identifier identifier rfl, step_word, feed_mark rfl, step_read,
          after_value_callee identifier]
    _ = feed ⟨frames, .read (.call function arguments)⟩ (c :: rest) := by
        cases arguments with
        | nil => exact feed_mark rfl _ _
        | cons argument arguments => exact feed_arguments argument arguments reads [] frames _

theorem feed_receiver {receiver : Expr} (reads : Reads receiver) (frames : List Frame)
    (rest : List Char) :
    feed ⟨frames, .start⟩ ('[' :: (receiver.render.toList ++ ' ' :: rest)) =
      feed ⟨.receiver :: frames, .blank receiver⟩ rest := by
  rw [feed_mark rfl, step_bracket, reads _ _ _ rfl (.inr ⟨by decide, by decide⟩) (.inr fun _ => rfl),
    feed_mark rfl]
  rfl

theorem reads_unary_send {receiver : Expr} {label : String} (reads : Reads receiver)
    (identifier : isIdentifier label) : Reads (.send receiver [(label, none)]) := by
  intro frames c rest mark _ _
  calc
    feed ⟨frames, .start⟩ ((Expr.send receiver [(label, none)]).render.toList ++ c :: rest)
      = feed ⟨frames, .start⟩
          ('[' :: (receiver.render.toList ++ ' ' :: (label.toList ++ ']' :: c :: rest))) := by
        simp [Expr.render, Expr.renderParts]
    _ = feed ⟨frames, .label receiver [] label⟩ (']' :: c :: rest) := by
        rw [feed_receiver reads, feed_identifier identifier rfl, step_receiver,
          String.ofList_toList]
    _ = feed ⟨frames, .read (.send receiver [(label, none)])⟩ (c :: rest) := feed_mark rfl _ _

section

variable {receiver : Expr} {before : List (String × Expr)} {frames : List Frame} {reader : Reader}
  (opens : ∀ label : String,
    reader.step (.word label.toList) = ⟨frames, .label receiver before label⟩)
include opens

/-- A label with its argument, read where a word is the next label. -/
theorem feed_part {label : String} {argument : Expr} (identifier : isIdentifier label)
    (reads : Reads argument) {c : Char} (mark : isWordChar c = false) (ends : EndsOperand c)
    (rest : List Char) :
    reader.feed (label.toList ++ ':' :: (argument.render.toList ++ c :: rest)) =
      feed ⟨.argument receiver before label :: frames, .read argument⟩ (c :: rest) := by
  have colon : step ⟨frames, .label receiver before label⟩ (.mark ':') =
      ⟨.argument receiver before label :: frames, .start⟩ := by
    cases before <;> rfl
  rw [feed_identifier identifier rfl, opens, feed_mark rfl, colon]
  exact reads _ _ _ mark (.inr ends) (.inr fun _ => rfl)

end

theorem feed_parts {receiver : Expr} (part : String × Expr) (parts : List (String × Expr))
    (identifiers : ∀ other ∈ part :: parts, isIdentifier other.1)
    (reads : ∀ other ∈ part :: parts, Reads other.2) (before : List (String × Expr))
    (frames : List Frame) (reader : Reader)
    (opens : ∀ label : String,
      reader.step (.word label.toList) = ⟨frames, .label receiver before label⟩)
    (rest : List Char) :
    reader.feed ((String.intercalate " " ((part :: parts).map Expr.partText)).toList ++
        ']' :: rest) =
      feed ⟨frames, .read (.keywordSend receiver (before ++ part :: parts))⟩ rest := by
  induction parts generalizing part before reader with
  | nil =>
      obtain ⟨identifier, _⟩ := List.forall_mem_cons.mp identifiers
      obtain ⟨last, _⟩ := List.forall_mem_cons.mp reads
      calc
        reader.feed ((String.intercalate " " ([part].map Expr.partText)).toList ++ ']' :: rest)
          = reader.feed (part.1.toList ++ ':' :: (part.2.render.toList ++ ']' :: rest)) := by
            simp [Expr.partText]
        _ = feed ⟨.argument receiver before part.1 :: frames, .read part.2⟩ (']' :: rest) :=
            feed_part opens identifier last rfl ⟨by decide, by decide⟩ rest
        _ = feed ⟨frames, .read (.keywordSend receiver (before ++ [part]))⟩ rest :=
            feed_mark rfl _ _
  | cons next parts induction =>
      obtain ⟨identifier, laterIdentifiers⟩ := List.forall_mem_cons.mp identifiers
      obtain ⟨head, later⟩ := List.forall_mem_cons.mp reads
      calc
        reader.feed ((String.intercalate " "
            ((part :: next :: parts).map Expr.partText)).toList ++ ']' :: rest)
          = reader.feed (part.1.toList ++ ':' :: (part.2.render.toList ++ ' ' ::
              ((String.intercalate " "
                ((next :: parts).map Expr.partText)).toList ++ ']' :: rest))) := by
            simp [Expr.partText]
        _ = feed ⟨.argument receiver before part.1 :: frames, .blank part.2⟩
              ((String.intercalate " "
                ((next :: parts).map Expr.partText)).toList ++ ']' :: rest) := by
            rw [feed_part opens identifier head rfl ⟨by decide, by decide⟩, feed_mark rfl]
            rfl
        _ = feed ⟨frames, .read (.keywordSend receiver (before ++ part :: next :: parts))⟩
              rest := by
            rw [induction next laterIdentifiers later (before ++ [part]), List.append_assoc,
              List.singleton_append]
            -- Behind the argument the next word opens a label again, with this part added.
            intro label
            rw [step_argument, String.ofList_toList]

theorem reads_keyword_send {receiver : Expr} {parts : List (String × Expr)} (reads : Reads receiver)
    (present : parts ≠ []) (identifiers : ∀ part ∈ parts, isIdentifier part.1)
    (readsParts : ∀ part ∈ parts, Reads part.2) : Reads (.keywordSend receiver parts) := by
  intro frames c rest mark _ _
  obtain ⟨part, others, rfl⟩ := List.exists_cons_of_ne_nil present
  calc
    feed ⟨frames, .start⟩ ((Expr.keywordSend receiver (part :: others)).render.toList ++ c :: rest)
      = feed ⟨frames, .start⟩ ('[' :: (receiver.render.toList ++ ' ' :: ((String.intercalate " "
          ((part :: others).map Expr.partText)).toList ++ ']' :: c :: rest))) := by
        rw [Expr.keywordSend, Expr.render, Expr.render_parts_eq_map]
        simp
    _ = feed ⟨.receiver :: frames, .blank receiver⟩ ((String.intercalate " "
          ((part :: others).map Expr.partText)).toList ++ ']' :: c :: rest) :=
        feed_receiver reads frames _
    _ = feed ⟨frames, .read (.keywordSend receiver (part :: others))⟩ (c :: rest) := by
        refine feed_parts part others identifiers readsParts [] frames _ (fun label => ?_) _
        rw [step_receiver, String.ofList_toList]

theorem reads_of_plain {value : Expr} (plain : value.Plain) : Reads value := by
  induction plain with
  | ident identifier notNil => exact reads_ident identifier notNil
  | int value => exact reads_int value
  | nil => exact reads_nil
  | call identifier _ reads => exact reads_call identifier reads
  | unarySend _ identifier reads => exact reads_unary_send reads identifier
  | keywordSend _ present identifiers _ reads readsParts =>
      exact reads_keyword_send reads present identifiers readsParts
  | index _ _ isPostfix readsBase readsPosition =>
      exact reads_index readsBase readsPosition isPostfix
  | cast identifier _ isOperand reads => exact reads_cast identifier reads isOperand
  | compare _ _ leftOperand rightOperand readsLeft readsRight =>
      exact reads_compare readsLeft readsRight leftOperand rightOperand

end Reader

theorem read_expr_render {value : Expr} (plain : value.Plain) :
    readExpr value.render = some value := by
  have reads := Reader.reads_of_plain plain [] ';' [] rfl (.inr ⟨by decide, by decide⟩)
    (.inr fun _ => rfl)
  rw [readExpr, Reader.start, reads, Reader.feed_mark rfl]
  rfl

/-- Plain expressions with one text are equal, and the support of an enum whose output name
is an identifier has only plain expressions. -/
theorem rendering_is_unambiguous :
    (∀ left right : Expr, left.Plain → right.Plain → left.render = right.render → left = right) ∧
    ∀ (typeName : String) (count : Nat) (options : Options), isIdentifier typeName →
      ∀ item ∈ (innerItems { type := typeName } count options).defined ++
          outerItems { type := typeName } count options,
        ∀ expr ∈ item.exprs, expr.Plain := by
  refine ⟨?_, ?_⟩
  · intro left right leftPlain rightPlain same
    have read : some left = some right := by
      rw [← read_expr_render leftPlain, ← read_expr_render rightPlain, same]
    exact Option.some.inj read
  · intro typeName count options identifier item there
    have plain : item.Plain := by
      rcases List.mem_append.mp there with inner | outer
      · exact plain_inner_items identifier count options item inner
      · exact plain_outer_items identifier count options item outer
    exact plain.plain_exprs

-- Outside of the plain expressions two of them can have one text.
example (type : CType) :
    (Expr.index (.cast type (.ident "x")) (.ident "i")).render =
      (Expr.cast type (.index (.ident "x") (.ident "i"))).render := by
  simp [Expr.render, String.append_assoc]

end EnumLowering.Native

namespace EnumLowering.Sample

open Native

def indexTwice : Expr := .index (.index (.ident "x") (.ident "i")) (.ident "j")

def indexedIndex : Expr := .index (.ident "x") (.index (.ident "i") (.ident "j"))

theorem indices_are_told_apart :
    indexTwice.Plain ∧ indexedIndex.Plain ∧ indexTwice.render ≠ indexedIndex.render ∧
      isIdentifier "Light" ∧ ∀ expr ∈ (valuesFunction { type := "Light" } 2).exprs, expr.Plain := by
  have x : (Expr.ident "x").Plain := .ident rfl (by decide)
  have i : (Expr.ident "i").Plain := .ident rfl (by decide)
  have j : (Expr.ident "j").Plain := .ident rfl (by decide)
  have twice : indexTwice.Plain := .index (.index x i rfl) j rfl
  have inner : indexedIndex.Plain := .index x (.index i j rfl) rfl
  refine ⟨twice, inner, fun same => ?_, rfl, ?_⟩
  · have equal := rendering_is_unambiguous.1 _ _ twice inner same
    simp [indexTwice, indexedIndex] at equal
  · exact rendering_is_unambiguous.2 "Light" 2 {} rfl _
      (List.mem_append_right _ List.mem_cons_self)

end EnumLowering.Sample
