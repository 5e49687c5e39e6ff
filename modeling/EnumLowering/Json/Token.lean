import EnumLowering.Number.Binary64

/-!
The lexemes of a JSON text. The scanner takes one character at a time, so that
scanning a text is a fold over it. It never fails: the first character that
fits nowhere yields a `broken` lexeme, and nothing after it is looked at.

A string is kept even when one of its escapes names half of a surrogate pair,
because such a string may stand where nobody reads it. The same holds for
numbers too large to be represented.
-/

namespace EnumLowering.Json

/-- A number as the text spells it: integers of 64 bits, signed or not, are
exact, and all else is a float. A negative zero is a float. -/
inductive Numeral where
  | integer (value : Int)
  | float (value : Number.Binary64)
  | outOfRange
  deriving DecidableEq, Repr

inductive Token where
  | openArray
  | closeArray
  | openObject
  | closeObject
  | comma
  | colon
  | null
  | boolean (value : Bool)
  | number (value : Numeral)
  | string (value : Option String)
  | broken
  deriving DecidableEq, Repr

/-- The parts of a number, digits latest first. -/
structure Digits where
  isNegative : Bool := false
  whole : List Nat := []
  fraction : List Nat := []
  powerIsNegative : Bool := false
  power : List Nat := []

namespace Digits

/-- Add digits to a number as long as it stays within 64 bits, and say how many
were left over. -/
def absorb (value : Nat) : List Nat → Nat × Nat
  | [] => (value, 0)
  | digit :: digits =>
      if 10 * value + digit < UInt64.size then absorb (10 * value + digit) digits
      else (value, digits.length + 1)

/-- Decimals keep as many digits as fit into 64 bits; further ones only count
for the power of ten, and beyond the point not even that. -/
def float (digits : Digits) : Numeral :=
  let (whole, dropped) := absorb 0 digits.whole.reverse
  let (significand, unread) := absorb whole digits.fraction.reverse
  let shift : Int := dropped - ((digits.fraction.length - unread : Nat) : Int)
  let power := Number.digitsValue digits.power.reverse
  let magnitude :=
    if Nat.pow 2 31 ≤ power then
      if significand = 0 || digits.powerIsNegative then some .zero else none
    else
      Number.Binary64.ofDecimal? significand
        (if digits.powerIsNegative then shift - power else shift + power)
  match magnitude with
  | some number => .float { number with negative := digits.isNegative }
  | none => .outOfRange

def integer (digits : Digits) : Numeral :=
  let value := Number.digitsValue digits.whole.reverse
  if digits.isNegative then
    if value = 0 || Nat.pow 2 63 < value then digits.float else .integer (-(value : Int))
  else if value < UInt64.size then .integer value
  else digits.float

end Digits

inductive NumberPhase where
  | sign
  | zero
  | whole
  | point
  | fraction
  | mark
  | markSign
  | power
  deriving DecidableEq, Repr

def NumberPhase.finish? (phase : NumberPhase) (digits : Digits) : Option Numeral :=
  match phase with
  | .zero | .whole => some digits.integer
  | .fraction | .power => some digits.float
  | .sign | .point | .mark | .markSign => none

inductive NumberStep where
  | continues (phase : NumberPhase) (digits : Digits)
  | ends
  | breaks

def NumberPhase.step (phase : NumberPhase) (digits : Digits) (c : Char) : NumberStep :=
  match phase, Number.digit? c with
  | .sign, some digit =>
      .continues (if digit = 0 then .zero else .whole) { digits with whole := [digit] }
  | .zero, some _ => .breaks
  | .whole, some digit => .continues .whole { digits with whole := digit :: digits.whole }
  | .point, some digit | .fraction, some digit =>
      .continues .fraction { digits with fraction := digit :: digits.fraction }
  | .mark, some digit | .markSign, some digit | .power, some digit =>
      .continues .power { digits with power := digit :: digits.power }
  | .mark, none =>
      if c = '+' then .continues .markSign digits
      else if c = '-' then .continues .markSign { digits with powerIsNegative := true }
      else .breaks
  | .zero, none | .whole, none =>
      if c = '.' then .continues .point digits
      else if c = 'e' || c = 'E' then .continues .mark digits
      else .ends
  | .fraction, none => if c = 'e' || c = 'E' then .continues .mark digits else .ends
  | .power, none => .ends
  | .sign, none | .point, none | .markSign, none => .breaks

/-- A string being read, latest character first. `high` is the first half of a
surrogate pair that waits for its second, and `isWhole` fails once a half stands
alone. -/
structure Content where
  characters : List Char := []
  high : Option Nat := none
  isWhole : Bool := true

namespace Content

/-- A waiting half that is not completed stands alone. -/
def settle (content : Content) : Content :=
  { content with high := none, isWhole := content.isWhole && content.high.isNone }

def push (content : Content) (c : Char) : Content :=
  { content.settle with characters := c :: content.characters }

def pushUnit (content : Content) (unit : Nat) : Content :=
  if 0xDC00 ≤ unit && unit < 0xE000 then
    match content.high with
    | some high =>
        { content with
          characters :=
            Char.ofNat (0x10000 + (high - 0xD800) * 0x400 + (unit - 0xDC00)) :: content.characters
          high := none }
    | none => { content with isWhole := false }
  else if 0xD800 ≤ unit && unit < 0xDC00 then { content.settle with high := some unit }
  else content.push (Char.ofNat unit)

def finish (content : Content) : Option String :=
  if content.settle.isWhole then some (String.ofList content.characters.reverse) else none

end Content

def escaped? (c : Char) : Option Char :=
  match c with
  | '"' => some '"'
  | '\\' => some '\\'
  | '/' => some '/'
  | 'b' => some '\x08'
  | 'f' => some '\x0c'
  | 'n' => some '\n'
  | 'r' => some '\r'
  | 't' => some '\t'
  | _ => none

inductive Mode where
  | between
  | word (left : List Char) (token : Token)
  | number (phase : NumberPhase) (digits : Digits)
  | string (content : Content)
  | escape (content : Content)
  | unit (content : Content) (left : Nat) (value : Nat)
  | stopped

/-- The lexemes found so far, latest first, and the one being read. -/
structure Scanner where
  found : List Token := []
  mode : Mode := .between

namespace Scanner

def emit (scanner : Scanner) (token : Token) : Scanner :=
  { found := token :: scanner.found, mode := .between }

def stop (scanner : Scanner) : Scanner :=
  { found := .broken :: scanner.found, mode := .stopped }

def isBlank (c : Char) : Bool := c = ' ' || c = '\n' || c = '\t' || c = '\r'

def start (scanner : Scanner) (c : Char) : Scanner :=
  if isBlank c then { scanner with mode := .between }
  else
    match c with
    | '[' => scanner.emit .openArray
    | ']' => scanner.emit .closeArray
    | '\x7b' => scanner.emit .openObject
    | '\x7d' => scanner.emit .closeObject
    | ',' => scanner.emit .comma
    | ':' => scanner.emit .colon
    | '"' => { scanner with mode := .string {} }
    | '-' => { scanner with mode := .number .sign { isNegative := true } }
    | 'n' => { scanner with mode := .word ['u', 'l', 'l'] .null }
    | 't' => { scanner with mode := .word ['r', 'u', 'e'] (.boolean true) }
    | 'f' => { scanner with mode := .word ['a', 'l', 's', 'e'] (.boolean false) }
    | _ =>
        match Number.digit? c with
        | some digit =>
            { scanner with
              mode := .number (if digit = 0 then .zero else .whole) { whole := [digit] } }
        | none => scanner.stop

def step (scanner : Scanner) (c : Char) : Scanner :=
  match scanner.mode with
  | .stopped => scanner
  | .between => scanner.start c
  | .word (expected :: left) token =>
      if c = expected then
        if left.isEmpty then scanner.emit token else { scanner with mode := .word left token }
      else scanner.stop
  | .word [] _ => scanner.stop
  | .number phase digits =>
      match phase.step digits c with
      | .continues phase digits => { scanner with mode := .number phase digits }
      | .breaks => scanner.stop
      | .ends =>
          match phase.finish? digits with
          | some numeral => (scanner.emit (.number numeral)).start c
          | none => scanner.stop
  | .string content =>
      if c = '"' then scanner.emit (.string content.finish)
      else if c = '\\' then { scanner with mode := .escape content }
      else if c.toNat < 0x20 then scanner.stop
      else { scanner with mode := .string (content.push c) }
  | .escape content =>
      if c = 'u' then { scanner with mode := .unit content 3 0 }
      else
        match escaped? c with
        | some char => { scanner with mode := .string (content.push char) }
        | none => scanner.stop
  | .unit content left value =>
      match Number.hexDigit? c, left with
      | some digit, 0 => { scanner with mode := .string (content.pushUnit (16 * value + digit)) }
      | some digit, left + 1 => { scanner with mode := .unit content left (16 * value + digit) }
      | none, _ => scanner.stop

def finish (scanner : Scanner) : List Token :=
  match scanner.mode with
  | .between | .stopped => scanner.found.reverse
  | .number phase digits =>
      match phase.finish? digits with
      | some numeral => (Token.number numeral :: scanner.found).reverse
      | none => (Token.broken :: scanner.found).reverse
  | .word _ _ | .string _ | .escape _ | .unit _ _ _ => (Token.broken :: scanner.found).reverse

end Scanner

def tokens (text : List Char) : List Token := (text.foldl Scanner.step {}).finish

end EnumLowering.Json
