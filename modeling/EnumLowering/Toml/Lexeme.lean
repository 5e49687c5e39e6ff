import EnumLowering.Number.Binary64

/-!
The smallest parts of a TOML text: blanks, comments, strings, numbers and times.
Each reader takes what it can from the front of the text and returns the rest.
-/

namespace EnumLowering.Toml

abbrev Text := List Char

def isBlank (c : Char) : Bool := c = ' ' || c = '\t'

def skipBlanks (text : Text) : Text := text.dropWhile isBlank

def newline? : Text → Option Text
  | '\n' :: rest => some rest
  | '\r' :: '\n' :: rest => some rest
  | _ => none

/-- Characters of a comment, and of a literal string apart from its quote. -/
def isPlain (c : Char) : Bool := c = '\t' || (0x20 ≤ c.toNat && c.toNat != 0x7F)

def skipComment : Text → Text
  | '#' :: rest => rest.dropWhile isPlain
  | text => text

def lineEnd? (text : Text) : Option Text :=
  match skipComment (skipBlanks text) with
  | [] => some []
  | rest => newline? rest

export Number (hexDigit?)

/-- The character whose number is written with exactly so many hexadecimal
digits. Surrogates are no characters. -/
def numberedChar? (count : Nat) (text : Text) : Option (Char × Text) := do
  let digits ← (text.take count).mapM hexDigit?
  guard (digits.length = count)
  let point := digits.foldl (fun value digit => 16 * value + digit) 0
  if point.isValidChar then some (Char.ofNat point, text.drop count) else none

def escape? : Text → Option (Char × Text)
  | 'b' :: rest => some ('\x08', rest)
  | 'f' :: rest => some ('\x0c', rest)
  | 'n' :: rest => some ('\n', rest)
  | 'r' :: rest => some ('\r', rest)
  | 't' :: rest => some ('\t', rest)
  | '"' :: rest => some ('"', rest)
  | '\\' :: rest => some ('\\', rest)
  | 'u' :: rest => numberedChar? 4 rest
  | 'U' :: rest => numberedChar? 8 rest
  | _ => none

/-- A one-line string after its opening quote. The steps bound the characters
that may still be read. -/
def basicString? : (steps : Nat) → (read : List Char) → Text → Option (String × Text)
  | 0, _, _ => none
  | _ + 1, _, [] => none
  | _ + 1, read, '"' :: rest => some (String.ofList read.reverse, rest)
  | steps + 1, read, '\\' :: rest =>
      match escape? rest with
      | some (c, rest) => basicString? steps (c :: read) rest
      | none => none
  | steps + 1, read, c :: rest => if isPlain c then basicString? steps (c :: read) rest else none

def literalString? (text : Text) : Option (String × Text) :=
  let content := text.takeWhile fun c => isPlain c && c != '\''
  match text.drop content.length with
  | '\'' :: rest => some (String.ofList content, rest)
  | _ => none

/-- Quotes that end a string of several lines: three, and up to two in front of
them that still belong to it. -/
def closing? (quote : Char) (text : Text) : Option (Nat × Text) :=
  let run := (text.takeWhile (· == quote)).length
  if run < 3 then none else some (min run 5 - 3, text.drop (min run 5))

/-- Blanks and line ends, which an escaped line end takes with it. -/
def skipLines : (steps : Nat) → Text → Text
  | 0, text => text
  | steps + 1, text =>
      match newline? (skipBlanks text) with
      | some rest => skipLines steps rest
      | none => skipBlanks text

def longString? (quote : Char) (hasEscapes : Bool) :
    (steps : Nat) → (read : List Char) → Text → Option (String × Text)
  | 0, _, _ => none
  | _ + 1, _, [] => none
  | steps + 1, read, c :: rest =>
      match closing? quote (c :: rest), newline? (c :: rest) with
      | some (quotes, rest), _ =>
          some (String.ofList (List.replicate quotes quote ++ read).reverse, rest)
      | none, some rest => longString? quote hasEscapes steps ('\n' :: read) rest
      | none, none =>
          if hasEscapes && c = '\\' then
            match newline? (skipBlanks rest) with
            | some rest => longString? quote hasEscapes steps read (skipLines steps rest)
            | none =>
                match escape? rest with
                | some (c, rest) => longString? quote hasEscapes steps (c :: read) rest
                | none => none
          else if isPlain c then longString? quote hasEscapes steps (c :: read) rest
          else none

/-- The line end directly after the opening quotes is not part of the string. -/
def skipFirstNewline (text : Text) : Text := (newline? text).getD text

def string? (text : Text) : Option (String × Text) :=
  let steps := text.length + 1
  match text with
  | '"' :: '"' :: '"' :: rest => longString? '"' true steps [] (skipFirstNewline rest)
  | '\'' :: '\'' :: '\'' :: rest => longString? '\'' false steps [] (skipFirstNewline rest)
  | '"' :: rest => basicString? steps [] rest
  | '\'' :: rest => literalString? rest
  | _ => none

def digits? (digit? : Char → Option Nat) : Text → Option (List Nat × Text)
  | [] => none
  | c :: rest =>
      match digit? c with
      | none => none
      | some digit =>
          let (more, rest) := further rest
          some (digit :: more, rest)
where
  further : Text → List Nat × Text
    | '_' :: c :: rest =>
        match digit? c with
        | some digit =>
            let (more, rest) := further rest
            (digit :: more, rest)
        | none => ([], '_' :: c :: rest)
    | c :: rest =>
        match digit? c with
        | some digit =>
            let (more, rest) := further rest
            (digit :: more, rest)
        | none => ([], c :: rest)
    | [] => ([], [])

def digitOf (base : Nat) (c : Char) : Option Nat :=
  (hexDigit? c).filter (· < base)

def takeSign : Text → Option Bool × Text
  | '+' :: rest => (some false, rest)
  | '-' :: rest => (some true, rest)
  | text => (none, text)

/-- A decimal integer: its sign and digits. Only zero starts with a zero. -/
def decimal? (text : Text) : Option (Bool × List Nat × Text) :=
  let (sign, rest) := takeSign text
  let isNegative := sign.getD false
  match rest with
  | '0' :: rest => some (isNegative, [0], rest)
  | _ => (digits? Number.digit? rest).map fun (digits, rest) => (isNegative, digits, rest)

def inRange (value : Int) : Option Int :=
  if Int64.minValue.toInt ≤ value && value ≤ Int64.maxValue.toInt then some value else none

def valueOf (base : Nat) (digits : List Nat) : Nat :=
  digits.foldl (fun value digit => base * value + digit) 0

def prefixedInteger? (base : Nat) (text : Text) : Option (Int × Text) := do
  let (digits, rest) ← digits? (digitOf base) text
  let value ← inRange (valueOf base digits)
  some (value, rest)

def integer? : Text → Option (Int × Text)
  | '0' :: 'x' :: rest => prefixedInteger? 16 rest
  | '0' :: 'o' :: rest => prefixedInteger? 8 rest
  | '0' :: 'b' :: rest => prefixedInteger? 2 rest
  | text => do
      let (isNegative, digits, rest) ← decimal? text
      let magnitude : Int := valueOf 10 digits
      let value ← inRange (if isNegative then -magnitude else magnitude)
      some (value, rest)

def exponent? : Text → Option (Int × Text)
  | c :: rest =>
      if c = 'e' || c = 'E' then do
        let (sign, rest) := takeSign rest
        let (digits, rest) ← digits? Number.digit? rest
        let magnitude : Int := valueOf 10 digits
        some (if sign.getD false then -magnitude else magnitude, rest)
      else none
  | [] => none

/-- Whether a decimal is no larger than the largest real. Magnitudes far from
the limits are decided by the place of their first digit alone. -/
def isFinite (digits : List Nat) (power : Int) : Bool :=
  let digits := digits.dropWhile (· == 0)
  let significand := valueOf 10 digits
  if digits.isEmpty || digits.length + power < -400 then true
  else if 400 < digits.length + power then false
  else
    (Number.Binary64.ofFraction? (significand * Nat.pow 10 power.toNat)
      (Nat.pow 10 (-power).toNat)).isSome

/-- The text after a real number. A positive one must not be too large. -/
def real? (text : Text) : Option Text :=
  match takeSign text with
  | (_, 'i' :: 'n' :: 'f' :: rest) => some rest
  | (_, 'n' :: 'a' :: 'n' :: rest) => some rest
  | _ => do
      let (isNegative, whole, rest) ← decimal? text
      let (fraction, rest, hasFraction) ←
        match rest with
        | '.' :: rest => (digits? Number.digit? rest).map fun (digits, rest) => (digits, rest, true)
        | rest => some ([], rest, false)
      let (power, rest) ←
        match exponent? rest with
        | some (power, rest) => some (power, rest)
        | none => if hasFraction then some (0, rest) else none
      guard (isNegative || isFinite (whole ++ fraction) (power - fraction.length))
      some rest

def bounded? (count least greatest : Nat) (text : Text) : Option (Nat × Text) := do
  let digits ← (text.take count).mapM Number.digit?
  guard (digits.length = count)
  let value := valueOf 10 digits
  guard (least ≤ value && value ≤ greatest)
  some (value, text.drop count)

def char? (expected : Char) : Text → Option Text
  | c :: rest => if c = expected then some rest else none
  | [] => none

def daysInMonth (year month : Nat) : Nat :=
  if month = 2 then
    if year % 4 = 0 && (year % 100 != 0 || year % 400 = 0) then 29 else 28
  else if month = 4 || month = 6 || month = 9 || month = 11 then 30
  else 31

def date? (text : Text) : Option Text := do
  let (year, rest) ← bounded? 4 0 9999 text
  let rest ← char? '-' rest
  let (month, rest) ← bounded? 2 1 12 rest
  let rest ← char? '-' rest
  let (_, rest) ← bounded? 2 1 (daysInMonth year month) rest
  some rest

def skipFraction : Text → Text
  | '.' :: c :: rest =>
      if c.isDigit then rest.dropWhile Char.isDigit else '.' :: c :: rest
  | text => text

def timeOfDay? (text : Text) : Option Text := do
  let (_, rest) ← bounded? 2 0 23 text
  let rest ← char? ':' rest
  let (_, rest) ← bounded? 2 0 59 rest
  let rest ← char? ':' rest
  let (_, rest) ← bounded? 2 0 60 rest
  some (skipFraction rest)

def offset? : Text → Option Text
  | 'Z' :: rest | 'z' :: rest => some rest
  | '+' :: rest | '-' :: rest => do
      let (_, rest) ← bounded? 2 0 23 rest
      let rest ← char? ':' rest
      let (_, rest) ← bounded? 2 0 59 rest
      some rest
  | _ => none

def afterDate (text : Text) : Text :=
  match text with
  | c :: rest =>
      if c = 'T' || c = 't' || c = ' ' then
        match timeOfDay? rest with
        | some rest => (offset? rest).getD rest
        | none => text
      else text
  | [] => []

/-- The text after a point in time: a date, a time of day, or both. -/
def time? (text : Text) : Option Text :=
  match date? text with
  | some rest => some (afterDate rest)
  | none => timeOfDay? text

end EnumLowering.Toml
