import EnumLowering.Number.Decimal

/-!
JSON values that are written out. Entries of an object keep their order. One
writer serves every style: a style only says what stands between the parts, so
whatever is blank between the parts is the whole difference of two styles.
-/

namespace EnumLowering

inductive Json where
  | null
  | boolean (value : Bool)
  | integer (value : Int)
  | string (value : String)
  | array (items : List Json)
  | object (entries : List (String × Json))

namespace Json

def escapeChar (c : Char) : List Char :=
  if c = '"' then ['\\', '"']
  else if c = '\\' then ['\\', '\\']
  else if c = '\x08' then ['\\', 'b']
  else if c = '\t' then ['\\', 't']
  else if c = '\n' then ['\\', 'n']
  else if c = '\x0c' then ['\\', 'f']
  else if c = '\r' then ['\\', 'r']
  else if c.toNat < 0x20 then
    ['\\', 'u', '0', '0', Nat.digitChar (c.toNat / 16), Nat.digitChar (c.toNat % 16)]
  else [c]

/-- A text in quotes, put in front of what follows it. -/
def writeString (text : String) (rest : List Char) : List Char :=
  '"' :: text.toList.foldr (fun c written => escapeChar c ++ written) ('"' :: rest)

/-- What stands between the parts of a value: in front of each item and of a
closing bracket at a given depth, and between a key and its value. -/
structure Style where
  gap : (depth : Nat) → List Char
  colon : List Char

namespace Style

def compact : Style where
  gap _ := []
  colon := [':']

/-- A line for each item, indented by two blanks a level. -/
def pretty : Style where
  gap depth := '\n' :: List.replicate (2 * depth) ' '
  colon := [':', ' ']

end Style

mutual

def write (style : Style) (depth : Nat) : Json → List Char → List Char
  | .null, rest => 'n' :: 'u' :: 'l' :: 'l' :: rest
  | .boolean true, rest => 't' :: 'r' :: 'u' :: 'e' :: rest
  | .boolean false, rest => 'f' :: 'a' :: 'l' :: 's' :: 'e' :: rest
  | .integer value, rest => Number.decimalInt value ++ rest
  | .string value, rest => writeString value rest
  | .array [], rest => '[' :: ']' :: rest
  | .array (item :: items), rest =>
      '[' :: (style.gap (depth + 1) ++
        write style (depth + 1) item
          (writeItems style (depth + 1) items (style.gap depth ++ ']' :: rest)))
  | .object [], rest => '\x7b' :: '\x7d' :: rest
  | .object ((key, value) :: entries), rest =>
      '\x7b' :: (style.gap (depth + 1) ++
        writeString key (style.colon ++
          write style (depth + 1) value
            (writeEntries style (depth + 1) entries (style.gap depth ++ '\x7d' :: rest))))

def writeItems (style : Style) (depth : Nat) : List Json → List Char → List Char
  | [], rest => rest
  | item :: items, rest =>
      ',' :: (style.gap depth ++ write style depth item (writeItems style depth items rest))

def writeEntries (style : Style) (depth : Nat) : List (String × Json) → List Char → List Char
  | [], rest => rest
  | (key, value) :: entries, rest =>
      ',' :: (style.gap depth ++ writeString key (style.colon ++
        write style depth value (writeEntries style depth entries rest)))

end

def compact (value : Json) : String := String.ofList (value.write .compact 0 [])

def pretty (value : Json) : String := String.ofList (value.write .pretty 0 [])

def ofNat (value : Nat) : Json := .integer value

def ofOption {α : Type} (encode : α → Json) : Option α → Json
  | none => .null
  | some value => encode value

/-- The entry of an optional field, which is left out when there is no value. -/
def optionalEntry {α : Type} (key : String) (encode : α → Json) : Option α → List (String × Json)
  | none => []
  | some value => [(key, encode value)]

end Json

end EnumLowering
