import EnumLowering.Toml.Item
import EnumLowering.Toml.Lexeme

/-!
TOML documents. A document is read line by line; the lines then build up the
tables. Values nest through arrays and braces up to a limit.
-/

namespace EnumLowering.Toml

/-- Values may nest less deep than this, and keys have fewer parts. -/
def nestingLimit : Nat := 80

def isBareKeyChar (c : Char) : Bool := c.isAlphanum || c = '-' || c = '_'

def simpleKey? (text : Text) : Option (String × Text) :=
  match text with
  | '"' :: rest => basicString? (text.length + 1) [] rest
  | '\'' :: rest => literalString? rest
  | _ =>
      let bare := text.takeWhile isBareKeyChar
      if bare.isEmpty then none else some (String.ofList bare, text.drop bare.length)

def keyParts? : (steps : Nat) → Text → Option (List String × Text)
  | 0, _ => none
  | steps + 1, text => do
      let (part, rest) ← simpleKey? (skipBlanks text)
      match skipBlanks rest with
      | '.' :: rest => do
          let (parts, rest) ← keyParts? steps rest
          some (part :: parts, rest)
      | rest => some ([part], rest)

/-- A key: the parts in front and the last one. -/
def key? (text : Text) : Option (List String × String × Text) := do
  let (parts, rest) ← keyParts? (text.length + 1) text
  guard (parts.length < nestingLimit)
  let last ← parts.getLast?
  some (parts.dropLast, last, rest)

def skipFiller : (steps : Nat) → Text → Text
  | 0, text => text
  | steps + 1, text =>
      match newline? (skipComment (skipBlanks text)) with
      | some rest => skipFiller steps rest
      | none => skipBlanks text

def scalar? (text : Text) : Option (Item × Text) :=
  match text with
  | [] => none
  | c :: rest =>
      if c = '"' || c = '\'' then (string? text).map fun (value, rest) => (.string value, rest)
      else if c = 't' then
        match rest with
        | 'r' :: 'u' :: 'e' :: rest => some (.boolean true, rest)
        | _ => none
      else if c = 'f' then
        match rest with
        | 'a' :: 'l' :: 's' :: 'e' :: rest => some (.boolean false, rest)
        | _ => none
      else
        match time? text, real? text with
        | some rest, _ => some (.time, rest)
        | none, some rest => some (.real, rest)
        | none, none => (integer? text).map fun (value, rest) => (.integer value, rest)

mutual

def value? : (steps : Nat) → (depth : Nat) → Text → Option (Item × Text)
  | 0, _, _ => none
  | steps + 1, depth, '[' :: rest => do
      guard (depth + 1 < nestingLimit)
      let (items, rest) ← arrayItems? steps (depth + 1) rest
      some (.array items, rest)
  | steps + 1, depth, '\x7b' :: rest => do
      guard (depth + 1 < nestingLimit)
      match skipBlanks rest with
      | '\x7d' :: rest => some (.table .inline [], rest)
      | rest => do
          let (entries, rest) ← inlineEntries? steps (depth + 1) [] rest
          some (.table .inline entries, rest)
  | _ + 1, _, text => scalar? text

/-- The items of an array up to its end. A comma may follow the last one. -/
def arrayItems? : (steps : Nat) → (depth : Nat) → Text → Option (List Item × Text)
  | 0, _, _ => none
  | steps + 1, depth, text =>
      match skipFiller text.length text with
      | ']' :: rest => some ([], rest)
      | text => do
          let (item, rest) ← value? steps depth text
          match skipFiller rest.length rest with
          | ']' :: rest => some ([item], rest)
          | ',' :: rest => do
              let (items, rest) ← arrayItems? steps depth rest
              some (item :: items, rest)
          | _ => none

def inlineEntries? : (steps : Nat) → (depth : Nat) → Entries → Text → Option (Entries × Text)
  | 0, _, _, _ => none
  | steps + 1, depth, entries, text => do
      let (path, key, rest) ← key? text
      let rest ← char? '=' rest
      let (item, rest) ← value? steps depth (skipBlanks rest)
      let entries ← Entries.addInline path key item entries
      match skipBlanks rest with
      | '\x7d' :: rest => some (entries, rest)
      | ',' :: rest => inlineEntries? steps depth entries rest
      | _ => none

end

def header? (brackets : Nat) (text : Text) : Option (List String × String × Text) := do
  let (path, key, rest) ← key? text
  guard (rest.take brackets = List.replicate brackets ']')
  let rest ← lineEnd? (rest.drop brackets)
  some (path, key, rest)

def line? (text : Text) : Option (Line × Text) :=
  match text with
  | '[' :: '[' :: rest =>
      (header? 2 rest).map fun (path, key, rest) => (.tableElement path key, rest)
  | '[' :: rest => (header? 1 rest).map fun (path, key, rest) => (.table path key, rest)
  | _ => do
      let (path, key, rest) ← key? text
      let rest ← char? '=' rest
      let (item, rest) ← value? (4 * text.length + 4) 0 (skipBlanks rest)
      let rest ← lineEnd? rest
      some (.value path key item, rest)

def lines? : (steps : Nat) → Text → Option (List Line)
  | 0, _ => none
  | steps + 1, text =>
      match skipBlanks text with
      | [] => some []
      | '#' :: rest => (lineEnd? ('#' :: rest)).bind (lines? steps)
      | '\n' :: rest => lines? steps rest
      | '\r' :: '\n' :: rest => lines? steps rest
      | text => do
          let (line, rest) ← line? text
          let lines ← lines? steps rest
          some (line :: lines)

def skipMark : Text → Text
  | '\ufeff' :: rest => rest
  | text => text

def document? (text : String) : Option Entries := do
  let characters := skipMark text.toList
  let lines ← lines? (characters.length + 1) characters
  assemble lines

end EnumLowering.Toml
