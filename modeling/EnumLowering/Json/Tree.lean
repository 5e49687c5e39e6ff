import EnumLowering.Json.Token
import EnumLowering.Json.Value

/-!
JSON texts as trees, whether they are well formed or not. A reader of a tree
meets the parts of a text in their order, and a fault in the text is met only
when the parts before it were accepted. So the tree keeps everything in front of
the first fault: a container that the text does not close is marked as open, and
a missing value is `broken`.

The builder works through the lexemes with an explicit stack of the containers
around the current place. Nesting therefore costs no recursion, and values that
nobody looks into may nest to any depth.
-/

namespace EnumLowering.Json

inductive Tree where
  | null
  | boolean (value : Bool)
  | number (value : Numeral)
  | string (value : Option String)
  | array (items : List Tree) (isClosed : Bool)
  | object (entries : List (Option String × Tree)) (isClosed : Bool)
  | broken

namespace Tree

/-- The value has no fault inside. A fault inside a container leaves the
container open, so one look is enough. -/
def isSound : Tree → Bool
  | .null | .boolean _ | .number _ | .string _ => true
  | .array _ isClosed => isClosed
  | .object _ isClosed => isClosed
  | .broken => false

end Tree

/-- A container around the current place, with its parts so far, latest first. -/
inductive Frame where
  | items (before : List Tree)
  | entries (before : List (Option String × Tree))
  /-- An object that waits for the value of `key`. -/
  | entry (before : List (Option String × Tree)) (key : Option String)

/-- What may come next, innermost container first. -/
inductive Builder where
  | wantsValue (stack : List Frame)
  | wantsFirstItem (stack : List Frame)
  | wantsFirstKey (stack : List Frame)
  | wantsKey (before : List (Option String × Tree)) (stack : List Frame)
  | wantsColon (before : List (Option String × Tree)) (key : Option String) (stack : List Frame)
  | wantsComma (frame : Frame) (stack : List Frame)
  | done (root : Tree) (isAlone : Bool)

namespace Builder

def place (value : Tree) : List Frame → Builder
  | [] => .done value true
  | .items before :: stack => .wantsComma (.items (value :: before)) stack
  | .entry before key :: stack => .wantsComma (.entries ((key, value) :: before)) stack
  | .entries before :: stack => .wantsComma (.entries before) stack

def abandon (value : Tree) : List Frame → Tree
  | [] => value
  | .items before :: stack => abandon (.array (value :: before).reverse false) stack
  | .entry before key :: stack => abandon (.object ((key, value) :: before).reverse false) stack
  | .entries before :: stack => abandon (.object before.reverse false) stack

def fail (value : Tree) (stack : List Frame) : Builder := .done (abandon value stack) false

def openContainer : Frame → Tree
  | .items before => .array before.reverse false
  | .entries before | .entry before _ => .object before.reverse false

def startValue (token : Token) (stack : List Frame) : Builder :=
  match token with
  | .null => place .null stack
  | .boolean value => place (.boolean value) stack
  | .number value => place (.number value) stack
  | .string value => place (.string value) stack
  | .openArray => .wantsFirstItem stack
  | .openObject => .wantsFirstKey stack
  | .closeArray | .closeObject | .comma | .colon | .broken => fail .broken stack

def step (builder : Builder) (token : Token) : Builder :=
  match builder with
  | .done root _ => .done root false
  | .wantsValue stack => startValue token stack
  | .wantsFirstItem stack =>
      match token with
      | .closeArray => place (.array [] true) stack
      | _ => startValue token (.items [] :: stack)
  | .wantsFirstKey stack =>
      match token with
      | .closeObject => place (.object [] true) stack
      | .string key => .wantsColon [] key stack
      | _ => fail (.object [] false) stack
  | .wantsKey before stack =>
      match token with
      | .string key => .wantsColon before key stack
      | _ => fail (.object before.reverse false) stack
  | .wantsColon before key stack =>
      match token with
      | .colon => .wantsValue (.entry before key :: stack)
      | _ => fail .broken (.entry before key :: stack)
  | .wantsComma (.items before) stack =>
      match token with
      | .comma => .wantsValue (.items before :: stack)
      | .closeArray => place (.array before.reverse true) stack
      | _ => fail (openContainer (.items before)) stack
  | .wantsComma (.entries before) stack =>
      match token with
      | .comma => .wantsKey before stack
      | .closeObject => place (.object before.reverse true) stack
      | _ => fail (openContainer (.entries before)) stack
  | .wantsComma (.entry before key) stack => fail (openContainer (.entry before key)) stack

def finish : Builder → Tree × Bool
  | .done root isAlone => (root, isAlone)
  | .wantsValue stack => (abandon .broken stack, false)
  | .wantsFirstItem stack => (abandon (.array [] false) stack, false)
  | .wantsFirstKey stack => (abandon (.object [] false) stack, false)
  | .wantsKey before stack => (abandon (.object before.reverse false) stack, false)
  | .wantsColon before key stack => (abandon .broken (.entry before key :: stack), false)
  | .wantsComma frame stack => (abandon (openContainer frame) stack, false)

end Builder

def treeOfTokens (tokens : List Token) : Tree × Bool :=
  (tokens.foldl Builder.step (.wantsValue [])).finish

/-- The tree of a text, and whether nothing but blanks follows it. -/
def treeOfText (text : String) : Tree × Bool := treeOfTokens (tokens text.toList)

mutual

def toTree : Json → Tree
  | .null => .null
  | .boolean value => .boolean value
  | .integer value => .number (.integer value)
  | .string value => .string (some value)
  | .array items => .array (toTreeItems items) true
  | .object entries => .object (toTreeEntries entries) true

def toTreeItems : List Json → List Tree
  | [] => []
  | item :: items => toTree item :: toTreeItems items

def toTreeEntries : List (String × Json) → List (Option String × Tree)
  | [] => []
  | (key, value) :: entries => (some key, toTree value) :: toTreeEntries entries

end

end EnumLowering.Json
