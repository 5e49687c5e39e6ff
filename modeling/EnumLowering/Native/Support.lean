import EnumLowering.Binding.Known
import EnumLowering.Binding.OutputName
import EnumLowering.Native.Item
import EnumLowering.Options
import EnumLowering.Syntax.Declaration

/-!
The support that generated code holds for every enum. Inside the type stand the
class methods that list and look up constants, the copy method and, on request,
the conversion to the plain enumeration. At file scope stand the functions that
do the work, among them the lookup by ordinal.

The constants are kept in an array that the class initializer fills; a call of
`T_initialize` makes sure that it has run.
-/

namespace EnumLowering.Native

structure SupportNames where
  type : String

namespace SupportNames

def valuesFunction (names : SupportNames) : String := names.type ++ "_values"

def valueOfFunction (names : SupportNames) : String := names.type ++ "_valueOfWithNSString_"

def fromOrdinalFunction (names : SupportNames) : String := names.type ++ "_fromOrdinal"

def initializeFunction (names : SupportNames) : String := names.type ++ "_initialize"

def classFunction (names : SupportNames) : String := names.type ++ "_class_"

def storage (names : SupportNames) : Expr := .ident (names.type ++ "_values_")

def ensureInitialized (names : SupportNames) : Stmt := .expr (.call names.initializeFunction [])

def exception : String := Known.illegalArgument.outputName

end SupportNames

def valuesFunction (names : SupportNames) (count : Nat) : Item :=
  .ofFunction {
    returnType := .object "IOSObjectArray"
    name := names.valuesFunction
    params := []
    body := [
      names.ensureInitialized,
      .result (.keywordSend (.ident "IOSObjectArray") [
        ("arrayWithObjects", names.storage),
        ("count", .int count),
        ("type", .call names.classFunction [])])] }

/-- The exception for the looked-up name. Under explicit release it must not
stay with the place that throws it. -/
def unknownName (options : Options) : Expr :=
  let exception : Expr :=
    .keywordSend (.unarySend (.ident SupportNames.exception) "alloc")
      [("initWithNSString", .ident "name")]
  match options.memory with
  | .referenceCounting => .unarySend exception "autorelease"
  | .automatic => exception

/-- The search for a constant by its name; without constants there is none. -/
def searchLoop (names : SupportNames) (count : Nat) : List Stmt :=
  if count = 0 then []
  else [
    .countedFor "i" count [
      .localVariable (.object names.type) "e" (.index names.storage (.ident "i")),
      .conditional (.keywordSend (.ident "name") [("isEqual", .unarySend (.ident "e") "name")])
        [.result (.ident "e")]]]

def valueOfFunction (names : SupportNames) (count : Nat) (options : Options) : Item :=
  .ofFunction {
    returnType := .object names.type
    name := names.valueOfFunction
    params := [{ type := .object "NSString", name := "name" }]
    body := names.ensureInitialized :: (searchLoop names count ++
      [.throw (unknownName options), .result .nil]) }

/-- The lookup by ordinal. The ordinal is unsigned, so only the upper bound is
checked, and without constants nothing is. -/
def fromOrdinalFunction (names : SupportNames) (count : Nat) : Item :=
  .ofFunction {
    returnType := .object names.type
    name := names.fromOrdinalFunction
    params := [{ type := .value "NSUInteger", name := "ordinal" }]
    body :=
      if count = 0 then [.result .nil]
      else [
        names.ensureInitialized,
        .conditional (.compare .greaterEq (.ident "ordinal") (.int count)) [.result .nil],
        .result (.index names.storage (.ident "ordinal"))] }

def outerItems (names : SupportNames) (count : Nat) (options : Options) : List Item :=
  [valuesFunction names count, valueOfFunction names count options,
    fromOrdinalFunction names count]

structure InnerItems where
  lookups : List Item
  conversion : Option Item
  copy : Item

/-- An enum without constants has no plain enumeration to convert to. -/
def conversion (names : SupportNames) (count : Nat) (options : Options) : Option Item :=
  if options.swiftFriendly && 0 < count then
    let plain := CType.value (nativeEnumName names.type)
    some (.ofMethod {
      kind := .ofInstance
      returnType := plain
      selector := "toNSEnum"
      param := none
      body := [.result (.cast plain (.unarySend (.ident "self") "ordinal"))] })
  else none

def innerItems (names : SupportNames) (count : Nat) (options : Options) : InnerItems where
  lookups := [
    .ofMethod {
      kind := .ofClass
      returnType := .object "IOSObjectArray"
      selector := "values"
      param := none
      body := [.result (.call names.valuesFunction [])] },
    .ofMethod {
      kind := .ofClass
      returnType := .object names.type
      selector := "valueOfWithNSString"
      param := some { type := .object "NSString", name := "name" }
      body := [.result (.call names.valueOfFunction [.ident "name"])] }]
  conversion := conversion names count options
  -- Constants live as long as the process, so a copy is the constant itself.
  copy :=
    .ofMethod {
      kind := .ofInstance
      returnType := .value "id"
      selector := "copyWithZone"
      param := some { type := .object "NSZone", name := "zone" }
      body := [.result (.ident "self")] }

namespace InnerItems

/-- The items in the order of their definitions. -/
def defined (items : InnerItems) : List Item :=
  items.lookups ++ items.conversion.toList ++ [items.copy]

/-- The conversion is declared last, directly under the copy method. -/
def header (items : InnerItems) : Doc :=
  let declared := Doc.join ((items.lookups ++ [items.copy]).map Item.declaration) .blankLine
  match items.conversion with
  | none => declared
  | some item => .concat [declared, .hardline, item.declaration]

def implementation (items : InnerItems) : Doc :=
  Doc.join (items.defined.map Item.definition) .blankLine

end InnerItems

structure EnumSupport where
  inner : NativeBlock
  outer : NativeBlock

def enumSupport (typeName : String) (count : Nat) (options : Options) : EnumSupport :=
  let names : SupportNames := { type := typeName }
  let inner := innerItems names count options
  let outer := outerItems names count options
  let text (doc : Doc) : String := doc.print options.indentWidth
  { inner := {
      placement := .inner
      header := text inner.header
      implementation := text inner.implementation }
    outer := {
      placement := .outer
      header := text (Doc.join (outer.map Item.declaration) .blankLine)
      implementation := text (Doc.join (outer.map Item.definition) .blankLine) } }

end EnumLowering.Native
