import EnumLowering.Native.Support
import Mathlib.Algebra.Group.Nat.Defs

/-!
What generated code does when it runs. The constants of a type are objects with a name
and an ordinal, kept in an array that can be read only after the class is initialized.
Apart from that, evaluation has no state: no statement assigns to a variable.

An evaluation gives a value, throws an exception, or fails. It fails where the target
gives no answer: an index out of range, a counter past the largest C `int`, a name or a
message that means nothing. Ordinals and counters only grow by one from zero or are
compared, so natural numbers stand for them.
-/

namespace EnumLowering.Native

inductive Fault where
  | storageNotReady
  | indexOutOfRange
  | counterOverflow
  | unknownName (name : String)
  | notUnderstood
  | noResult
  deriving DecidableEq, Repr

inductive Value (Object : Type) where
  | nil
  | number (value : Nat)
  | boolean (value : Bool)
  | text (content : String)
  | object (constant : Object)
  /-- The array that the class initializer fills. -/
  | storage (constants : List Object)
  /-- An array object that was made from it. -/
  | array (constants : List Object)
  | classNamed (name : String)
  | allocated (className : String)
  | exception (className reason : String)

inductive Interruption (Object : Type) where
  | thrown (exception : Value Object)
  | fault (cause : Fault)

/-- The state says whether the class is initialized. -/
abbrev Evaluation (Object : Type) : Type → Type := StateT Bool (Except (Interruption Object))

abbrev Locals (Object : Type) := List (String × Value Object)

/-- The meaning of function names. -/
abbrev Calls (Object : Type) := String → List (Value Object) → Evaluation Object (Value Object)

/-- Where control goes after a statement. -/
inductive Flow (Object : Type) where
  | next (locals : Locals Object)
  | returned (value : Value Object)

/-- A type with its constants. Its code is the support that is generated for so many. -/
structure Runtime (Object : Type) where
  names : SupportNames
  options : Options
  constants : List Object
  nameOf : Object → String
  ordinalOf : Object → Nat

def Item.function? : Item → Option Function
  | .ofFunction function => some function
  | .ofMethod _ => none

def Item.method? : Item → Option Method
  | .ofFunction _ => none
  | .ofMethod method => some method

def Comparison.holds : Comparison → Nat → Nat → Bool
  | .less, left, right => left < right
  | .greaterEq, left, right => right ≤ left

section

variable {Object α β : Type}

def MethodKind.accepts : MethodKind → Value Object → Bool
  | .ofClass, .classNamed _ => true
  | .ofInstance, .object _ => true
  | _, _ => false

namespace Evaluation

def stop (cause : Interruption Object) : Evaluation Object α := fun _ => .error cause

def fail (cause : Fault) : Evaluation Object α := stop (.fault cause)

theorem bind_ok {first : Evaluation Object α} {ready later : Bool} {value : α}
    (gives : first ready = .ok (value, later)) (rest : α → Evaluation Object β) :
    (first >>= rest) ready = rest value later := by
  change (first ready >>= fun step => rest step.1 step.2) = rest value later
  rw [gives]
  rfl

theorem bind_error {first : Evaluation Object α} {ready : Bool} {cause : Interruption Object}
    (stops : first ready = .error cause) (rest : α → Evaluation Object β) :
    (first >>= rest) ready = .error cause := by
  change (first ready >>= fun step => rest step.1 step.2) = .error cause
  rw [stops]
  rfl

end Evaluation

open Evaluation (stop fail)

/-- A loop whose counter stands at `counter`. -/
def countUp (body : Nat → Evaluation Object (Flow Object)) (bound counter : Nat) :
    Evaluation Object (Option (Value Object)) :=
  if counter < bound then do
    match ← body counter with
    | .returned value => pure (some value)
    | .next _ =>
        if counter + 1 < 2 ^ 31 then countUp body bound (counter + 1) else fail .counterOverflow
  else pure none
termination_by bound - counter

namespace Runtime

/-- The support as it stands in the type. -/
def support (runtime : Runtime Object) : EnumSupport :=
  enumSupport runtime.names.type runtime.constants.length runtime.options

def functions (runtime : Runtime Object) : List Function :=
  (outerItems runtime.names runtime.constants.length runtime.options).filterMap Item.function?

def methods (runtime : Runtime Object) : List Method :=
  (innerItems runtime.names runtime.constants.length runtime.options).defined.filterMap
    Item.method?

/-- The reply of a value to a message. -/
def reply (runtime : Runtime Object) :
    Value Object → List (String × Option (Value Object)) → Evaluation Object (Value Object)
  | .object constant, [("name", none)] => pure (.text (runtime.nameOf constant))
  | .object constant, [("ordinal", none)] => pure (.number (runtime.ordinalOf constant))
  | .text content, [("isEqual", some (.text other))] => pure (.boolean (content = other))
  | .classNamed name, [("alloc", none)] => pure (.allocated name)
  | .allocated name, [("initWithNSString", some (.text reason))] => pure (.exception name reason)
  | .exception name reason, [("autorelease", none)] => pure (.exception name reason)
  | .classNamed "IOSObjectArray",
      [("arrayWithObjects", some (.storage constants)), ("count", some (.number count)),
        ("type", some (.classNamed _))] =>
      if count ≤ constants.length then pure (.array (constants.take count))
      else fail .indexOutOfRange
  | _, _ => fail .notUnderstood

def readStorage (runtime : Runtime Object) : Evaluation Object (Value Object) := do
  if ← get then pure (.storage runtime.constants) else fail .storageNotReady

def isClass (name : String) : Bool := name = "IOSObjectArray" || name = SupportNames.exception

/-- Locals hide all other names. -/
def resolve (runtime : Runtime Object) (locals : Locals Object) (name : String) :
    Evaluation Object (Value Object) :=
  match locals.lookup name with
  | some value => pure value
  | none =>
      if name = runtime.names.type ++ "_values_" then runtime.readStorage
      else if isClass name then pure (.classNamed name)
      else fail (.unknownName name)

def readElement : Value Object → Value Object → Evaluation Object (Value Object)
  | .storage constants, .number index =>
      match constants[index]? with
      | some constant => pure (.object constant)
      | none => fail .indexOutOfRange
  | _, _ => fail .notUnderstood

def compareNumbers (comparison : Comparison) :
    Value Object → Value Object → Evaluation Object (Value Object)
  | .number left, .number right => pure (.boolean (comparison.holds left right))
  | _, _ => fail .notUnderstood

mutual

@[simp]
def eval (runtime : Runtime Object) (calls : Calls Object) (locals : Locals Object) :
    Expr → Evaluation Object (Value Object)
  | .ident name => runtime.resolve locals name
  | .int value => pure (.number value)
  | .nil => pure .nil
  | .call function arguments => do calls function (← runtime.evalAll calls locals arguments)
  | .send receiver parts => do
      let value ← runtime.eval calls locals receiver
      runtime.reply value (← runtime.evalParts calls locals parts)
  | .index base position => do
      let base ← runtime.eval calls locals base
      readElement base (← runtime.eval calls locals position)
  | .cast _ operand => runtime.eval calls locals operand
  | .compare comparison left right => do
      let left ← runtime.eval calls locals left
      compareNumbers comparison left (← runtime.eval calls locals right)

@[simp]
def evalAll (runtime : Runtime Object) (calls : Calls Object) (locals : Locals Object) :
    List Expr → Evaluation Object (List (Value Object))
  | [] => pure []
  | expr :: exprs => do
      let value ← runtime.eval calls locals expr
      return value :: (← runtime.evalAll calls locals exprs)

@[simp]
def evalParts (runtime : Runtime Object) (calls : Calls Object) (locals : Locals Object) :
    List (String × Option Expr) → Evaluation Object (List (String × Option (Value Object)))
  | [] => pure []
  | (label, none) :: parts => do
      return (label, none) :: (← runtime.evalParts calls locals parts)
  | (label, some argument) :: parts => do
      let value ← runtime.eval calls locals argument
      return (label, some value) :: (← runtime.evalParts calls locals parts)

end

mutual

@[simp]
def exec (runtime : Runtime Object) (calls : Calls Object) (locals : Locals Object) :
    Stmt → Evaluation Object (Flow Object)
  | .expr value => do
      let _ ← runtime.eval calls locals value
      return .next locals
  | .result value => do return .returned (← runtime.eval calls locals value)
  | .throw value => do stop (.thrown (← runtime.eval calls locals value))
  | .localVariable _ name initial => do
      return .next ((name, ← runtime.eval calls locals initial) :: locals)
  | .conditional condition body => do
      match ← runtime.eval calls locals condition with
      | .boolean true => do
          match ← runtime.execAll calls locals body with
          | .returned value => return .returned value
          | .next _ => return .next locals
      | .boolean false => return .next locals
      | _ => fail .notUnderstood
  | .countedFor counter bound body => do
      match ← countUp
        (fun count => runtime.execAll calls ((counter, .number count) :: locals) body) bound 0 with
      | some value => return .returned value
      | none => return .next locals

@[simp]
def execAll (runtime : Runtime Object) (calls : Calls Object) (locals : Locals Object) :
    List Stmt → Evaluation Object (Flow Object)
  | [] => return .next locals
  | stmt :: stmts => do
      match ← runtime.exec calls locals stmt with
      | .returned value => return .returned value
      | .next locals => runtime.execAll calls locals stmts

end

/-- Run a body to the value that it returns. -/
def run (runtime : Runtime Object) (calls : Calls Object) (locals : Locals Object)
    (body : List Stmt) : Evaluation Object (Value Object) := do
  match ← runtime.execAll calls locals body with
  | .returned value => return value
  | .next _ => fail .noResult

/-- The functions that stand beside the generated ones: one sees to it that the class
initializer has run, and the other gives the class. -/
def primitive (runtime : Runtime Object) : Calls Object
  | function, [] =>
      if function = runtime.names.initializeFunction then do
        set true
        return .nil
      else if function = runtime.names.classFunction then
        return .classNamed runtime.names.type
      else fail (.unknownName function)
  | function, _ :: _ => fail (.unknownName function)

/-- Calls of generated functions, nested up to a depth. -/
def call (runtime : Runtime Object) : Nat → Calls Object
  | 0 => runtime.primitive
  | depth + 1 => fun name arguments =>
      match runtime.functions.find? (·.name = name) with
      | some function =>
          if function.params.length = arguments.length then
            runtime.run (runtime.call depth) ((function.params.map Param.name).zip arguments)
              function.body
          else fail .notUnderstood
      | none => runtime.primitive name arguments

def respondent (runtime : Runtime Object) (receiver : Value Object) (selector : String) :
    Option Method :=
  runtime.methods.find? fun method => method.selector = selector && method.kind.accepts receiver

/-- Send a message to the class or to one of its constants. -/
def send (runtime : Runtime Object) (depth : Nat) (receiver : Value Object) (selector : String)
    (argument : Option (Value Object)) : Evaluation Object (Value Object) :=
  match runtime.respondent receiver selector with
  | none => fail .notUnderstood
  | some method =>
      match method.param, argument with
      | none, none => runtime.run (runtime.call depth) [("self", receiver)] method.body
      | some param, some argument =>
          runtime.run (runtime.call depth) [("self", receiver), (param.name, argument)]
            method.body
      | _, _ => fail .notUnderstood

/-! Rules by which expressions are evaluated from the inside out, and bodies run one
statement after another. -/

section

open Evaluation (bind_ok bind_error)

variable (runtime : Runtime Object) (calls : Calls Object) {locals : Locals Object}
  {expr : Expr} {value : Value Object} {ready later final : Bool} {body stmts : List Stmt}

theorem reply_array {count : Nat} {constants : List Object} (className : String)
    (enough : count ≤ constants.length) (ready : Bool) :
    runtime.reply (.classNamed "IOSObjectArray")
        [("arrayWithObjects", some (.storage constants)), ("count", some (.number count)),
          ("type", some (.classNamed className))] ready =
      .ok (.array (constants.take count), ready) := by
  change (if count ≤ constants.length then pure (.array (constants.take count))
    else fail .indexOutOfRange : Evaluation Object (Value Object)) ready = _
  rw [if_pos enough]
  rfl

theorem eval_local (name : String) (found : locals.lookup name = some value) (ready : Bool) :
    runtime.eval calls locals (.ident name) ready = .ok (value, ready) := by
  rw [eval, resolve, found]
  rfl

theorem eval_call {function : String} {argument : Expr}
    (gives : runtime.eval calls locals argument ready = .ok (value, later)) :
    runtime.eval calls locals (.call function [argument]) ready = calls function [value] later := by
  have given : runtime.evalAll calls locals [argument] ready = .ok ([value], later) := by
    rw [evalAll, bind_ok gives, evalAll]
    rfl
  rw [eval, bind_ok given]

theorem eval_parts_nil : runtime.evalParts calls locals [] ready = .ok ([], ready) := by
  rw [evalParts]
  rfl

theorem eval_parts_label (label : String) (ready : Bool) :
    runtime.evalParts calls locals [(label, none)] ready = .ok ([(label, none)], ready) := by
  rw [evalParts, bind_ok (runtime.eval_parts_nil calls)]
  rfl

theorem eval_parts_cons (label : String) {parts : List (String × Option Expr)}
    {given : List (String × Option (Value Object))}
    (gives : runtime.eval calls locals expr ready = .ok (value, later))
    (rest : runtime.evalParts calls locals parts later = .ok (given, final)) :
    runtime.evalParts calls locals ((label, some expr) :: parts) ready =
      .ok ((label, some value) :: given, final) := by
  rw [evalParts, bind_ok gives, bind_ok rest]
  rfl

theorem eval_send {parts : List (String × Option Expr)}
    {given : List (String × Option (Value Object))} {answer : Value Object} {last : Bool}
    (gives : runtime.eval calls locals expr ready = .ok (value, later))
    (argues : runtime.evalParts calls locals parts later = .ok (given, final))
    (replies : runtime.reply value given final = .ok (answer, last)) :
    runtime.eval calls locals (.send expr parts) ready = .ok (answer, last) := by
  rw [eval, bind_ok gives, bind_ok argues]
  exact replies

theorem eval_index {position : Expr} {index : Nat} {constants : List Object} {constant : Object}
    (gives : runtime.eval calls locals expr ready = .ok (.storage constants, later))
    (points : runtime.eval calls locals position later = .ok (.number index, final))
    (found : constants[index]? = some constant) :
    runtime.eval calls locals (.index expr position) ready = .ok (.object constant, final) := by
  rw [eval, bind_ok gives, bind_ok points, readElement, found]
  rfl

theorem exec_all_expr (gives : runtime.eval calls locals expr ready = .ok (value, later)) :
    runtime.execAll calls locals (.expr expr :: stmts) ready =
      runtime.execAll calls locals stmts later := by
  have next : runtime.exec calls locals (.expr expr) ready = .ok (.next locals, later) := by
    rw [exec, bind_ok gives]
    rfl
  rw [execAll, bind_ok next]

theorem exec_all_result (gives : runtime.eval calls locals expr ready = .ok (value, later)) :
    runtime.execAll calls locals (.result expr :: stmts) ready = .ok (.returned value, later) := by
  have returned : runtime.exec calls locals (.result expr) ready =
      .ok (.returned value, later) := by
    rw [exec, bind_ok gives]
    rfl
  rw [execAll, bind_ok returned]
  rfl

theorem exec_all_throw (gives : runtime.eval calls locals expr ready = .ok (value, later)) :
    runtime.execAll calls locals (.throw expr :: stmts) ready = .error (.thrown value) := by
  have thrown : runtime.exec calls locals (.throw expr) ready = .error (.thrown value) := by
    rw [exec, bind_ok gives]
    rfl
  rw [execAll, bind_error thrown]

theorem exec_all_local (gives : runtime.eval calls locals expr ready = .ok (value, later))
    (type : CType) (name : String) :
    runtime.execAll calls locals (.localVariable type name expr :: stmts) ready =
      runtime.execAll calls ((name, value) :: locals) stmts later := by
  have declared : runtime.exec calls locals (.localVariable type name expr) ready =
      .ok (.next ((name, value) :: locals), later) := by
    rw [exec, bind_ok gives]
    rfl
  rw [execAll, bind_ok declared]

theorem exec_all_taken (gives : runtime.eval calls locals expr ready = .ok (.boolean true, later))
    (returns : runtime.execAll calls locals body later = .ok (.returned value, final)) :
    runtime.execAll calls locals (.conditional expr body :: stmts) ready =
      .ok (.returned value, final) := by
  have taken : runtime.exec calls locals (.conditional expr body) ready =
      .ok (.returned value, final) := by
    rw [exec, bind_ok gives]
    exact bind_ok returns _
  rw [execAll, bind_ok taken]
  rfl

theorem exec_all_skipped
    (gives : runtime.eval calls locals expr ready = .ok (.boolean false, later)) :
    runtime.execAll calls locals (.conditional expr body :: stmts) ready =
      runtime.execAll calls locals stmts later := by
  have skipped : runtime.exec calls locals (.conditional expr body) ready =
      .ok (.next locals, later) := by
    rw [exec, bind_ok gives]
    rfl
  rw [execAll, bind_ok skipped]

theorem exec_all_counted_for_returned {counter : String} {bound : Nat}
    (loops : countUp
      (fun count => runtime.execAll calls ((counter, .number count) :: locals) body)
        bound 0 ready = .ok (some value, later)) :
    runtime.execAll calls locals (.countedFor counter bound body :: stmts) ready =
      .ok (.returned value, later) := by
  have looped : runtime.exec calls locals (.countedFor counter bound body) ready =
      .ok (.returned value, later) := by
    rw [exec, bind_ok loops]
    rfl
  rw [execAll, bind_ok looped]
  rfl

theorem exec_all_counted_for_through {counter : String} {bound : Nat}
    (loops : countUp
      (fun count => runtime.execAll calls ((counter, .number count) :: locals) body)
        bound 0 ready = .ok (none, later)) :
    runtime.execAll calls locals (.countedFor counter bound body :: stmts) ready =
      runtime.execAll calls locals stmts later := by
  have looped : runtime.exec calls locals (.countedFor counter bound body) ready =
      .ok (.next locals, later) := by
    rw [exec, bind_ok loops]
    rfl
  rw [execAll, bind_ok looped]

theorem run_returned
    (returns : runtime.execAll calls locals body ready = .ok (.returned value, later)) :
    runtime.run calls locals body ready = .ok (value, later) := by
  rw [run, bind_ok returns]
  rfl

theorem run_stopped {cause : Interruption Object}
    (stops : runtime.execAll calls locals body ready = .error cause) :
    runtime.run calls locals body ready = .error cause := by
  rw [run, bind_error stops]

end

end Runtime

/-- A loop over the positions of a list that returns the first item with some property.
What is left to search is the list behind the counter. -/
theorem count_up_search {body : Nat → Evaluation Object (Flow Object)} {constants : List Object}
    {wanted : Object → Prop} [DecidablePred wanted] {ready : Bool}
    (small : constants.length < 2 ^ 31)
    (step : ∀ (counter : Nat) (constant : Object), constants[counter]? = some constant →
      ∃ locals, body counter ready =
        .ok (if wanted constant then .returned (.object constant) else .next locals, ready))
    (counter : Nat) :
    countUp body constants.length counter ready =
      .ok (((constants.drop counter).find? (fun constant => wanted constant)).map Value.object,
        ready) := by
  fun_induction countUp body constants.length counter with
  | case1 counter below induction =>
      obtain ⟨locals, stepped⟩ := step counter _ (List.getElem?_eq_getElem below)
      rw [List.drop_eq_getElem_cons below, List.find?_cons, Evaluation.bind_ok stepped]
      by_cases hit : wanted constants[counter]
      · simp only [hit, if_true, decide_true]
        rfl
      · have inRange : counter + 1 < 2 ^ 31 := by omega
        simp only [hit, if_false, inRange, if_true, decide_false]
        exact induction
  | case2 counter above =>
      rw [List.drop_eq_nil_of_le (by omega)]
      rfl

end

end EnumLowering.Native
