import ScriptBridge.Host.Builtin
import ScriptBridge.Host.Eval
import ScriptBridge.Host.Expr.Parse

/-!
# Evaluating expressions

Trees are evaluated from left to right. Numbers wrap around at 64 bits; a number is turned into a
float where the other operand is one.
-/

namespace ScriptBridge.Host

open Eval (fail)

/-- The float a value stands for beside a float. -/
def asFloat : Value → Eval Float
  | .float x => pure x
  | .number n => pure n.toFloat
  | v => fail (.notANumber v.typeName)

/-- The number a value stands for. -/
def asNumber (v : Value) : Eval Int64 :=
  match v.asNumber? with
  | some n => pure n
  | none => fail (.notANumber v.typeName)

/-- Arithmetic on floats; there is no remainder. -/
def floatArith (op : Operator) (a b : Float) : Eval Value :=
  match op with
  | .add => pure (.float (a + b))
  | .subtract => pure (.float (a - b))
  | .multiply => pure (.float (a * b))
  | .divide => pure (.float (a / b))
  | _ => fail .floatRemainder

/-- Arithmetic on numbers. Dividing by zero gives zero; the quotient that does not fit 64 bits is a
crash. -/
def numberArith (op : Operator) (a b : Int64) : Eval Value :=
  match op with
  | .add => pure (.number (a + b))
  | .subtract => pure (.number (a - b))
  | .multiply => pure (.number (a * b))
  | .divide =>
    if b = 0 then pure (.number 0)
    else if a = Int64.minValue && b = -1 then throw .crash
    else pure (.number (a / b))
  | _ =>
    if b = 0 then pure (.number 0)
    else if a = Int64.minValue && b = -1 then throw .crash
    else pure (.number (a % b))

/-- Applies an operator to two values. -/
def arith (op : Operator) (a b : Value) : Eval Value := do
  match op, a, b with
  | .concat, a, b =>
    let s := (← get).store
    pure (.str (s.echo a ++ s.echo b))
  | op, .float x, b => floatArith op x (← asFloat b)
  | op, a, .float y => floatArith op (← asFloat a) y
  | .add, .list l, .list m =>
    let s := (← get).store
    Eval.newList ((s.list l).items ++ (s.list m).items)
  | op, a, b => do
    let x ← asNumber a
    let y ← asNumber b
    numberArith op x y

/-- The value of a variable. -/
def readVariable (name : String) : Eval Value := do
  let (scope, key) ← Eval.scopeOf name
  match (← get).store.get? scope key with
  | some v => pure v
  | none => fail (.undefinedVariable name)

namespace Expr

variable (functions : UserFunctions)

mutual

/-- Evaluates a tree. -/
def eval : Expr → Eval Value
  | .number n => pure (.number n)
  | .float x => pure (.float x)
  | .str s => pure (.str s)
  | .list items => do Eval.newList (← evalItems items)
  | .dict entries => do Eval.newDict (← evalEntries entries [])
  | .variable name => readVariable name
  | .call function args => do callFunction functions function (← evalItems args)
  | .negate e => do arith .subtract (.number 0) (← eval e)
  | .binary op left right => do
    let a ← eval left
    let b ← eval right
    arith op a b
  | .unfinished e error => do
    let _ ← eval e
    fail error
  | .malformed error => fail error

/-- Evaluates trees one after another. -/
def evalItems : List Expr → Eval (List Value)
  | [] => pure []
  | e :: es => do
    let v ← eval e
    let vs ← evalItems es
    pure (v :: vs)

/-- Evaluates the entries of a dictionary; a later one replaces an earlier one with its key. -/
def evalEntries : List (Expr × Expr) → List (String × Value) → Eval (List (String × Value))
  | [], done => pure done
  | (k, v) :: rest, done => do
    let k ← eval k
    let key := (← get).store.echo k
    let value ← eval v
    evalEntries rest (Entries.insert key value done)

end

end Expr

/-- Evaluates the text of an expression. -/
def evalText (functions : UserFunctions) (src : String) : Eval Value :=
  (Expr.ofText src).eval functions

end ScriptBridge.Host
