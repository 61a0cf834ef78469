import ScriptBridge.Host.Eval
import ScriptBridge.Host.Value.Text
import ScriptBridge.Host.Value.Number
import ScriptBridge.Text.Upper

/-!
# Built-in functions

The functions every host expression can call.
-/

namespace ScriptBridge.Host

open Eval (fail)

/-- The number that `type()` gives for a value. -/
def Value.typeNumber : Value → Int64
  | .number _ => 0
  | .str _ => 1
  | .func .. => 2
  | .list _ => 3
  | .dict _ => 4
  | .float _ => 5
  | .null => 7

/-- The length of a value: bytes of a string, digits of a number, items of a container. -/
def Store.length? (s : Store) : Value → Option Nat
  | .str t => some t.utf8ByteSize
  | .list l => some (s.list l).items.length
  | .dict d => some (s.dict d).entries.length
  | .number n => some (toString n.toInt).utf8ByteSize
  | _ => none

/-- The numbers from zero up to `n`. -/
def countUp (n : Int64) : List Value :=
  (List.range n.toInt.toNat).map fun i => .number (Int64.ofNat i)

/-- The item of a list at a position that is not negative. -/
def Store.itemAt? (s : Store) (l : ListRef) (i : Int64) : Option Value :=
  if 0 ≤ i.toInt then (s.list l).items[i.toInt.toNat]? else none

/-- Calls a built-in function. -/
def callBuiltin (name : String) (args : List Value) : Eval Value := do
  let s := (← get).store
  match name, args with
  | "len", [v] =>
    match s.length? v with
    | some n => pure (.number (Int64.ofNat n))
    | none => fail (.noLength v.typeName)
  | "function", [] => fail (.notEnoughArguments "function")
  | "function", .str f :: rest =>
    match rest with
    | [] => pure (.func f [])
    | .list l :: _ => pure (.func f (s.list l).items)
    | _ => fail .boundArgumentsNotList
  | "function", _ => fail .functionNameRequired
  | "add", [.list l, v] =>
    Eval.store fun s => s.push l v
    pure (.list l)
  | "add", [_, _] => fail .listRequired
  | "get", .dict d :: key :: rest =>
    pure ((s.get? d (s.echo key)).getD (rest.head?.getD (.number 0)))
  | "get", .list l :: .number i :: rest =>
    pure ((s.itemAt? l i).getD (rest.head?.getD (.number 0)))
  | "get", _ => fail .containerRequired
  | "keys", [.dict d] => Eval.newList ((s.dict d).entries.map fun e => .str e.1)
  | "keys", [_] => fail .dictionaryRequired
  | "string", [v] => pure (.str (s.show v))
  | "toupper", [v] => pure (.str (Text.upper (s.echo v)))
  | "range", [v] => Eval.newList (countUp (v.asNumber?.getD 0))
  | "type", [v] => pure (.number v.typeNumber)
  | _, _ =>
    if name ∈ ["len", "add", "keys", "string", "toupper", "range", "type"] then
      fail (.wrongArgumentCount name)
    else fail (.unknownFunction name)

/-- Calls a function: one defined by the user if there is one of that name, else a built-in. -/
def callFunction (functions : UserFunctions) (name : String) (args : List Value) : Eval Value :=
  match functions name with
  | some f => f args
  | none => callBuiltin name args

end ScriptBridge.Host
