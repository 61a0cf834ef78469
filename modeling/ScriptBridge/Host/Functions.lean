import ScriptBridge.Host.Builtin

/-!
# User functions

A small set of functions that a host configuration defines beside the built-in ones: for
arithmetic, for looking at arguments, for messages, and for destroying a buffer from inside an
expression.
-/

namespace ScriptBridge.Host.Functions

open Eval (fail)

/-- Twice a number. -/
def double (args : List Value) : Eval Value :=
  match args.head?.bind Value.asNumber? with
  | some n => pure (.number (n * 2))
  | none => fail (.custom "E119: Double")

/-- Shows its arguments in one message; how many they were. -/
def say (args : List Value) : Eval Value := do
  let s := (← get).store
  Eval.say (.info (String.intercalate "|" (args.map s.echo)))
  pure (.number (Int64.ofNat args.length))

/-- Destroys a buffer. -/
def wipe (args : List Value) : Eval Value := do
  let n := ((args.head?.bind Value.asNumber?).getD 0).toInt
  let id := (n % Text.count32).toNat
  Eval.change (Change.wipeBuffer id)
  pure (.number 0)

/-- A list that holds itself. -/
def cycle : Eval Value := do
  let v ← Eval.newList []
  match v with
  | .list l => Eval.store fun s => s.push l v
  | _ => pure ()
  pure v

/-- The keys of a dictionary from the last to the first. -/
def keysBackwards (args : List Value) : Eval Value := do
  let s := (← get).store
  match args with
  | .dict d :: _ => Eval.newList ((s.dict d).entries.reverse.map fun e => .str e.1)
  | _ => fail (.custom "keys: overridden")

/-- All of these functions by name. -/
def all : UserFunctions
  | "Double" => some double
  | "Args" => some Eval.newList
  | "Fail" => some fun _ => fail (.custom "E605: user function failed")
  | "Nothing" => some fun _ => pure .null
  | "Say" => some say
  | "Wipe" => some wipe
  | "Cycle" => some fun _ => cycle
  | "keys" => some keysBackwards
  | _ => none

/-- No functions. -/
def empty : UserFunctions := fun _ => none

end ScriptBridge.Host.Functions
