import ScriptBridge.Host.Editor.Change
import ScriptBridge.Host.Error

/-!
# Evaluation

Evaluating host code changes the editor and ends with a value, an error or a crash. What was
changed before an error or a crash stays changed.
-/

namespace ScriptBridge

/-- How a computation ends without a result. -/
inductive Stop (ε : Type) where
  | error (e : ε)
  /-- The computation broke down. -/
  | crash
deriving DecidableEq

/-- The same end with another wording of the error. -/
def Stop.map {ε δ : Type} (f : ε → δ) : Stop ε → Stop δ
  | .error e => .error (f e)
  | .crash => .crash

namespace Host

/-- A computation of the host interpreter. -/
abbrev Eval := EStateM (Stop HostError) Editor

namespace Eval

/-- Fails. -/
def fail {α : Type} (e : HostError) : Eval α := throw (.error e)

/-- An editor operation as a part of a computation. -/
def change {α : Type} (c : Change α) : Eval α := fun e =>
  match c e with
  | .ok a e => .ok a e
  | .error err e => .error (.error (.editor err)) e

/-- A change of the containers, whose refusal is a failure. -/
def store (f : Store → Except LockError Store) : Eval Unit := do
  match f (← get).store with
  | .ok store => modify fun e => { e with store }
  | .error reason => fail (.locked reason)

/-- A new list. -/
def newList (items : List Value) : Eval Value :=
  modifyGet fun e =>
    let (l, store) := e.store.newList items
    (.list l, { e with store })

/-- A new dictionary. -/
def newDict (entries : List (String × Value)) : Eval Value :=
  modifyGet fun e =>
    let (d, store) := e.store.newDict entries
    (.dict d, { e with store })

/-- Shows a message. -/
def say (m : Message) : Eval Unit := modify (·.say m)

end Eval

/-- A function defined by the user. -/
abbrev UserFunction := List Value → Eval Value

/-- The functions defined by the user, by name. They come before the built-in ones. -/
abbrev UserFunctions := String → Option UserFunction

/-!
### Variables

A variable name is a name alone or a scope letter, a colon and a name. A name alone is a global.
-/

/-- The letter of a variable scope and the name in it, if the text is a variable name at all. -/
def splitVariable? (name : String) : Option (Char × String) :=
  let s := name.toList
  let (scope, key) := match s with
    | c :: ':' :: key => if c.toNat < 128 && c ≠ ':' then (c, key) else ('g', s)
    | _ => ('g', s)
  if key.isEmpty || !key.all fun c => c.isAlphanum || c = '_' then none
  else some (scope, String.ofList key)

/-- The dictionary that holds a variable, and its key there. -/
def Editor.scopeOf (e : Editor) (name : String) : Except HostError (DictRef × String) :=
  match splitVariable? name with
  | none => .error (.illegalName name)
  | some (scope, key) =>
    let found (vars : Option DictRef) (kind : String) : Except HostError (DictRef × String) :=
      match vars with
      | some d => .ok (d, key)
      | none => .error (.noCurrent kind)
    match scope with
    | 'g' => .ok (e.globals, key)
    | 'v' => .ok (e.editorVars, key)
    | 'b' => found ((e.buffer? e.currentBuffer).map (·.vars)) "buffer"
    | 'w' => found ((e.window? e.currentWindow).map (·.vars)) "window"
    | 't' => found ((e.tab? e.currentTab).map (·.vars)) "tab page"
    | _ => .error (.illegalName name)

/-- `scopeOf` as a part of a computation. -/
def Eval.scopeOf (name : String) : Eval (DictRef × String) := do
  match (← get).scopeOf name with
  | .ok r => pure r
  | .error e => Eval.fail e

end Host

end ScriptBridge
