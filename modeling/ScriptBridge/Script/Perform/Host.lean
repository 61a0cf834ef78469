import ScriptBridge.Command.Line
import ScriptBridge.Host.Command
import ScriptBridge.Script.Produced

/-!
# Statements on the host

The host interpreter, the editor and host values, used directly.
-/

namespace ScriptBridge.Script

open Host (Value Change DictRef ListRef Store LockError)

/-- Performs an operation of the host interpreter. -/
def performService : ServiceAction → Act Failure Produced
  | .command line => do
    let functions := (← get).functions
    Bridge.host (Host.runCommand functions line)
    return .nothing
  | .eval text => do
    let functions := (← get).functions
    return .value (← Bridge.host (Host.evalText functions text))
  | .call name args => do
    let args ← buildHostAll args
    let functions := (← get).functions
    return .value (← Bridge.host (Host.callFunction functions name args))
  | .resolve line => do
    let line ← (Act.ofExcept (Command.Line.parse line)).mapError .parse
    match line.range with
    | none => return .nothing
    | some r =>
      let (first, last) ← (Act.ofExcept (r.resolve (← get).editor)).mapError .parse
      return .answer (.list [.int first, .int last])

/-- An answer that may be missing. -/
def optional {α : Type} (answer : α → Answer) : Option α → Answer
  | some x => answer x
  | none => .nothing

/-- A number as an answer. -/
def natAnswer (n : Nat) : Answer := .int n

/-- An operation on the editor that answers nothing. -/
def changing (c : Change Unit) : Act Failure Produced := do
  Bridge.change c
  return .nothing

/-- An operation on the editor that answers a new identifier. -/
def creating (c : Change Nat) : Act Failure Produced := do
  let id ← Bridge.change c
  return .int id

/-- Changes the editor. -/
def modifyEditor {ε : Type} (f : Host.Editor → Host.Editor) : Act ε Unit :=
  modify fun b => b.withEditor (f b.editor)

/-- Performs an operation on the editor. -/
def performEditor : EditorAction → Act Failure Produced
  | .state => do return .answer (.editor (viewEditor (← get).editor))
  | .destroyed => do
    let b ← get
    set { b with noticed := b.editor.departed.length }
    return .answer (.list ((b.editor.departed.drop b.noticed).map .entity))
  | .addBuffer name lines => creating (Change.addBuffer name lines)
  | .rename id name => changing (Change.renameBuffer id name)
  | .replace id lo hi lines => changing (Change.replaceLines id lo hi lines)
  | .insert id after lines => changing (Change.insertLines id after lines)
  | .wipe id => changing (Change.wipeBuffer id)
  | .split id => creating (Change.splitWindow id)
  | .closeWindow id => changing (Change.closeWindow id)
  | .newTab id => creating (Change.newTab id)
  | .closeTab id => changing (Change.closeTab id)
  | .setCursor id row col => changing (Change.setCursor id row col)
  | .setWindow id => changing (Change.setCurrentWindow id)
  | .setTab id => changing (Change.setCurrentTab id)
  | .setBuffer id => changing (Change.setCurrentBuffer id)
  | .numbers id => do
    let e := (← get).editor
    return .answer (.list [optional natAnswer (e.windowTab? id),
      optional natAnswer (e.windowNumber? id), optional natAnswer (e.tabNumber? id),
      natAnswer e.cursorLine])
  | .say text => do
    modifyEditor (·.say (.info text))
    return .nothing
  | .sayError text => do
    modifyEditor (·.say (.error text))
    return .nothing
  | .messages => do return .texts ((← get).editor.messages.map (·.text))
  | .fresh =>
    let e := Host.Editor.new
    return .answer (.list [.text e.debug, natAnswer e.currentTab, natAnswer e.currentWindow,
      natAnswer e.currentBuffer, natAnswer e.cursorLine])
  | .debug => do return .text (← get).editor.debug

/-- The dictionary of the scope with a letter; other letters stand for the global variables. -/
def scopeDict (e : Host.Editor) (scope : Char) : DictRef :=
  let found (vars : Option DictRef) : DictRef := vars.getD e.globals
  match scope with
  | 'v' => e.editorVars
  | 'b' => found ((e.buffer? e.currentBuffer).map (·.vars))
  | 'w' => found ((e.window? e.currentWindow).map (·.vars))
  | 't' => found ((e.tab? e.currentTab).map (·.vars))
  | _ => e.globals

/-- The list that a value is; breaks down for another value. -/
def theList (h : HostTerm) : Act LockError ListRef := do
  match ← buildHost h with
  | .list l => pure l
  | _ => Act.crash

/-- The dictionary that a value is; breaks down for another value. -/
def theDict (h : HostTerm) : Act LockError DictRef := do
  match ← buildHost h with
  | .dict d => pure d
  | _ => Act.crash

/-- A change of a container that answers nothing. -/
def storing (f : Store → Except LockError Store) : Act LockError Produced := do
  Bridge.store f
  return .nothing

/-- The readings of a value. -/
def readings (s : Store) (v : Value) : Answer :=
  .readings v.typeName (s.isTruthy v) v.asNumber? (s.echo v) (s.show v) (s.debug v)

/-- An old value, or that there was none. -/
def oldValue : Option Value → Produced
  | some v => .value v
  | none => .answer .absent

/-- Performs an operation on host values. -/
def performValue : ValueAction → Act LockError Produced
  | .debugContents h => do
    let v ← buildHost h
    let s := (← get).editor.store
    return .text (match v with
      | .func name bound => s.debugFunction name bound
      | v => s.debug v)
  | .rebuild h | .build h => do return .value (← buildHost h)
  | .readings h => do
    let v ← buildHost h
    return .answer (readings (← get).editor.store v)
  | .equal a b => do
    let x ← buildHost a
    let y ← buildHost b
    return .bool ((← get).editor.store.equal x y)
  | .same a b => do
    let x ← buildHost a
    let y ← buildHost b
    return .bool (match x, y with
      | .list l, .list m => l == m
      | .dict d, .dict e => d == e
      | _, _ => false)
  | .arguments h args => do
    let v ← buildHost h
    let args ← buildHostAll args
    let s := (← get).editor.store
    match v with
    | .func _ bound => return .answer (.list ((bound ++ args).map fun x => .value (viewValue s x)))
    | _ => Act.crash
  | .setLock h lock => do
    match ← buildHost h with
    | .list l => storing (·.lockList l lock)
    | .dict d => storing (·.lockDict d lock)
    | _ => Act.crash
  | .lock h => do
    let v ← buildHost h
    let s := (← get).editor.store
    match v with
    | .list l => return .answer (.list [.lock (s.list l).lock])
    | .dict d => return .answer (.list [.lock (s.dict d).lock, .scope (s.dict d).scope])
    | _ => Act.crash
  | .length h => do
    let v ← buildHost h
    let s := (← get).editor.store
    let answer (n : Nat) : Produced := .answer (.list [.int n, .bool (n == 0)])
    match v with
    | .list l => return answer (s.list l).items.length
    | .dict d => return answer (s.dict d).entries.length
    | _ => Act.crash
  | .push h v => do
    let l ← theList h
    let v ← buildHost v
    storing (·.push l v)
  | .getItem h i => do
    let l ← theList h
    return oldValue ((← get).editor.store.list l).items[i]?
  | .setItem h i v => do
    let l ← theList h
    let v ← buildHost v
    storing (·.setItem l i v)
  | .removeItem h i => do
    let l ← theList h
    let old := ((← get).editor.store.list l).items[i]?
    Bridge.store (·.removeItem l i)
    return oldValue old
  | .splice h lo hi vs => do
    let l ← theList h
    let vs ← buildHostAll vs
    storing (·.splice l lo hi vs)
  | .extend h vs => do
    let l ← theList h
    let vs ← buildHostAll vs
    storing (·.extend l vs)
  | .getEntry h key => do
    let d ← theDict h
    let s := (← get).editor.store
    return .answer (.list [.bool (s.get? d key).isSome,
      optional (fun v => .value (viewValue s v)) (s.get? d key)])
  | .setEntry h key v => do
    let d ← theDict h
    let v ← buildHost v
    let old := (← get).editor.store.get? d key
    Bridge.store (·.insert d key v)
    return oldValue old
  | .removeEntry h key => do
    let d ← theDict h
    let old := (← get).editor.store.get? d key
    Bridge.store (·.erase d key)
    return oldValue old
  | .keys h => do
    let d ← theDict h
    return .texts (((← get).editor.store.dict d).entries.map (·.1))
  | .setVariable scope key h => do
    let v ← buildHost h
    let d := scopeDict (← get).editor scope
    Bridge.store (·.insert d key v)
    return .nothing
  | .scope scope => do return .value (.dict (scopeDict (← get).editor scope))

end ScriptBridge.Script
