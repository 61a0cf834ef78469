import ScriptBridge.Files
import ScriptBridge.Foreign.Object
import ScriptBridge.Foreign.Shape
import ScriptBridge.Host.Functions
import ScriptBridge.Library.Loader
import ScriptBridge.Script.Answer
import ScriptBridge.Script.Statement

/-!
# The state of the bridge

One editor, one interpreter, and what connects them: the registry of the proxies that stand for
editor entities, the handoff, the output that is not shown yet, and the objects that are in use.
-/

namespace ScriptBridge

open Foreign (ObjRef Objects Object Stream InterpreterKind)
open Host (Editor Entity Value UserFunctions)
open Script (Lifecycle ScriptLog)

/-- The interpreter. -/
structure Interpreter where
  kind : InterpreterKind
  /-- Whether starting it fails. -/
  failing : Bool := false
  libraryName : String := ""
  siblings : List String := []
  loader : Library.Loader := Library.Loader.plain
  binding : Option Library.Binding := none
  initialized : Bool := false
  modules : List (String × ObjRef) := []
  stdout : Option ObjRef := none
  stderr : Option ObjRef := none
  /-- Source texts that were run or evaluated. -/
  history : List String := []
  scripts : List (String × Script.Content) := []
  /-- The files that scripts can open. -/
  files : Files.Tree := .ofFiles []
  /-- The objects that have names in scripts. -/
  names : List (String × ObjRef) := []
  /-- The constants of the source text that runs. -/
  constants : List ObjRef := []
  /-- The words among the constants of all source texts. -/
  words : List ObjRef := []

/-- Whether the editor is in use elsewhere. -/
inductive Loan where
  | free
  | shared
  | exclusive
deriving DecidableEq

/-- The bridge. -/
structure Bridge where
  editor : Editor
  loan : Loan := .free
  functions : UserFunctions
  objects : Objects := {}
  interpreter : Interpreter
  /-- Whether there is a session between editor and interpreter. -/
  attached : Bool := true
  registry : List (Entity × ObjRef) := []
  handoff : Handoff
  lifecycle : Lifecycle := .uninitialized
  disabledReason : String := ""
  pendingOut : String := ""
  pendingErr : String := ""
  softspace : Int64 := 0
  /-- The first and the last line given to the command that runs. -/
  range : Int64 × Int64 := (1, 1)
  /-- Objects in use by what runs now. -/
  held : List ObjRef := []
  /-- The library that the process has bound. -/
  processBinding : Option Library.Binding := none
  /-- Host values with names. -/
  hostNames : List (String × Value) := []
  /-- How many destructions have been asked for. -/
  noticed : Nat := 0
  /-- Scripts that ran under the statement that runs now. -/
  logs : List ScriptLog := []

/-- A computation of the bridge. What it changed before an error or a crash stays changed. -/
abbrev Act (ε : Type) := EStateM (Stop ε) Bridge

namespace Act

variable {ε δ α : Type}

/-- Fails. -/
def fail (e : ε) : Act ε α := throw (.error e)

/-- Breaks down. -/
def crash : Act ε α := throw .crash

/-- The same computation with another wording of its error. -/
def mapError (f : ε → δ) (a : Act ε α) : Act δ α := fun b =>
  match a b with
  | .ok x b => .ok x b
  | .error e b => .error (e.map f) b

/-- The error of a computation as its result. A crash goes through. -/
def attempt {σ : Type} (a : EStateM (Stop ε) σ α) : EStateM (Stop δ) σ (Except ε α) := fun b =>
  match a b with
  | .ok x b => .ok (.ok x) b
  | .error (.error e) b => .ok (.error e) b
  | .error .crash b => .error .crash b

/-- Runs a computation, and changes the state after it however it ends. -/
def ensuring {σ : Type} (f : σ → σ) (a : EStateM ε σ α) : EStateM ε σ α := fun s =>
  match a s with
  | .ok x s => .ok x (f s)
  | .error e s => .error e (f s)

/-- A result that is already known. -/
def ofExcept : Except ε α → Act ε α
  | .ok x => pure x
  | .error e => fail e

end Act

-- A failure is lifted in one step where there is one: that step has the higher priority.
instance : MonadLift (Act ForeignError) (Act ConvertError) := ⟨Act.mapError .foreign⟩
instance : MonadLift (Act ConvertError) (Act ProxyError) := ⟨Act.mapError .convert⟩
instance (priority := high) : MonadLift (Act ForeignError) (Act ProxyError) :=
  ⟨Act.mapError .foreign⟩

namespace Bridge

variable {ε : Type}

/-- What keeps objects alive: variables, modules, output streams, attributes of classes, and what is
in use. -/
def roots (b : Bridge) : List ObjRef :=
  b.held ++ b.interpreter.names.map (·.2) ++ b.interpreter.modules.map (·.2) ++
    b.interpreter.stdout.toList ++ b.interpreter.stderr.toList ++ b.objects.classDictionaries

/-- The object that a reference names. -/
def object (r : ObjRef) : Act ε Object := do return (← get).objects.get r

/-- A new object, which is in use. -/
def alloc (x : Object) : Act ε ObjRef :=
  modifyGet fun b =>
    let (r, objects) := b.objects.alloc x
    (r, { b with objects, held := r :: b.held })

/-- Replaces an object. -/
def setObject (r : ObjRef) (x : Object) : Act ε Unit :=
  modify fun b => { b with objects := b.objects.set r x }

/-- Uses an object. -/
def hold (r : ObjRef) : Act ε Unit := modify fun b => { b with held := r :: b.held }

/-- Runs a computation; of the objects it used, only those that its result keeps stay in use. -/
def confine {α : Type} (kept : α → List ObjRef) (a : Act ε α) : Act ε α := fun b =>
  match a b with
  | .ok x b' => .ok x { b' with held := kept x ++ b.held }
  | .error e b' => .error e { b' with held := b.held }

/-- The proxies of destroyed entities stand for nothing, and are no longer registered. -/
def invalidate (b : Bridge) (key : Entity) : Bridge :=
  match b.registry.find? (·.1 = key) with
  | none => b
  | some (_, r) =>
    let objects := match b.objects.get r with
      | .proxy cls _ => b.objects.set r (.proxy cls .invalid)
      | _ => b.objects
    { b with objects, registry := b.registry.filter (·.1 ≠ key) }

/-- The bridge with a changed editor; what was destroyed meanwhile is invalidated. -/
def withEditor (b : Bridge) (e : Editor) : Bridge :=
  (e.departed.drop b.editor.departed.length).foldl invalidate { b with editor := e }

end Bridge

/-- The failure when the editor is in use elsewhere. -/
def busyText : String := "editor is busy"

namespace Bridge

variable {α : Type}

/-- Reads the editor. -/
def readEditor : Act ProxyError Editor := do
  let b ← get
  if b.loan = .exclusive then Act.fail (.host busyText) else pure b.editor

/-- Whether the editor can be changed now. -/
def demandEditor : Act ProxyError Unit := do
  if (← get).loan ≠ .free then Act.fail (.host busyText)

/-- A computation of the host interpreter on the editor of the bridge. -/
def host (a : Host.Eval α) : Act Host.HostError α := fun b =>
  match a b.editor with
  | .ok x e => .ok x (b.withEditor e)
  | .error stop e => .error stop (b.withEditor e)

/-- An operation on the editor of the bridge. -/
def change (c : Host.Change α) : Act Host.EditorError α := fun b =>
  match c b.editor with
  | .ok x e => .ok x (b.withEditor e)
  | .error err e => .error (.error err) (b.withEditor e)

/-- A computation of the host interpreter for a script. -/
def serve (a : Host.Eval α) : Act ProxyError α := do
  demandEditor
  (host a).mapError ProxyError.ofHost

/-- A change of the editor by a script, which is allowed only while a script runs. -/
def hostWrite (c : Host.Change α) : Act ProxyError α := do
  if (← get).handoff.side ≠ .foreign then
    Act.fail (.host "editor state can only be changed from inside a script")
  demandEditor
  (change c).mapError ProxyError.ofEditor

/-- A change of the containers. -/
def store (f : Host.Store → Except Host.LockError Host.Store) : Act Host.LockError Unit := do
  let b ← get
  match f b.editor.store with
  | .ok store => set { b with editor := { b.editor with store } }
  | .error e => Act.fail e

/-- Shows a message if the editor is free. -/
def say {ε : Type} (m : Host.Message) : Act ε Unit :=
  modify fun b => if b.loan = .free then { b with editor := b.editor.say m } else b

/-- A new list of host values. -/
def newList {ε : Type} (items : List Value) : Act ε Host.ListRef :=
  modifyGet fun b =>
    let (l, store) := b.editor.store.newList items
    (l, { b with editor := { b.editor with store } })

/-- A new dictionary of host values. -/
def newDict {ε : Type} (entries : List (String × Value)) (scope : Host.Scope := .plain) :
    Act ε Host.DictRef :=
  modifyGet fun b =>
    let (d, store) := b.editor.store.newDict entries scope
    (d, { b with editor := { b.editor with store } })

end Bridge

end ScriptBridge
