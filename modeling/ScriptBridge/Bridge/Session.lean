import ScriptBridge.Convert.ToHost
import ScriptBridge.Proxy.Output
import ScriptBridge.Bridge.Registry

/-!
# The session

The interpreter is started when it is first needed. A start that fails is not tried again, and an
interpreter that was shut down is not started again. Running and evaluating enter the interpreter,
and leave it whatever the outcome.
-/

namespace ScriptBridge

open Foreign (ObjRef Object ProxyClass Target InterpreterKind)
open Host (Value)
open Script (Lifecycle)

/-- How the interpreter runs and evaluates source texts. -/
structure Engine where
  run : String → Act ForeignError Unit
  eval : String → Act ForeignError ObjRef

namespace Session

/-- The name of the module that scripts import. -/
def moduleName : String := "vim"

/-! ### Starting and stopping -/

/-- Binds the library of the interpreter. -/
def bind : Act LinkError Unit := do
  let b ← get
  let i := b.interpreter
  match i.kind with
  | .scripted =>
    if i.failing then Act.fail (.libraryNotFound "stub" "disabled")
  | .library =>
    if i.binding.isNone then
      let binding ← Act.ofExcept (i.loader.bind b.processBinding i.libraryName i.siblings)
      set { b with
        processBinding := some binding
        interpreter := { i with binding := some binding } }

/-- The attributes of the module, beside its exception class. -/
def newMembers (b : Bridge) : List (String × Object) :=
  [("buffers", .proxy .bufferMap .buffers),
    ("windows", .proxy .windowList (.windows none)),
    ("tabpages", .proxy .tabList .tabPages),
    ("current", .proxy .current .current),
    ("vars", .proxy .dictionary (.dict b.editor.globals)),
    ("vvars", .proxy .dictionary (.dict b.editor.editorVars)),
    ("command", .proxy .builtin (.builtin .command)),
    ("eval", .proxy .builtin (.builtin .eval)),
    ("bindeval", .proxy .builtin (.builtin .bindEval)),
    ("VAR_LOCKED", .int Host.Lock.locked.toInt.toInt),
    ("VAR_FIXED", .int Host.Lock.fixed.toInt.toInt),
    ("VAR_SCOPE", .int Host.Scope.scoped.toInt.toInt),
    ("VAR_DEF_SCOPE", .int Host.Scope.default.toInt.toInt)]

/-- A new module. That of a library keeps its attributes in a dictionary, behind those that every
module has. -/
def newModule (name : String) (members : List (String × ObjRef)) : Act ProxyError ObjRef := do
  match (← get).interpreter.kind with
  | .scripted => Bridge.alloc (.module name members)
  | .library =>
    let own : List (String × Object) := ("__name__", .str name) ::
      ["__doc__", "__package__", "__loader__", "__spec__"].map fun n => (n, .null)
    let own ← own.mapM fun m => do return (m.1, ← Bridge.alloc m.2)
    let entries ← (own ++ members).mapM fun m => do return (← Bridge.alloc (.str m.1), m.2)
    let d ← Bridge.alloc (.dict entries)
    let module ← Bridge.alloc (.module name [])
    modify fun b => { b with objects := b.objects.withDictionary (.object module) d }
    pure module

/-- Installs the module and the output streams. -/
def install : Act ProxyError Unit := do
  let _ ← Bridge.readEditor
  let members := ("error", Object.type .error) :: newMembers (← get)
  let members ← members.mapM fun m => do return (m.1, ← Bridge.alloc m.2)
  let module ← newModule moduleName members
  let stdout ← Bridge.wrap .output (.output .out)
  let stderr ← Bridge.wrap .output (.output .err)
  modify fun b => { b with interpreter := { b.interpreter with
    modules := [(moduleName, module)], stdout := some stdout, stderr := some stderr } }

/-- No later start is tried, for a reason. -/
def disable (reason : String) : Act BridgeError Unit :=
  modify fun b => { b with disabledReason := reason, lifecycle := .disabled }

/-- Adds an operation on the interpreter lock. -/
def lockEvent {ε : Type} (event : LockEvent) : Act ε Unit :=
  modify fun b => { b with handoff := { b.handoff with locks := b.handoff.locks ++ [event] } }

/-- Starts the interpreter. -/
def start : Act BridgeError Unit := do
  let bound : Except LinkError Unit ← Act.attempt bind
  match bound with
  | .error e =>
    disable e.message
    Act.fail (.link e)
  | .ok () =>
    modify fun b => { b with interpreter := { b.interpreter with initialized := true } }
    let installed : Except ProxyError Unit ← Act.attempt install
    lockEvent .initialRelease
    match installed with
    | .ok () => modify fun b => { b with lifecycle := .ready }
    | .error e =>
      let e := BridgeError.init e.message
      disable e.message
      Act.fail e

/-- Starts the interpreter unless it runs. -/
def ensureReady : Act BridgeError Unit := do
  let b ← get
  match b.lifecycle with
  | .ready => pure ()
  | .disabled => Act.fail (.disabled b.disabledReason)
  | .finalized => Act.fail .finalized
  | .uninitialized => start

/-- Whether the interpreter runs or its library can be bound. -/
def probe {ε : Type} : Act ε Bool := do
  match (← get).lifecycle with
  | .ready => pure true
  | .disabled | .finalized => pure false
  | .uninitialized =>
    let bound : Except LinkError Unit ← Act.attempt bind
    pure bound.isOk

/-- Stops the interpreter: its modules and streams are gone, and the variables of a library's
interpreter too. -/
def stop (b : Bridge) : Bridge :=
  let i := { b.interpreter with
    initialized := false, modules := [], stdout := none, stderr := none }
  match i.kind with
  | .scripted => { b with interpreter := i }
  | .library => { b with interpreter := { i with names := [] }, processBinding := none }

/-- Shuts the interpreter down. The lock is taken and not given back. -/
def shutdown {ε : Type} : Act ε Unit := do
  let b ← get
  if b.lifecycle = .ready && b.interpreter.initialized then
    modify Bridge.clearRegistry
    lockEvent (.acquire b.handoff.mode)
    modify stop
  if b.lifecycle ≠ .disabled then modify fun b => { b with lifecycle := .finalized }

/-! ### Running -/

/-- Enters the interpreter for a computation, and leaves it however the computation ends. None of
the objects that it used stays in use. -/
def inside {ε δ α : Type} (a : Act ε α) : Act δ (Except HandoffError (Except ε α)) := do
  match (← get).handoff.enter with
  | .error e => pure (.error e)
  | .ok (guard_, handoff) =>
    modify fun b => { b with handoff }
    let leave (b : Bridge) : Bridge := { b with handoff := b.handoff.leave guard_ }
    let result : Except ε α ← Act.attempt (Act.ensuring leave (Bridge.confine (fun _ => []) a))
    pure (.ok result)

/-- The lines that a command is given: those of its range, or the cursor line. -/
def linesFor (b : Bridge) (range : Option (Int64 × Int64)) : Int64 × Int64 :=
  let line := if b.loan = .exclusive then 1 else Int64.ofNat b.editor.cursorLine
  range.getD (line, line)

/-- Runs a source text. -/
def execute (engine : Engine) (code : String) (range : Option (Int64 × Int64)) :
    Act BridgeError Unit := do
  ensureReady
  let before := (← get).range
  modify fun b => { b with range := linesFor b range }
  let result ← inside (engine.run code)
  modify fun b => { b with range := before }
  match result with
  | .error e => Act.fail (.handoff e)
  | .ok outcome =>
    Proxy.flush
    match outcome with
    | .ok () => pure ()
    | .error e => Act.fail (.execute e)

/-- Evaluates a source text and converts the result. -/
def evalAndConvert (engine : Engine) (code : String) : Act BridgeError Value := do
  let r ← (engine.eval code).mapError .eval
  (Convert.toHost r).mapError .convert

/-- The value of a source text; no value counts as zero. -/
def evaluate (engine : Engine) (code : String) : Act BridgeError Value := do
  ensureReady
  match ← inside (evalAndConvert engine code) with
  | .error e => Act.fail (.handoff e)
  | .ok outcome =>
    Proxy.flush
    match outcome with
    | .ok .null => pure (.number 0)
    | .ok v => pure v
    | .error e => Act.fail e

/-- Tells the user about a failure, unless the interpreter has done so. -/
def report {ε : Type} (e : BridgeError) : Act ε Unit :=
  if e = .execute .reported then pure () else Bridge.say (.error e.message)

end Session

end ScriptBridge
