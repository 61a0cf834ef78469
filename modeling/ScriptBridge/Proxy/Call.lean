import ScriptBridge.Proxy.Attribute
import ScriptBridge.Proxy.Item
import ScriptBridge.Proxy.Output

/-!
# Calls of proxies

The functions of the module, functions of the host, and methods.
-/

namespace ScriptBridge.Proxy

open Foreign (ObjRef ProxyClass Target Builtin Stream InterpreterKind)

/-- The exception for a proxy that broke down. -/
def internalError : ForeignError := .exception (.other "RuntimeError") "vim: internal error"

/-- An error text as a library takes it, which ends at the first null character: null characters
are spelled out. -/
def spellNull (s : String) : String :=
  String.ofList (s.toList.flatMap fun c => if c = '\x00' then ['\\', '0'] else [c])

/-- The exception that a library raises for a failure of a proxy. -/
def raised (e : ProxyError) : ForeignError :=
  match e.toForeign with
  | .exception kind text => .exception kind (spellNull text)
  | .absentKey key text => .absentKey key text
  | e => .exception .bridge e.message

/-- An operation of a proxy with its failures as exceptions that a library raises; it does not
break down. -/
def guarded {α : Type} (a : Act ProxyError α) : Act ForeignError α := fun b =>
  match a b with
  | .ok x b => .ok x b
  | .error (.error e) b => .error (.error (raised e)) b
  | .error .crash b => .error (.error internalError) b

/-- An operation of a proxy as a script calls it. -/
def slot {α : Type} (a : Act ProxyError α) : Act ForeignError α := do
  let b ← get
  if !b.attached then Act.fail .notInitialized
  match b.interpreter.kind with
  | .scripted => a.mapError ProxyError.toForeign
  | .library => guarded a

/-- The items of a proxy by position. -/
def itemsBySlot (cls : ProxyClass) (t : Target) : Act ForeignError (List ObjRef) := do
  if cls.isSequence then
    let n ← slot (length cls t)
    (List.range n).mapM fun (i : Nat) => slot (item cls t i)
  else if cls.isMapping then
    Act.fail (.exception .type (cls.typeName ++ " is not a sequence"))
  else Act.fail (noLength cls.typeName)

/-- The items of any object. -/
def anyItems (r : ObjRef) : Act ForeignError (List ObjRef) := do
  let b ← get
  match b.objects.get r, b.interpreter.kind with
  | .proxy cls t, .library => itemsBySlot cls t
  | _, _ => Bridge.itemsOf r

/-- Writes texts one after another. -/
def writeAll (s : Stream) : List ObjRef → Act ProxyError Unit
  | [] => pure ()
  | r :: rest => do
    write s (← Convert.stringOf r)
    writeAll s rest

/-- The methods of output streams. -/
def outputMethod (s : Stream) (name : String) (args : List ObjRef) : Act ProxyError ObjRef := do
  match name with
  | "write" =>
    arity name args 1 1
    write s (← Convert.stringOf (args.headD default))
  | "writelines" =>
    arity name args 1 1
    writeAll s (← anyItems (args.headD default))
  | "flush" => arity name args 0 0
  | _ => Act.fail (.attribute ("no method " ++ name))
  Bridge.alloc .null

/-- A function of the module; `command` runs a command line. -/
def callBuiltin (command : String → Act BridgeError Unit) (f : Builtin) (args : List ObjRef) :
    Act ProxyError ObjRef := do
  arity f.name args 1 1
  let text ← Convert.stringOf (args.headD default)
  let functions := (← get).functions
  match f with
  | .command =>
    flush
    (command text).mapError fun e => .host e.message
    Bridge.alloc .null
  | .eval =>
    let v ← Bridge.serve (Host.evalText functions text)
    Convert.toForeign v
  | .bindEval =>
    let v ← Bridge.serve (Host.evalText functions text)
    Convert.toForeignBound v

/-- A method. -/
def callMethod (receiver : Target) (cls : ProxyClass) (name : String) (args : List ObjRef) :
    Act ProxyError ObjRef :=
  match cls, receiver with
  | .buffer, t | .range, t => spanMethod t name args
  | .dictionary, .dict d => dictMethod d name args
  | .list, .list l => listMethod l name args
  | .output, .output s => outputMethod s name args
  | .dictionary, _ | .list, _ | .output, _ => Act.fail (.type "bad method receiver")
  | _, _ => Act.fail (.type ("'" ++ cls.typeName ++ "' has no methods"))

/-- Calls a proxy; `command` runs a command line. -/
def call (command : String → Act BridgeError Unit) (cls : ProxyClass) (t : Target)
    (args : List ObjRef) : Act ProxyError ObjRef :=
  match t with
  | .builtin f => callBuiltin command f args
  | .function name bound => callHostFunction name bound args
  | .method receiver owner name => callMethod receiver owner name args
  | .invalid => Act.fail (.deleted cls.entityKind)
  | _ => refuse cls.typeName "is not callable"

end ScriptBridge.Proxy
