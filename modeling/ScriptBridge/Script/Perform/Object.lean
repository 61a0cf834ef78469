import ScriptBridge.Script.Produced

/-!
# Statements on objects

The operations of scripts on objects, and the slots of proxies called directly.
-/

namespace ScriptBridge.Script

open Foreign (ObjRef Object ProxyClass Target)

/-- A new list object. -/
def newList {ε : Type} (items : List ObjRef) : Act ε Produced := do
  return .object (← Bridge.alloc (.list items))

/-- The `repr()` of an object. -/
def reprOf (r : ObjRef) : Act ForeignError String := do
  match ← kind with
  | .scripted => Bridge.textOf r
  | .library => return (← get).literal r

/-- Writes to the output stream that is installed. -/
def printTexts (texts : List String) : Act ForeignError Unit := do
  let _ ← readStream .out
  for text in texts do Proxy.slot (Proxy.write .out text)

/-- The direct readings of an object. -/
def inspection (b : Bridge) (r : ObjRef) : Answer :=
  let x := b.objects.get r
  let text := match x with
    | .str s => some s
    | .bytes bs => some (Text.decode bs)
    | _ => none
  let isNull := match x with
    | .null => true
    | _ => false
  .inspection (intKey? b r) text isNull (x.elements?.map (·.map (viewObject b)))

/-- Whether a proxy stands for something, and the entity that it stands for. Nothing for other
objects. -/
def validity (b : Bridge) (r : ObjRef) : Answer :=
  match b.objects.target? r with
  | none => .nothing
  | some t =>
    .list [.bool t.isValid, if t.entity?.isSome then .text (t.debug b.objects) else .nothing]

/-- Changes an object in place by a method: a list, or in a library's interpreter any object that
has such a method. -/
def changeBy (command : String → Act BridgeError Unit) (r : ObjRef) (method : String)
    (args : List ObjRef) (f : List ObjRef → List ObjRef) : Act ForeignError Unit := do
  match ← Bridge.object r, ← kind, method with
  | .list items, _, _ => Bridge.setObject r (.list (f items))
  | _, .scripted, _ => pure ()
  | _, .library, _ =>
    let _ ← call command (← getAttr r method) args []

/-- Performs an operation on objects; `command` runs a command line. -/
def performObject (command : String → Act BridgeError Unit) :
    ObjectAction → Act ForeignError Produced
  | .build v => do return .object (← build v)
  | .drop name => do
    let found := ((← get).interpreter.names.lookup name).isSome
    modify fun b => { b with interpreter := { b.interpreter with
      names := b.interpreter.names.filter (·.1 ≠ name) } }
    return .bool found
  | .getAttr o name => do return .object (← getAttr (← build o) name)
  | .setAttr o v name => do
    let r ← build o
    let v ← build v
    setAttr r name (some v)
    return .nothing
  | .deleteAttr o name => do
    setAttr (← build o) name none
    return .nothing
  | .getItem o k => do
    let r ← build o
    let k ← build k
    return .object (← getItem r k)
  | .setItem o k v => do
    let r ← build o
    let k ← build k
    let v ← build v
    setItem r k (some v)
    return .nothing
  | .deleteItem o k => do
    let r ← build o
    let k ← build k
    setItem r k none
    return .nothing
  | .length o => do return .int (← length (← build o))
  | .call o args keywords => do
    let r ← build o
    let args ← buildAll args
    let keywords ← buildNamed keywords
    return .object (← call command r args keywords)
  | .callMethod o args keywords name => do
    let r ← build o
    let args ← buildAll args
    let keywords ← buildNamed keywords
    let method ← getAttr r name
    return .object (← call command method args keywords)
  | .iterate o => do newList (← iterate (← build o))
  | .contains o v => do
    let r ← build o
    return .bool (← contains r (← build v))
  | .repr o => do return .text (← reprOf (← build o))
  | .text o => do return .text (← Bridge.textOf (← build o))
  | .typeName o => do return .text (← Bridge.typeName (← build o))
  | .debug o => do
    let r ← build o
    return .text ((← get).objects.debug r)
  | .inspect o => do
    let r ← build o
    return .answer (inspection (← get) r)
  | .textDict entries => do
    let entries ← (← buildNamed entries).mapM fun e => do
      return (← Bridge.alloc (.str e.1), e.2)
    return .object (← Bridge.alloc (.dict entries))
  | .identical a b => do
    let r ← build a
    let s ← build b
    return .bool ((← get).identical r s)
  | .validity o => do
    let r ← build o
    return .answer (validity (← get) r)
  | .push o v => do
    let r ← build o
    let v ← build v
    changeBy command r "append" [v] (· ++ [v])
    return .object r
  | .clear o => do
    changeBy command (← build o) "clear" [] fun _ => []
    return .nothing
  | .print text => do
    printTexts [text ++ "\n"]
    return .nothing
  | .printObject o => do
    let r ← build o
    printTexts [← Bridge.textOf r, "\n"]
    return .nothing
  | .arguments => do newList [← Bridge.alloc (.str "")]

/-- The class and the target of a proxy object. -/
def proxyOf (r : ObjRef) : Act ProxyError (ProxyClass × Target) := do
  match ← Bridge.object r with
  | .proxy cls t => pure (cls, t)
  | _ => Act.crash

/-- Calls a slot of a proxy; `command` runs a command line. -/
def performSlot (command : String → Act BridgeError Unit) : SlotAction → Act Failure Produced
  | .item o i => do
    let (cls, t) ← proxyOf (← build o)
    return .object (← Proxy.item cls t i)
  | .assignItem o i v => do
    let (cls, t) ← proxyOf (← build o)
    let v ← buildOption v
    Proxy.assignItem cls t i v
    return .nothing
  | .iterate o => do
    let (cls, t) ← proxyOf (← build o)
    return .object (← Proxy.iterate cls t)
  | .getAttr o name => do
    let (cls, t) ← proxyOf (← build o)
    match ← Proxy.getAttr? cls t name with
    | some r => return .object r
    | none => return .answer .missing
  | .setAttr o v name => do
    let (cls, t) ← proxyOf (← build o)
    let v ← buildOption v
    Proxy.setAttr cls t name v
    return .nothing
  | .length o => do
    let (cls, t) ← proxyOf (← build o)
    return .int (← Proxy.length cls t)
  | .subscript o k => do
    let (cls, t) ← proxyOf (← build o)
    let k ← build k
    return .object (← Proxy.subscript cls t k)
  | .call o args => do
    let (cls, t) ← proxyOf (← build o)
    let args ← buildAll args
    return .object (← Proxy.call command cls t args)

end ScriptBridge.Script
