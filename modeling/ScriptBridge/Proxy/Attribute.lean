import ScriptBridge.Proxy.Container
import ScriptBridge.Proxy.Span

/-!
# Attributes of proxies

An attribute is one of the target, a method of the class, or the list of the class's attributes,
in this order. Of a proxy whose target is destroyed only `valid` can be read, and it is false.
-/

namespace ScriptBridge.Proxy

open Foreign (ObjRef ProxyClass Target)
open Host (Change DictRef)

/-- A proxy of the variables of an entity. -/
def vars (d : DictRef) : Act ProxyError ObjRef := Bridge.wrap .dictionary (.dict d)

/-- A new integer object. -/
def newInt (n : Int) : Act ProxyError ObjRef := Bridge.alloc (.int n)

/-- An attribute of a buffer. -/
def bufferAttr (id : Nat) (name : String) : Act ProxyError (Option ObjRef) := do
  match (← Bridge.readEditor).buffer? id with
  | none => Act.fail bufferGone
  | some b =>
    match name with
    | "name" => some <$> Bridge.alloc (.str b.name)
    | "number" => some <$> newInt id
    | "vars" => some <$> vars b.vars
    | "valid" => some <$> Bridge.alloc (.bool true)
    | _ => pure none

/-- An attribute of a range; its lines count from zero here. In front of the least number of 64 bits
is the greatest one. -/
def rangeAttr (buffer : Nat) (start last : Int64) (name : String) :
    Act ProxyError (Option ObjRef) := do
  if ((← Bridge.readEditor).buffer? buffer).isNone then Act.fail bufferGone
  match name with
  | "start" => some <$> newInt (start - 1).toInt
  | "end" => some <$> newInt (last - 1).toInt
  | _ => pure none

/-- An attribute of a window. -/
def windowAttr (id : Nat) (name : String) : Act ProxyError (Option ObjRef) := do
  let e ← Bridge.readEditor
  match e.window? id with
  | none => Act.fail (.deleted .window)
  | some w =>
    match name with
    | "buffer" => some <$> Bridge.entity (.buffer w.buffer)
    | "cursor" =>
      let row ← newInt w.row
      let col ← newInt w.col
      some <$> Bridge.alloc (.tuple [row, col])
    | "height" => some <$> newInt w.height
    | "width" => some <$> newInt w.width
    | "vars" => some <$> vars w.vars
    | "number" => some <$> newInt ((e.windowNumber? id).getD 0)
    | "tabpage" =>
      match e.windowTab? id with
      | some tab => some <$> Bridge.entity (.tabPage tab)
      | none => Act.fail (.deleted .tabPage)
    | "valid" => some <$> Bridge.alloc (.bool true)
    | _ => pure none

/-- An attribute of a tab page. -/
def tabPageAttr (id : Nat) (name : String) : Act ProxyError (Option ObjRef) := do
  let e ← Bridge.readEditor
  match e.tab? id with
  | none => Act.fail (.deleted .tabPage)
  | some t =>
    match name with
    | "windows" => some <$> Bridge.wrap .windowList (.windows (some id))
    | "window" => some <$> Bridge.entity (.window t.current)
    | "number" => some <$> newInt ((e.tabNumber? id).getD 0)
    | "vars" => some <$> vars t.vars
    | "valid" => some <$> Bridge.alloc (.bool true)
    | _ => pure none

/-- A proxy of the lines given to the command that runs. -/
def currentRange (buffer : Nat) : Act ProxyError ObjRef := do
  let (start, last) := (← get).range
  let r ← modifyGet fun b =>
    let (r, objects) := b.objects.newEnd last
    (r, { b with objects })
  Bridge.wrap .range (.range buffer start r)

/-- An attribute of what is current. -/
def currentAttr (name : String) : Act ProxyError (Option ObjRef) := do
  let e ← Bridge.readEditor
  match name with
  | "buffer" => some <$> Bridge.entity (.buffer e.currentBuffer)
  | "window" => some <$> Bridge.entity (.window e.currentWindow)
  | "tabpage" => some <$> Bridge.entity (.tabPage e.currentTab)
  | "line" => some <$> currentLine
  | "range" => some <$> currentRange e.currentBuffer
  | _ => pure none

/-- An attribute of an output stream. -/
def outputAttr (name : String) : Act ProxyError (Option ObjRef) := do
  match name with
  | "softspace" => some <$> newInt (← get).softspace.toInt
  | "encoding" => some <$> Bridge.alloc (.str "utf-8")
  | "errors" => some <$> Bridge.alloc (.str "strict")
  | "closed" => some <$> Bridge.alloc (.bool false)
  | _ => pure none

/-- An attribute that a target has of its own. -/
def targetAttr (t : Target) (name : String) : Act ProxyError (Option ObjRef) := do
  let store := (← get).editor.store
  match t with
  | .buffer id => bufferAttr id name
  | .range buffer start last => rangeAttr buffer start ((← get).objects.endOf last) name
  | .window id => windowAttr id name
  | .tabPage id => tabPageAttr id name
  | .current => currentAttr name
  | .dict d =>
    match name with
    | "locked" => some <$> newInt (store.dict d).lock.toInt.toInt
    | "scope" => some <$> newInt (store.dict d).scope.toInt.toInt
    | _ => pure none
  | .list l =>
    if name = "locked" then some <$> newInt (store.list l).lock.toInt.toInt else pure none
  | .function f _ => if name = "name" then some <$> Bridge.alloc (.str f) else pure none
  | .output _ => outputAttr name
  | _ => pure none

/-- The name of the attribute that lists the attributes of a class. -/
def membersName : String := "__members__"

/-- Reads an attribute; nothing if there is none of that name. -/
def getAttr? (cls : ProxyClass) (t : Target) (name : String) : Act ProxyError (Option ObjRef) := do
  if !t.isValid then
    if name = "valid" then return some (← Bridge.alloc (.bool false))
    Act.fail (.deleted cls.entityKind)
  match ← targetAttr t name with
  | some r => pure (some r)
  | none =>
    if name ∈ cls.methods then some <$> Bridge.wrap .method (.method t cls name)
    else if name = membersName then some <$> textList cls.members
    else pure none

/-- Moves the cursor of a window to a row and a column. -/
def setCursor (id : Nat) (value : ObjRef) : Act ProxyError Unit := do
  let malformed : ProxyError := .type "cursor must be a (row, col) tuple"
  let parts ← match ← Bridge.inspect value with
    | .list | .tuple => Bridge.itemsOf value
    | _ => Act.fail malformed
  match parts with
  | [row, col] =>
    let row := (← intOf row).toInt
    let col := (← intOf col).toInt
    if row < 0 then Act.fail (.host Host.EditorError.cursorOutside.message)
    Bridge.hostWrite (Change.setCursor id row.toNat col.toNat)
  | _ => Act.fail malformed

/-- The size that an argument gives. -/
def sizeOf (name : String) (value : ObjRef) : Act ProxyError Nat := do
  let n := (← intOf value).toInt
  if n < 0 then Act.fail (.value (name ++ " must not be negative"))
  pure n.toNat

/-- Makes what a proxy stands for current. -/
def setCurrent (name : String) (value : ObjRef) : Act ProxyError Unit := do
  let expected : ProxyError := .type ("expected vim." ++ name ++ " object")
  match ← Bridge.inspect value with
  | .proxy _ t =>
    match name, t with
    | "buffer", .buffer id => Bridge.hostWrite (Change.setCurrentBuffer id)
    | "window", .window id => Bridge.hostWrite (Change.setCurrentWindow id)
    | "tabpage", .tabPage id => Bridge.hostWrite (Change.setCurrentTab id)
    | "window", .invalid => Act.fail (.deleted .window)
    | "tabpage", .invalid => Act.fail (.deleted .tabPage)
    | _, .invalid => Act.fail (.deleted .buffer)
    | _, _ => Act.fail expected
  | _ => Act.fail expected

/-- The failure of the deletion of an attribute that stays. -/
def cannotDelete : ProxyError := .type "can't delete attribute"

/-- Writes an attribute; whether there is one of that name that can be written. -/
def writeAttr (t : Target) (name : String) (value : ObjRef) : Act ProxyError Bool := do
  match t, name with
  | .buffer id, "name" =>
    let new ← Convert.stringOf value
    Bridge.hostWrite (Change.renameBuffer id new)
    pure true
  | .window id, "cursor" =>
    setCursor id value
    pure true
  | .window id, "height" =>
    let n ← sizeOf name value
    Bridge.hostWrite (Change.setHeight id n)
    pure true
  | .window id, "width" =>
    let n ← sizeOf name value
    Bridge.hostWrite (Change.setWidth id n)
    pure true
  | .dict d, "locked" =>
    let lock := lockOf (← truthOf value)
    store (·.lockDict d lock)
    pure true
  | .dict _, "scope" => Act.fail (.type "cannot modify scope")
  | .list l, "locked" =>
    let lock := lockOf (← truthOf value)
    store (·.lockList l lock)
    pure true
  | .output _, "softspace" =>
    let n ← intOf value
    modify fun b => { b with softspace := n }
    pure true
  | _, _ => pure false

/-- Writes an attribute, or deletes it; whether that was possible for one of that name. Only the
cursor line can be deleted. -/
def changeAttr (t : Target) (name : String) (value : Option ObjRef) : Act ProxyError Bool := do
  match t with
  | .current =>
    if name = "line" then
      setCurrentLine value
      pure true
    else if name ∈ ["buffer", "window", "tabpage"] then
      match value with
      | none => Act.fail cannotDelete
      | some v =>
        setCurrent name v
        pure true
    else pure false
  | _ =>
    match value with
    | none => Act.fail cannotDelete
    | some v => writeAttr t name v

/-- The failure of an attribute that an object does not have. -/
def noAttribute (typeName name : String) : String :=
  "'" ++ typeName ++ "' object has no attribute '" ++ name ++ "'"

/-- Writes an attribute, or deletes it. -/
def setAttr (cls : ProxyClass) (t : Target) (name : String) (value : Option ObjRef) :
    Act ProxyError Unit := do
  if !t.isValid then Act.fail (.deleted cls.entityKind)
  if !(← changeAttr t name value) then Act.fail (.attribute (noAttribute cls.typeName name))

end ScriptBridge.Proxy
