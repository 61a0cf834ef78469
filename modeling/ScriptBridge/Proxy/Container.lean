import ScriptBridge.Convert.ToForeign
import ScriptBridge.Convert.ToHost
import ScriptBridge.Bridge.Registry
import ScriptBridge.Host.Expr.Eval
import ScriptBridge.Proxy.Argument

/-!
# Proxies of host containers

Dictionaries, lists and functions of the editor. What is read is shared with the editor where it is
a container; what is written is converted.
-/

namespace ScriptBridge.Proxy

open Foreign (ObjRef Slice)
open Host (Value DictRef ListRef LockError Store Lock)

/-- The entries of a dictionary. -/
def entriesOf (d : DictRef) : Act ProxyError (List (String × Value)) := do
  return ((← get).editor.store.dict d).entries

/-- The items of a list. -/
def itemsOf (l : ListRef) : Act ProxyError (List Value) := do
  return ((← get).editor.store.list l).items

/-- A change of a container by a script. -/
def store (f : Store → Except LockError Store) : Act ProxyError Unit :=
  (Bridge.store f).mapError ProxyError.ofLock

/-- New objects for texts, in a new list. -/
def textList (texts : List String) : Act ProxyError ObjRef := do
  let items ← texts.mapM fun t => Bridge.alloc (.str t)
  Bridge.alloc (.list items)

/-- The lock that a flag asks for. -/
def lockOf (flag : Bool) : Lock := if flag then .locked else .unlocked

/-- The values of a sequence that a script passes. -/
def valuesOf (r : ObjRef) : Act ProxyError (List Value) := do
  let expected {α : Type} (got : String) : Act ProxyError α :=
    Act.fail (.type ("expected a sequence, got " ++ got))
  match ← Bridge.inspect r with
  | .list | .tuple | .other _ true | .proxy .list _ =>
    match ← Convert.toHost r with
    | .list l => itemsOf l
    | v => expected v.typeName
  | _ => expected (← Bridge.typeName r)

/-! ### Dictionaries -/

/-- The value under a key. -/
def dictItem (d : DictRef) (k : ObjRef) : Act ProxyError ObjRef := do
  let key ← Convert.keyOf k
  match (← get).editor.store.get? d key with
  | some v => Convert.toForeignBound v
  | none => Act.fail (.key key)

/-- Puts a value under a key, or removes the entry. -/
def setDictItem (d : DictRef) (k : ObjRef) (value : Option ObjRef) : Act ProxyError Unit := do
  let key ← Convert.keyOf k
  match value with
  | none =>
    let old := (← get).editor.store.get? d key
    store (·.erase d key)
    if old.isNone then Act.fail (.key key)
  | some v =>
    let v ← Convert.toHost v
    store (·.insert d key v)

/-- Puts entries into a dictionary one after another. -/
def insertAll (d : DictRef) : List (String × Value) → Act ProxyError Unit
  | [] => pure ()
  | (k, v) :: rest => do
    store (·.insert d k v)
    insertAll d rest

/-- Puts the entries of a mapping into a dictionary. Entries that cannot be converted are left out,
and the user is told once the others are in. -/
def updateDict (d : DictRef) (other : ObjRef) : Act ProxyError Unit := do
  match ← Convert.toHostWith true other with
  | (.dict source, skipped) =>
    insertAll d (← entriesOf source)
    for (key, e) in skipped do
      Bridge.say (.info ("W: skipped key '" ++ key ++ "': " ++ e.message))
  | (v, _) => Act.fail (.type ("update() needs a mapping, got " ++ v.typeName))

/-- The methods of dictionaries. -/
def dictMethod (d : DictRef) (name : String) (args : List ObjRef) : Act ProxyError ObjRef := do
  match name with
  | "keys" =>
    arity name args 0 0
    textList ((← entriesOf d).map (·.1))
  | "values" =>
    arity name args 0 0
    let items ← (← entriesOf d).mapM fun e => monadLift (Convert.toForeignBound e.2)
    Bridge.alloc (.list items)
  | "items" =>
    arity name args 0 0
    let items ← (← entriesOf d).mapM fun e => do
      let key ← Bridge.alloc (.str e.1)
      let value ← Convert.toForeignBound e.2
      Bridge.alloc (.tuple [key, value])
    Bridge.alloc (.list items)
  | "has_key" =>
    arity name args 1 1
    let key ← Convert.keyOf (args.headD default)
    Bridge.alloc (.bool ((← get).editor.store.get? d key).isSome)
  | "get" =>
    arity name args 1 2
    let key ← Convert.keyOf (args.headD default)
    match (← get).editor.store.get? d key, args[1]? with
    | some v, _ => Convert.toForeignBound v
    | none, some other =>
      Bridge.hold other
      pure other
    | none, none => Bridge.alloc .null
  | "update" =>
    arity name args 1 1
    updateDict d (args.headD default)
    Bridge.alloc .null
  | _ => Act.fail (.attribute ("no method " ++ name))

/-! ### Lists -/

/-- The failure of a position outside a list. -/
def itemOutside : ProxyError := .index "list index out of range"

/-- The item at a position. -/
def listItem (l : ListRef) (i : Int) : Act ProxyError ObjRef := do
  let items ← itemsOf l
  match if 0 ≤ i then items[i.toNat]? else none with
  | some v => Convert.toForeignBound v
  | none => Act.fail itemOutside

/-- The items of a slice. -/
def listSlice (l : ListRef) (bounds : Slice) : Act ProxyError ObjRef := do
  let items ← itemsOf l
  let picked := (bounds.positions items.length).filterMap (items[·]?)
  let picked ← picked.mapM fun v => monadLift (Convert.toForeignBound v)
  Bridge.alloc (.list picked)

/-- Replaces the item at a position, where the position after the last one appends, or removes
it. -/
def setListItem (l : ListRef) (i : Int) (value : Option ObjRef) : Act ProxyError Unit := do
  if i < 0 then Act.fail itemOutside
  match value with
  | none =>
    if (← itemsOf l).length ≤ i.toNat then Act.fail itemOutside
    store (·.removeItem l i.toNat)
  | some v =>
    let v ← Convert.toHost v
    store (·.setItem l i.toNat v)

/-- Replaces the items from position `lo` up to position `hi`, or removes them. -/
def setListSlice (l : ListRef) (lo hi : Nat) (value : Option ObjRef) : Act ProxyError Unit := do
  let values ← match value with
    | some v => valuesOf v
    | none => pure []
  store (·.splice l lo hi values)

/-- The methods of lists. -/
def listMethod (l : ListRef) (name : String) (args : List ObjRef) : Act ProxyError ObjRef := do
  match name with
  | "extend" =>
    arity name args 1 1
    let values ← valuesOf (args.headD default)
    store (·.extend l values)
    Bridge.alloc .null
  | _ => Act.fail (.attribute ("no method " ++ name))

/-! ### Functions -/

/-- Calls a function of the host with the arguments bound to it and those of the script. -/
def callHostFunction (name : String) (bound : List Value) (args : List ObjRef) :
    Act ProxyError ObjRef := do
  let args ← args.mapM fun a => monadLift (Convert.toHost a)
  let functions := (← get).functions
  let v ← Bridge.serve (Host.callFunction functions name (bound ++ args))
  Convert.toForeignBound v

end ScriptBridge.Proxy
