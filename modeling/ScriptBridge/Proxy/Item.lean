import ScriptBridge.Proxy.Container
import ScriptBridge.Proxy.Span

/-!
# Items of proxies

Length, positions, keys and slices of proxies, and iteration over those that have keys.
-/

namespace ScriptBridge.Proxy

open Foreign (ObjRef ProxyClass Target Slice)

/-- The windows of a tab page, or of the current one. -/
def windowsOf (tab : Option Nat) : Act ProxyError (List Nat) := do
  let e ← Bridge.readEditor
  match e.tab? (tab.getD e.currentTab) with
  | some t => pure t.windows
  | none => Act.fail (.deleted .tabPage)

/-- The count of the items of a target. -/
def length (cls : ProxyClass) (t : Target) : Act ProxyError Nat := do
  match t with
  | .buffer _ | .range .. => return (← span t).size
  | .list l => return (← itemsOf l).length
  | .dict d => return (← entriesOf d).length
  | .buffers => return (← Bridge.readEditor).buffers.length
  | .windows tab => return (← windowsOf tab).length
  | .tabPages => return (← Bridge.readEditor).tabs.length
  | .invalid => Act.fail (.deleted cls.entityKind)
  | _ => Act.fail (.type (noLengthText cls.typeName))

/-- The item at a position, which is not counted from the end. -/
def item (cls : ProxyClass) (t : Target) (i : Int) : Act ProxyError ObjRef := do
  match t with
  | .buffer _ | .range .. => (← span t).item i
  | .list l => listItem l i
  | .windows tab =>
    let windows ← windowsOf tab
    match if 0 ≤ i then windows[i.toNat]? else none with
    | some id => Bridge.entity (.window id)
    | none => Act.fail (.index "no such window")
  | .tabPages =>
    let tabs := (← Bridge.readEditor).tabs
    match if 0 ≤ i then tabs[i.toNat]? else none with
    | some tab => Bridge.entity (.tabPage tab.id)
    | none => Act.fail (.index "no such tab page")
  | .invalid => Act.fail (.deleted cls.entityKind)
  | _ => refuse cls.typeName "is not a sequence"

/-- The buffer with the number that a key gives. -/
def bufferByNumber (k : ObjRef) : Act ProxyError ObjRef := do
  match ← Bridge.inspect k with
  | .int n =>
    let n := n.toInt
    let e ← Bridge.readEditor
    if 0 ≤ n && n < Text.count32 && (e.buffer? n.toNat).isSome then Bridge.entity (.buffer n.toNat)
    else Act.fail (.key (toString n))
  | _ => Act.fail (.type "key must be an integer")

/-- The items of a slice. -/
def sliceOf (cls : ProxyClass) (t : Target) (bounds : Slice) : Act ProxyError ObjRef := do
  match t with
  | .buffer _ | .range .. => (← span t).slice bounds
  | .list l => listSlice l bounds
  | _ =>
    let len ← length cls t
    let items ← (bounds.positions len).mapM fun (i : Nat) => item cls t i
    Bridge.alloc (.list items)

/-- The failure of a key that is neither a position nor a slice. -/
def badIndex : ProxyError := .type "index must be int or slice"

/-- What is under a key. -/
def subscript (cls : ProxyClass) (t : Target) (k : ObjRef) : Act ProxyError ObjRef := do
  match t with
  | .buffers => bufferByNumber k
  | .dict d => dictItem d k
  | .invalid => Act.fail (.deleted cls.entityKind)
  | _ =>
    if !cls.isSequence then refuse cls.typeName "is not subscriptable"
    else
      match ← Bridge.inspect k with
      | .int n =>
        let len ← length cls t
        let i ← Act.ofExcept (position n.toInt len)
        item cls t i
      | .bool b => item cls t (if b then 1 else 0)
      | .slice bounds => sliceOf cls t bounds
      | _ => Act.fail badIndex

/-- Replaces the item at a position, or deletes it. -/
def assignItem (cls : ProxyClass) (t : Target) (i : Int) (value : Option ObjRef) :
    Act ProxyError Unit := do
  match t with
  | .buffer _ | .range .. => (← span t).assignItem i value
  | .list l => setListItem l i value
  | .invalid => Act.fail (.deleted cls.entityKind)
  | _ => refuse cls.typeName "does not support item assignment"

/-- Replaces the items of a slice with step one, or deletes them. -/
def assignSlice (cls : ProxyClass) (t : Target) (bounds : Slice) (value : Option ObjRef) :
    Act ProxyError Unit := do
  let len ← length cls t
  match bounds.contiguous? len with
  | none => Act.fail (.value "slice step must be 1 for assignment")
  | some (lo, hi) =>
    match t with
    | .list l => setListSlice l lo hi value
    | _ => (← span t).assignSlice lo hi value

/-- Whether the position after the last one of a target can be assigned. -/
def growsAtEnd : Target → Bool
  | .list _ => true
  | _ => false

/-- Replaces what is under a key, or deletes it. -/
def assign (cls : ProxyClass) (t : Target) (k : ObjRef) (value : Option ObjRef) :
    Act ProxyError Unit := do
  match t with
  | .dict d => setDictItem d k value
  | .invalid => Act.fail (.deleted cls.entityKind)
  | .buffer _ | .range .. | .list _ =>
    match ← Bridge.inspect k with
    | .int n =>
      let n := n.toInt
      let len ← length cls t
      let i ← if n = len && growsAtEnd t then pure len else Act.ofExcept (position n len)
      assignItem cls t i value
    | .slice bounds => assignSlice cls t bounds value
    | _ => Act.fail badIndex
  | _ => refuse cls.typeName "does not support item assignment"

/-- What iteration over the keys of a target goes through. -/
def iterate (cls : ProxyClass) (t : Target) : Act ProxyError ObjRef := do
  match t with
  | .buffers =>
    let e ← Bridge.readEditor
    let items ← e.buffers.mapM fun b => Bridge.entity (.buffer b.number)
    Bridge.alloc (.list items)
  | .dict d => textList ((← entriesOf d).map (·.1))
  | _ => refuse cls.typeName "is not iterable"

end ScriptBridge.Proxy
