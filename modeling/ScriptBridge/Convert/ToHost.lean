import ScriptBridge.Bridge.Sameness
import ScriptBridge.Convert.Text

/-!
# From the interpreter to the editor

Containers become lists and dictionaries, an object that is met twice becomes one container, and a
container inside itself cannot be converted. An entry that fails either fails the conversion or is
left out and noted.
-/

namespace ScriptBridge.Convert

open Foreign (ObjRef Shape Target ProxyClass)
open Host (Value)

/-- The state of a conversion. -/
structure Conversion where
  /-- Whether entries that fail are left out. -/
  skip : Bool
  /-- Containers that are converted. -/
  done : List (ObjRef × Value) := []
  /-- Containers that are being converted. -/
  active : List ObjRef := []
  /-- Entries that were left out, by key or position. -/
  skipped : List (String × ConvertError) := []

/-- A step of a conversion. -/
abbrev Converting := EStateM (Stop ConvertError) (Conversion × Bridge)

namespace Converting

variable {α : Type}

/-- A computation of the bridge within a conversion. -/
def lift (a : Act ConvertError α) : Converting α := fun (c, b) =>
  match a b with
  | .ok x b => .ok x (c, b)
  | .error e b => .error e (c, b)

instance : MonadLift (Act ConvertError) Converting := ⟨lift⟩
instance : MonadLift (Act ForeignError) Converting := ⟨fun a => lift (a.mapError .foreign)⟩

/-- Changes the state of the conversion. -/
def note (f : Conversion → Conversion) : Converting Unit := modify fun (c, b) => (f c, b)

/-- Fails. -/
def fail (e : ConvertError) : Converting α := throw (.error e)

/-- Converts a container, unless that has been done or is being done. -/
def container (body : ObjRef → Converting Value) (r : ObjRef) : Converting Value := do
  let (c, b) ← get
  match c.done.find? fun e => b.identical e.1 r with
  | some (_, v) => pure v
  | none =>
    if r ∈ c.active then fail .recursive
    note fun c => { c with active := r :: c.active }
    let result : Except ConvertError Value ← Act.attempt (body r)
    note fun c => { c with active := c.active.erase r }
    match result with
    | .ok v =>
      note fun c => { c with done := (r, v) :: c.done }
      pure v
    | .error e => fail e

/-- Runs the conversion of an entry. Nothing if it fails and entries that fail are left out. -/
def entry (label : Act ConvertError String) (a : Converting α) : Converting (Option α) := do
  let result : Except ConvertError α ← Act.attempt a
  match result with
  | .ok x => pure (some x)
  | .error e =>
    if (← get).1.skip then
      let label ← label
      note fun c => { c with skipped := c.skipped ++ [(label, e)] }
      pure none
    else fail e

/-- Converts the items of a sequence, the first of which is at position `i`. -/
def itemsFrom (convert : ObjRef → Converting Value) : Nat → List ObjRef → Converting (List Value)
  | _, [] => pure []
  | i, r :: rest => do
    let v? ← entry (pure (toString i)) (convert r)
    let vs ← itemsFrom convert (i + 1) rest
    pure (v?.toList ++ vs)

/-- Converts a sequence. -/
def sequence (convert : ObjRef → Converting Value) (r : ObjRef) : Converting Value := do
  let items ← Bridge.itemsOf r
  let vs ← itemsFrom convert 0 items
  return .list (← lift (Bridge.newList vs))

/-- The label of a mapping entry: the text of its key, or the name of its type. -/
def keyLabel (r : ObjRef) : Act ConvertError String := do
  match (← get).text r with
  | .ok s => pure s
  | .error _ => Bridge.typeName r

/-- Converts the entries of a mapping on top of `entries`. -/
def entriesOnto (convert : ObjRef → Converting Value) :
    List (String × Value) → List (ObjRef × ObjRef) → Converting (List (String × Value))
  | entries, [] => pure entries
  | entries, (k, r) :: rest => do
    let e? ← entry (keyLabel k) do
      let key ← keyOf k
      let v ← convert r
      pure (key, v)
    match e? with
    | some (key, v) => entriesOnto convert (Host.Entries.insert key v entries) rest
    | none => entriesOnto convert entries rest

/-- Converts a mapping. -/
def mapping (convert : ObjRef → Converting Value) (r : ObjRef) : Converting Value := do
  let pairs ← Bridge.pairsOf r
  let entries ← entriesOnto convert [] pairs
  return .dict (← lift (Bridge.newDict entries))

/-- The text of an object that has no other counterpart. -/
def textOr (typeName : String) (r : ObjRef) : Converting Value := do
  match (← get).2.text r with
  | .ok s => pure (.str s)
  | .error _ => fail (.unsupported typeName)

/-- What a proxy stands for. -/
def proxy (r : ObjRef) (cls : ProxyClass) : Target → Converting Value
  | .dict d => pure (.dict d)
  | .list l => pure (.list l)
  | .function name bound => pure (.func name bound)
  | .buffer id | .window id | .tabPage id => pure (.number (Int64.ofNat id))
  | .invalid => fail (.deleted cls.entityKind)
  | _ => textOr cls.typeName r

/-- Converts an object. Each container is entered once at a time, which bounds the depth. -/
def convertWithin : Nat → ObjRef → Converting Value
  | 0, _ => fail .recursive
  | depth + 1, r => do
    match ← Bridge.inspect r with
    | .proxy cls target => proxy r cls target
    | .null => pure .null
    | .bool b => pure (.number (if b then 1 else 0))
    | .int n => pure (.number n)
    | .float x => pure (.float x)
    | .bytes b => pure (.str (Text.decode b))
    | .str s => pure (.str s)
    | .dict | .other true _ => container (mapping (convertWithin depth)) r
    | .list | .tuple | .other _ true => container (sequence (convertWithin depth)) r
    | .slice _ | .other .. => textOr (← lift (Bridge.typeName r)) r

end Converting

/-- Converts an object, and the entries that were left out. -/
def toHostWith (skip : Bool) (r : ObjRef) :
    Act ConvertError (Value × List (String × ConvertError)) :=
  fun b =>
    match Converting.convertWithin (b.objects.cells.size + 1) r ({ skip }, b) with
    | .ok v (c, b) => .ok (v, c.skipped) b
    | .error e (_, b) => .error e b

/-- Converts an object; any failure fails the conversion. -/
def toHost (r : ObjRef) : Act ConvertError Value := do return (← toHostWith false r).1

end ScriptBridge.Convert
