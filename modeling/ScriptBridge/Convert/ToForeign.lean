import ScriptBridge.Bridge.State

/-!
# From the editor to the interpreter

A copy spells out lists and dictionaries as new objects; a container inside itself cannot be
copied. A binding makes a proxy of a list or a dictionary, which shares it with the editor.
-/

namespace ScriptBridge.Convert

open Foreign (ObjRef Object InterpreterKind)
open Host (Value ListRef DictRef)

/-- A container of the editor. -/
inductive Container where
  | list (l : ListRef)
  | dict (d : DictRef)
deriving DecidableEq

/-- The proxy of a function. -/
def functionProxy (name : String) (bound : List Value) : Object :=
  .proxy .function (.function name bound)

/-- The entry of a new dictionary. A library takes its key as a text that ends with a null
character. -/
def newEntry (kind : InterpreterKind) (key : String) (value : ObjRef) :
    Act ForeignError (ObjRef × ObjRef) := do
  if kind = .library && key.contains '\x00' then
    Act.fail (.exception .value "embedded null character")
  return (← Bridge.alloc (.str key), value)

/-- Copies a value that lies in the containers of `path`. Each container is entered once on a
path, which bounds the depth. -/
def copyWithin : Nat → List Container → Value → Act ConvertError ObjRef
  | _, _, .null => Bridge.alloc .null
  | _, _, .number n => Bridge.alloc (.int n.toInt)
  | _, _, .float x => Bridge.alloc (.float x)
  | _, _, .str s => Bridge.alloc (.str s)
  | _, _, .func name bound => Bridge.alloc (functionProxy name bound)
  | 0, _, _ => Act.fail .recursive
  | depth + 1, path, .list l => do
    if .list l ∈ path then Act.fail .recursive
    let items := ((← get).editor.store.list l).items
    let copies ← items.mapM (copyWithin depth (.list l :: path))
    Bridge.alloc (.list copies)
  | depth + 1, path, .dict d => do
    if .dict d ∈ path then Act.fail .recursive
    let entries := ((← get).editor.store.dict d).entries
    let copies ← entries.mapM fun e => do
      return (e.1, ← copyWithin depth (.dict d :: path) e.2)
    let kind := (← get).interpreter.kind
    let pairs ← copies.mapM fun e => newEntry kind e.1 e.2
    Bridge.alloc (.dict pairs)

/-- The count of the containers of the editor. -/
def containerCount (b : Bridge) : Nat := b.editor.store.lists.size + b.editor.store.dicts.size

/-- Copies a value. -/
def toForeign (v : Value) : Act ConvertError ObjRef := do
  copyWithin (containerCount (← get) + 1) [] v

/-- Shares a list or a dictionary, and copies any other value. -/
def toForeignBound : Value → Act ConvertError ObjRef
  | .list l => Bridge.alloc (.proxy .list (.list l))
  | .dict d => Bridge.alloc (.proxy .dictionary (.dict d))
  | v => toForeign v

end ScriptBridge.Convert
