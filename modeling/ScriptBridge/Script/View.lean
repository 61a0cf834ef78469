import ScriptBridge.Bridge.Text

/-!
# Spelling out

Objects and host values as the trees that answers show.
-/

namespace ScriptBridge.Script

open Foreign (ObjRef Object Target)
open Host (Value ListRef DictRef Editor Store)

/-- A host value spelled out, given how lists and dictionaries are. -/
def ValueView.ofValue (list : ListRef → ValueView) (dict : DictRef → ValueView) : Value → ValueView
  | .null => .null
  | .number n => .number n
  | .float x => .float x
  | .str s => .str s
  | .list l => list l
  | .dict d => dict d
  | .func name bound => .func name (all bound)
where
  /-- Several host values spelled out. -/
  all : List Value → List ValueView
    | [] => []
    | v :: vs => ValueView.ofValue list dict v :: all vs

/-- A host value spelled out within the containers of a path. -/
def valueWithin (s : Store) : Nat → List ListRef → List DictRef → Value → ValueView
  | 0, _, _, _ => .null
  | depth + 1, lists, dicts, v =>
    ValueView.ofValue
      (fun l =>
        if l ∈ lists then .listCycle
        else .list ((s.list l).items.map (valueWithin s depth (l :: lists) dicts)))
      (fun d =>
        if d ∈ dicts then .dictCycle
        else .dict ((s.dict d).entries.map fun e =>
          (e.1, valueWithin s depth lists (d :: dicts) e.2)))
      v

/-- A host value spelled out. Each container is entered once on a path, which bounds the depth. -/
def viewValue (s : Store) (v : Value) : ValueView :=
  valueWithin s (s.lists.size + s.dicts.size + 1) [] [] v

/-- What a proxy stands for, spelled out. -/
def viewTarget (b : Bridge) : Target → TargetView
  | .buffer id => .buffer id
  | .window id => .window id
  | .tabPage id => .tabPage id
  | .range id start last => .range id start.toInt (b.objects.endOf last).toInt
  | .buffers => .buffers
  | .windows tab => .windows tab
  | .tabPages => .tabPages
  | .current => .current
  | .dict d => .dict (viewValue b.editor.store (.dict d))
  | .list l => .list (viewValue b.editor.store (.list l))
  | .function name bound => .function (viewValue b.editor.store (.func name bound))
  | .builtin f => .builtin f
  | .output s => .output s
  | .method receiver cls name => .method cls name (viewTarget b receiver)
  | .invalid => .invalid

/-- An object spelled out within the objects of a path. -/
def objectWithin (b : Bridge) : Nat → List ObjRef → ObjRef → ObjectView
  | 0, _, _ => .cycle
  | depth + 1, path, r =>
    let inner := objectWithin b depth (r :: path)
    let pair (e : ObjRef × ObjRef) : ObjectView × ObjectView := (inner e.1, inner e.2)
    if r ∈ path then .cycle
    else match b.objects.get r with
      | .null => .null
      | .bool x => .bool x
      | .int n => .int n
      | .float x => .float x
      | .bytes bs => .bytes bs
      | .str s => .str s
      | .halved places => .str (Foreign.mended places)
      | .list items => .list (items.map inner)
      | .tuple items => .tuple (items.map inner)
      | .sequence items => .sequence (items.map inner)
      | .dict entries => .dict (entries.map pair)
      | .mapping entries => .mapping (entries.map pair)
      | .slice start stop step => .slice start stop step
      | .proxy cls target => .proxy cls (viewTarget b target) (b.proxyText cls target)
      | .plain name text _ => .plain name text
      | .module name members => .module name (members.map (·.1))
      | .type c => .type c
      | .raised _ => .raised (b.literal r)
      | x => .other (x.typeName b.interpreter.kind)

/-- An object spelled out. -/
def viewObject (b : Bridge) (r : ObjRef) : ObjectView :=
  objectWithin b (b.objects.cells.size + 1) [] r

/-- The editor spelled out. -/
def viewEditor (e : Editor) : EditorView :=
  let vars (d : DictRef) : ValueView := viewValue e.store (.dict d)
  let window (w : Host.Window) : WindowView :=
    { id := w.id, buffer := w.buffer, row := w.row, col := w.col, height := w.height
      width := w.width, vars := vars w.vars }
  { buffers := e.buffers.map fun b =>
      { number := b.number, name := b.name, lines := b.lines, changed := b.changed
        vars := vars b.vars }
    tabs := e.tabs.map fun t =>
      { id := t.id, current := t.current, windows := t.windows.filterMap fun id =>
          (e.window? id).map window
        vars := vars t.vars }
    globals := vars e.globals
    editorVars := vars e.editorVars
    currentTab := e.currentTab
    currentWindow := e.currentWindow
    currentBuffer := e.currentBuffer }

end ScriptBridge.Script
