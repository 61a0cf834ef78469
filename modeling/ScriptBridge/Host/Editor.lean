import ScriptBridge.Host.Store

/-!
# The editor

Buffers, windows and tab pages, the variables of each, and the messages shown to the user. An
identifier is given out once: one that no longer resolves names something destroyed. Each
destruction is announced in `departed`.
-/

namespace ScriptBridge.Host

/-- A text being edited. -/
structure Buffer where
  number : Nat
  name : String
  lines : List String
  vars : DictRef
  changed : Bool

/-- A view of a buffer. The row of the cursor counts from one, its column from zero. -/
structure Window where
  id : Nat
  buffer : Nat
  row : Nat
  col : Nat
  height : Nat
  width : Nat
  vars : DictRef

/-- A group of windows, one of them current. -/
structure TabPage where
  id : Nat
  windows : List Nat
  current : Nat
  vars : DictRef

/-- A message shown to the user. -/
inductive Message where
  | info (text : String)
  | error (text : String)
deriving DecidableEq

/-- The wording of a message. -/
def Message.text : Message → String
  | .info t => t
  | .error t => t

/-- What an editor identifier names. -/
inductive Entity where
  | buffer (id : Nat)
  | window (id : Nat)
  | tabPage (id : Nat)
deriving DecidableEq

/-- Why an editor operation was refused. -/
inductive EditorError where
  | noSuchBuffer (id : Nat)
  | noSuchWindow (id : Nat)
  | noSuchTab (id : Nat)
  | lastWindow
  | lastBuffer
  | invalidLine (line : Nat)
  | cursorOutside
deriving DecidableEq

/-- The wording of a refused operation. -/
def EditorError.message : EditorError → String
  | .noSuchBuffer id => "no such buffer: " ++ toString id
  | .noSuchWindow id => "no such window: " ++ toString id
  | .noSuchTab id => "no such tab page: " ++ toString id
  | .lastWindow => "cannot close last window"
  | .lastBuffer => "cannot wipe out the last buffer"
  | .invalidLine line => "line number out of range: " ++ toString line
  | .cursorOutside => "cursor position outside buffer"

/-- The whole editor. Buffers and windows are in the order of their identifiers, tab pages in the
order in which they are displayed. -/
structure Editor where
  store : Store
  buffers : List Buffer
  windows : List Window
  tabs : List TabPage
  currentTab : Nat
  globals : DictRef
  editorVars : DictRef
  messages : List Message
  departed : List Entity
  nextBuffer : Nat
  nextWindow : Nat
  nextTab : Nat

namespace Editor

/-- The buffer with a number. -/
def buffer? (e : Editor) (id : Nat) : Option Buffer := e.buffers.find? (·.number == id)

/-- The window with an identifier. -/
def window? (e : Editor) (id : Nat) : Option Window := e.windows.find? (·.id == id)

/-- The tab page with an identifier. -/
def tab? (e : Editor) (id : Nat) : Option TabPage := e.tabs.find? (·.id == id)

/-- Whether an identifier names something that exists. -/
def has (e : Editor) : Entity → Bool
  | .buffer id => (e.buffer? id).isSome
  | .window id => (e.window? id).isSome
  | .tabPage id => (e.tab? id).isSome

/-- The current window. -/
def currentWindow (e : Editor) : Nat := ((e.tab? e.currentTab).map (·.current)).getD 0

/-- The buffer shown in the current window. -/
def currentBuffer (e : Editor) : Nat := ((e.window? e.currentWindow).map (·.buffer)).getD 0

/-- The cursor row of the current window. -/
def cursorLine (e : Editor) : Nat := ((e.window? e.currentWindow).map (·.row)).getD 1

/-- The tab page that holds a window. -/
def windowTab? (e : Editor) (id : Nat) : Option Nat :=
  (e.tabs.find? (·.windows.contains id)).map (·.id)

/-- The position of a window in its tab page, counted from one. -/
def windowNumber? (e : Editor) (id : Nat) : Option Nat :=
  (e.tabs.find? (·.windows.contains id)).map fun t => t.windows.idxOf id + 1

/-- The position of a tab page, counted from one. -/
def tabNumber? (e : Editor) (id : Nat) : Option Nat :=
  (e.tabs.findIdx? (·.id == id)).map (· + 1)

/-- The count of lines of the current buffer. -/
def lastLine (e : Editor) : Nat := ((e.buffer? e.currentBuffer).map (·.lines.length)).getD 1

/-- Changes the buffer with a number. -/
def mapBuffer (e : Editor) (id : Nat) (f : Buffer → Buffer) : Editor :=
  { e with buffers := e.buffers.map fun b => if b.number = id then f b else b }

/-- Changes the window with an identifier. -/
def mapWindow (e : Editor) (id : Nat) (f : Window → Window) : Editor :=
  { e with windows := e.windows.map fun w => if w.id = id then f w else w }

/-- Changes the tab page with an identifier. -/
def mapTab (e : Editor) (id : Nat) (f : TabPage → TabPage) : Editor :=
  { e with tabs := e.tabs.map fun t => if t.id = id then f t else t }

/-- Announces that something is destroyed. -/
def announce (e : Editor) (x : Entity) : Editor := { e with departed := e.departed ++ [x] }

/-- Shows a message. -/
def say (e : Editor) (m : Message) : Editor := { e with messages := e.messages ++ [m] }

/-- A new variable scope. -/
def newScope (e : Editor) : DictRef × Editor :=
  let (d, store) := e.store.newDict [] .default
  (d, { e with store })

/-- A new buffer; it has at least one line. -/
def addBuffer (e : Editor) (name : String) (lines : List String) : Nat × Editor :=
  let (vars, e) := e.newScope
  let number := e.nextBuffer
  let lines := if lines.isEmpty then [""] else lines
  (number, { e with
    buffers := e.buffers ++ [{ number, name, lines, vars, changed := false }]
    nextBuffer := number + 1 })

/-- A new window on a buffer, in no tab page yet. -/
def addWindow (e : Editor) (buffer : Nat) : Nat × Editor :=
  let (vars, e) := e.newScope
  let id := e.nextWindow
  (id, { e with
    windows := e.windows ++ [{ id, buffer, row := 1, col := 0, height := 24, width := 80, vars }]
    nextWindow := id + 1 })

/-- A new tab page that holds one window, after the others. -/
def addTab (e : Editor) (window : Nat) : Nat × Editor :=
  let (vars, e) := e.newScope
  let id := e.nextTab
  (id, { e with
    tabs := e.tabs ++ [{ id, windows := [window], current := window, vars }]
    nextTab := id + 1 })

/-- One empty buffer, shown in one window of one tab page. -/
def new : Editor :=
  let (editorVars, store) := ({} : Store).newDict
    [("progname", .str "vimpy"), ("version", .number 900)] .default
  let (globals, store) := store.newDict [] .default
  let e : Editor :=
    { store, globals, editorVars, buffers := [], windows := [], tabs := [], currentTab := 0
      messages := [], departed := [], nextBuffer := 1, nextWindow := 1000, nextTab := 1 }
  let (buffer, e) := e.addBuffer "" []
  let (window, e) := e.addWindow buffer
  let (tab, e) := e.addTab window
  { e with currentTab := tab }

/-- The sizes of an editor, for inspection. -/
def debug (e : Editor) : String :=
  "Editor \x7b buffers: " ++ toString e.buffers.length ++ ", windows: " ++
    toString e.windows.length ++ ", tabs: " ++ toString e.tabs.length ++ ", current_tab: " ++
    toString e.currentTab ++ " \x7d"

end Editor

end ScriptBridge.Host
