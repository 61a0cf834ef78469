import ScriptBridge.Host.Editor

/-!
# Changing the editor

The operations on buffers, windows and tab pages. Each either succeeds or reports an
`EditorError`; a destruction is announced before what it names is gone.
-/

namespace ScriptBridge.Host

/-- An operation on the editor. -/
abbrev Change := EStateM EditorError Editor

namespace Change

/-- The buffer with a number, which has to exist. -/
def buffer (id : Nat) : Change Buffer := do
  match (← get).buffer? id with
  | some b => pure b
  | none => throw (.noSuchBuffer id)

/-- The window with an identifier, which has to exist. -/
def window (id : Nat) : Change Window := do
  match (← get).window? id with
  | some w => pure w
  | none => throw (.noSuchWindow id)

/-- The tab page with an identifier, which has to exist. -/
def tab (id : Nat) : Change TabPage := do
  match (← get).tab? id with
  | some t => pure t
  | none => throw (.noSuchTab id)

/-- Adds a buffer. -/
def addBuffer (name : String) (lines : List String) : Change Nat :=
  modifyGet fun e => e.addBuffer name lines

/-- Renames a buffer. -/
def renameBuffer (id : Nat) (name : String) : Change Unit := do
  let _ ← buffer id
  modify fun e => e.mapBuffer id fun b => { b with name }

/-- A window whose cursor is past the last of `count` lines gets it onto that line. -/
def clampCursor (id count : Nat) (w : Window) : Window :=
  if w.buffer = id && count < w.row then { w with row := count, col := 0 } else w

/-- Replaces the lines from `lo` up to `hi`, both counted from zero. A buffer that would lose its
last line keeps an empty one. -/
def replaceLines (id lo hi : Nat) (new : List String) : Change Unit := do
  let b ← buffer id
  if b.lines.length < lo || b.lines.length < hi || hi < lo then throw (.invalidLine (max hi lo))
  let lines := b.lines.take lo ++ new ++ b.lines.drop hi
  let lines := if lines.isEmpty then [""] else lines
  modify fun e => e.mapBuffer id fun b => { b with lines, changed := true }
  modify fun e => { e with windows := e.windows.map (clampCursor id lines.length) }

/-- Inserts lines after the first `after` lines. -/
def insertLines (id after : Nat) (new : List String) : Change Unit :=
  replaceLines id after after new

/-- Destroys a buffer. Its windows show the first of the other buffers. -/
def wipeBuffer (id : Nat) : Change Unit := do
  let _ ← buffer id
  match (← get).buffers.find? (·.number != id) with
  | none => throw .lastBuffer
  | some other =>
    modify fun e => { e with windows := e.windows.map fun w =>
      if w.buffer = id then { w with buffer := other.number, row := 1, col := 0 } else w }
    modify (·.announce (.buffer id))
    modify fun e => { e with buffers := e.buffers.filter (·.number != id) }

/-- Puts a new window on a buffer in front of the current one; it becomes current. -/
def splitWindow (buffer : Nat) : Change Nat := do
  let _ ← Change.buffer buffer
  let window ← modifyGet fun e => e.addWindow buffer
  let page ← tab (← get).currentTab
  let pos := (page.windows.findIdx? (· == page.current)).getD 0
  modify fun e => e.mapTab page.id fun t =>
    { t with windows := t.windows.insertIdx pos window, current := window }
  pure window

/-- Destroys the windows of a tab page one after another. -/
def dropWindows (ids : List Nat) : Change Unit :=
  ids.forM fun id => do
    modify (·.announce (.window id))
    modify fun e => { e with windows := e.windows.filter (·.id != id) }

/-- Destroys a tab page and its windows. -/
def closeTab (id : Nat) : Change Unit := do
  match (← get).tabs.findIdx? (·.id == id), (← get).tab? id with
  | some index, some page =>
    if (← get).tabs.length = 1 then throw .lastWindow
    modify fun e => { e with tabs := e.tabs.eraseIdx index }
    dropWindows page.windows
    modify (·.announce (.tabPage id))
    let e ← get
    if e.currentTab = id then
      let next := ((e.tabs[min index (e.tabs.length - 1)]?).map TabPage.id).getD e.currentTab
      set { e with currentTab := next }
  | _, _ => throw (.noSuchTab id)

/-- Destroys a window; with the last window of a tab page goes the tab page. -/
def closeWindow (id : Nat) : Change Unit := do
  match (← get).windowTab? id with
  | none => throw (.noSuchWindow id)
  | some tabId =>
    let page ← tab tabId
    if page.windows.length = 1 then
      if (← get).tabs.length = 1 then throw .lastWindow
      closeTab tabId
    else
      let pos := (page.windows.findIdx? (· == id)).getD 0
      let windows := page.windows.eraseIdx pos
      let next := if page.current = id then (windows[min pos (windows.length - 1)]?).getD id
        else page.current
      modify fun e => e.mapTab tabId fun t => { t with windows, current := next }
      modify (·.announce (.window id))
      modify fun e => { e with windows := e.windows.filter (·.id != id) }

/-- Moves the cursor of a window to a line of its buffer. -/
def setCursor (id row col : Nat) : Change Unit := do
  let w ← window id
  let count := (((← get).buffer? w.buffer).map (·.lines.length)).getD 0
  if row = 0 || count < row then throw .cursorOutside
  modify fun e => e.mapWindow id fun w => { w with row, col }

/-- Opens a tab page with one window on a buffer; it becomes current. -/
def newTab (buffer : Nat) : Change Nat := do
  let _ ← Change.buffer buffer
  let window ← modifyGet fun e => e.addWindow buffer
  let id ← modifyGet fun e => e.addTab window
  modify fun e => { e with currentTab := id }
  pure id

/-- Makes a window and its tab page current. -/
def setCurrentWindow (id : Nat) : Change Unit := do
  match (← get).windowTab? id with
  | none => throw (.noSuchWindow id)
  | some tabId =>
    let _ ← tab tabId
    modify fun e => { e.mapTab tabId (fun t => { t with current := id }) with currentTab := tabId }

/-- Makes a tab page current. -/
def setCurrentTab (id : Nat) : Change Unit := do
  let _ ← tab id
  modify fun e => { e with currentTab := id }

/-- Shows a buffer in the current window. -/
def setCurrentBuffer (id : Nat) : Change Unit := do
  let _ ← buffer id
  let w ← window (← get).currentWindow
  modify fun e => e.mapWindow w.id fun w => { w with buffer := id, row := 1, col := 0 }

/-- Changes the height of a window. -/
def setHeight (id height : Nat) : Change Unit := do
  let _ ← window id
  modify fun e => e.mapWindow id fun w => { w with height }

/-- Changes the width of a window. -/
def setWidth (id width : Nat) : Change Unit := do
  let _ ← window id
  modify fun e => e.mapWindow id fun w => { w with width }

end Change

end ScriptBridge.Host
