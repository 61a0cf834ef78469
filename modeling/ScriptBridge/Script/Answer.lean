import ScriptBridge.Foreign.Object
import ScriptBridge.Foreign.Slice
import ScriptBridge.Handoff
import ScriptBridge.Host.Editor

/-!
# Answers

What a statement answers, with objects and host values spelled out as trees. A container that is
met again on its own path is shown as a cycle.
-/

namespace ScriptBridge.Script

open Foreign (ProxyClass ObjectClass Builtin Stream)
open Host (Lock Scope Entity)

/-- A host value spelled out. -/
inductive ValueView where
  | null
  | number (n : Int64)
  | float (x : Float)
  | str (s : String)
  | list (items : List ValueView)
  | dict (entries : List (String × ValueView))
  | func (name : String) (bound : List ValueView)
  | listCycle
  | dictCycle
deriving Inhabited

/-- What a proxy stands for, spelled out. -/
inductive TargetView where
  | buffer (id : Nat)
  | window (id : Nat)
  | tabPage (id : Nat)
  | range (buffer : Nat) (start last : Int)
  | buffers
  | windows (tab : Option Nat)
  | tabPages
  | current
  | dict (d : ValueView)
  | list (l : ValueView)
  | function (f : ValueView)
  | builtin (b : Builtin)
  | output (s : Stream)
  | method (cls : ProxyClass) (name : String) (receiver : TargetView)
  | invalid
deriving Inhabited

/-- An object spelled out. -/
inductive ObjectView where
  | null
  | bool (b : Bool)
  | int (n : Int)
  | float (x : Float)
  | bytes (b : List UInt8)
  | str (s : String)
  | list (items : List ObjectView)
  | tuple (items : List ObjectView)
  | sequence (items : List ObjectView)
  | dict (entries : List (ObjectView × ObjectView))
  | mapping (entries : List (ObjectView × ObjectView))
  | slice (start stop step : Option Int)
  | plain (typeName : String) (text : Option String)
  | module (name : String) (members : List String)
  | type (c : ObjectClass)
  /-- An exception of the module's class. -/
  | raised (text : String)
  | proxy (cls : ProxyClass) (target : TargetView) (text : String)
  /-- Another object, of which only the type is shown. -/
  | other (typeName : String)
  | cycle
deriving Inhabited

/-- A failure of any layer. -/
inductive Failure where
  | foreign (e : ForeignError)
  | convert (e : ConvertError)
  | proxy (e : ProxyError)
  | bridge (e : BridgeError)
  | parse (e : ParseError)
  | editor (e : Host.EditorError)
  | lock (e : Host.LockError)
  | host (e : Host.HostError)
deriving DecidableEq

/-- The failure as it leaves a script. -/
def Failure.toForeign : Failure → ForeignError
  | .foreign e => e
  | .convert e => (ProxyError.convert e).toForeign
  | .proxy e => e.toForeign
  | _ => .pending

/-- Where a session is in its life. -/
inductive Lifecycle where
  | uninitialized
  | ready
  | disabled
  | finalized
deriving DecidableEq

/-- The name of a stage of life. -/
def Lifecycle.name : Lifecycle → String
  | .uninitialized => "uninitialized"
  | .ready => "ready"
  | .disabled => "disabled"
  | .finalized => "finalized"

/-- A buffer spelled out. -/
structure BufferView where
  number : Nat
  name : String
  lines : List String
  changed : Bool
  vars : ValueView

/-- A window spelled out. -/
structure WindowView where
  id : Nat
  buffer : Nat
  row : Nat
  col : Nat
  height : Nat
  width : Nat
  vars : ValueView

/-- A tab page spelled out. -/
structure TabView where
  id : Nat
  current : Nat
  windows : List WindowView
  vars : ValueView

/-- The editor spelled out. -/
structure EditorView where
  buffers : List BufferView
  tabs : List TabView
  globals : ValueView
  editorVars : ValueView
  currentTab : Nat
  currentWindow : Nat
  currentBuffer : Nat

mutual

/-- What a statement answers. -/
inductive Answer where
  | nothing
  | bool (b : Bool)
  | int (n : Int)
  | text (s : String)
  | object (o : ObjectView)
  | value (v : ValueView)
  | list (answers : List Answer)
  /-- There is no value. -/
  | absent
  /-- There is no attribute. -/
  | missing
  /-- The direct readings of an object. -/
  | inspection (int : Option Int) (str : Option String) (isNull : Bool)
      (elements : Option (List ObjectView))
  /-- A conversion, and the entries it left out, by key. -/
  | conversion (value : ValueView) (skipped : List (String × ConvertError))
  /-- The readings of a host value: type, truth, number, echo, text, text for inspection. -/
  | readings (type : String) (truthy : Bool) (number : Option Int64) (echo shown debug : String)
  | locks (events : List LockEvent)
  | lock (l : Lock)
  | scope (s : Scope)
  | entity (e : Entity)
  | lifecycle (l : Lifecycle)
  | mode (m : HandoffMode)
  | editor (e : EditorView)
  | entries (es : List Entry)

/-- The end of a statement. -/
inductive Outcome where
  | answer (a : Answer)
  | failure (f : Failure)
  /-- The failure of a key that a dictionary does not have. -/
  | absentKey (e : ForeignError) (key : ObjectView)
  | crash

/-- A statement that has run: its end, and the scripts that ran under it in the order in which they
ended. -/
inductive Entry where
  | mk (outcome : Outcome) (scripts : List ScriptLog)

/-- A script that has run: its source text and its statements. -/
inductive ScriptLog where
  | mk (code : String) (entries : List Entry)

end

instance : Inhabited Answer := ⟨.nothing⟩

end ScriptBridge.Script
