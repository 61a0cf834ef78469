import ScriptBridge.Bridge.State

/-!
# Texts of proxies

How a proxy is shown to scripts, and how it is shown for inspection. Addresses are not given.
-/

namespace ScriptBridge

open Foreign (Target ProxyClass Stream Builtin Objects)

/-- What stands for an address. -/
def hiddenAddress : String := "0xADDR"

/-- The text of a proxy. An editor that is lent out for writing is not asked. -/
def Bridge.proxyText (b : Bridge) (cls : ProxyClass) (target : Target) : String :=
  let editor? := if b.loan = .exclusive then none else some b.editor
  let bufferName (id : Nat) : String :=
    ((editor?.bind (·.buffer? id)).map (·.name)).getD ""
  match target with
  | .invalid => "<" ++ cls.entityKind.name ++ " object (deleted)>"
  | .buffer id =>
    if (bufferName id).isEmpty then "<buffer object (unnamed) " ++ toString id ++ ">"
    else "<buffer " ++ bufferName id ++ ">"
  | .range buffer start last =>
    "<range " ++ bufferName buffer ++ " (" ++ toString start ++ ":" ++
      toString (b.objects.endOf last) ++ ")>"
  | .window id =>
    match editor?.bind (·.windowNumber? id) with
    | some n => "<window " ++ toString (n - 1) ++ ">"
    | none => "<window object (unknown)>"
  | .tabPage id =>
    match editor?.bind (·.tabNumber? id) with
    | some n => "<tabpage " ++ toString (n - 1) ++ ">"
    | none => "<tabpage object (unknown)>"
  | .dict _ => "<vim.dictionary object at " ++ hiddenAddress ++ ">"
  | .list _ => "<vim.list object at " ++ hiddenAddress ++ ">"
  | .function name _ => "<vim.function '" ++ name ++ "'>"
  | .builtin f => "<built-in function " ++ f.name ++ ">"
  | .method _ owner name => "<built-in method " ++ name ++ " of " ++ owner.typeName ++ " object>"
  | .buffers | .windows _ | .tabPages | .current | .output _ => "<" ++ cls.typeName ++ " object>"

/-- The text of a target for inspection. -/
def Foreign.Target.debug (o : Objects) : Target → String
  | .buffer id => "Buffer(" ++ toString id ++ ")"
  | .window id => "Window(" ++ toString id ++ ")"
  | .tabPage id => "TabPage(" ++ toString id ++ ")"
  | .range id start last =>
    "Range(" ++ toString id ++ ", " ++ toString start ++ "..=" ++ toString (o.endOf last) ++ ")"
  | .buffers => "BufferMap"
  | .windows none => "WindowList(None)"
  | .windows (some tab) => "WindowList(Some(" ++ toString tab ++ "))"
  | .tabPages => "TabList"
  | .current => "Current"
  | .dict _ => "Dict@" ++ hiddenAddress
  | .list _ => "List@" ++ hiddenAddress
  | .function name _ => "Function(" ++ name ++ ")"
  | .builtin .command => "Builtin(Command)"
  | .builtin .eval => "Builtin(Eval)"
  | .builtin .bindEval => "Builtin(BindEval)"
  | .output .out => "Output(Out)"
  | .output .err => "Output(Err)"
  | .method _ cls name => "Method(" ++ cls.typeName ++ "." ++ name ++ ")"
  | .invalid => "Invalid"

end ScriptBridge
