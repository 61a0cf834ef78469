import ScriptBridge.Bridge.Session
import ScriptBridge.Command.File
import ScriptBridge.Command.Line
import ScriptBridge.Host.Command
import ScriptBridge.Text.Lines

/-!
# Running command lines

Scripts, script files and expressions go to the interpreter, all other commands to the host.
-/

namespace ScriptBridge.Session

open Command (Line Input Reader)
open Host (HostError)

/-- The failure of a command that needs the editor while it is in use elsewhere. -/
def busy : BridgeError := .host (.custom busyText)

/-- The lines that a range names. -/
def resolve (r : Command.LineRange) : Act BridgeError (Int64 × Int64) := do
  let b ← get
  if b.loan = .exclusive then Act.fail busy
  match r.resolve b.editor with
  | .ok (first, last) => pure (Int64.ofNat first, Int64.ofNat last)
  | .error e => Act.fail (.parse e)

/-- Refuses to go on while the editor is in use elsewhere. -/
def demandEditor : Act BridgeError Unit := do
  if (← get).loan ≠ .free then Act.fail busy

/-- Runs a script file. -/
def runFile (engine : Engine) (path : String) (range : Option (Int64 × Int64)) :
    Act BridgeError Unit := do
  if path.isEmpty then Act.fail (.parse .argumentRequired)
  let code ← Act.ofExcept (Command.fileStatement path)
  execute engine code range

/-- Runs a command of the host. -/
def hostCommand (line : String) : Act BridgeError Unit := do
  demandEditor
  let functions := (← get).functions
  (Bridge.host (Host.runCommand functions line)).mapError .host

/-- Runs a command with its body. -/
def runInput (engine : Engine) (input : Input) : Act BridgeError Unit := do
  let line := input.line
  let range ← line.range.mapM resolve
  match line.kind with
  | .script => execute engine (input.body.getD line.arg) range
  | .file => runFile engine line.arg range
  | .eval =>
    let v ← evaluate engine line.arg
    demandEditor
    let store := (← get).editor.store
    Bridge.say (.info (store.echo v))
  | .host => hostCommand line.text

/-- Runs a command line. One that names an end marker has an empty body. -/
def exCommand (engine : Engine) (text : String) : Act BridgeError Unit := do
  let line ← Act.ofExcept ((Line.parse text).mapError .parse)
  runInput engine ⟨line, line.marker?.map fun _ => ""⟩

/-- Runs what a reader gives, if it gives something; tells the user about a failure. One if it
failed, else zero. -/
def runRead {ε : Type} (engine : Engine) (input : Except ParseError (Option Input)) :
    Act ε Nat := do
  let run : Act BridgeError Unit := match input with
    | .ok (some input) => runInput engine input
    | .ok none => pure ()
    | .error e => Act.fail (.parse e)
  let outcome : Except BridgeError Unit ← Act.attempt run
  match outcome with
  | .ok () => pure 0
  | .error e =>
    report e
    pure 1

/-- Runs lines from where a reader is; how many commands failed. -/
def sourceLines {ε : Type} (engine : Engine) : Reader → List String → Act ε Nat
  | reader, [] => runRead engine (.ok reader.finish)
  | reader, line :: rest => do
    let (input, reader) := reader.push line
    let failed ← runRead engine input
    return failed + (← sourceLines engine reader rest)

/-- Runs a command script; how many commands failed. -/
def source {ε : Type} (engine : Engine) (text : String) : Act ε Nat :=
  sourceLines engine none (Text.linesOf text)

end ScriptBridge.Session
