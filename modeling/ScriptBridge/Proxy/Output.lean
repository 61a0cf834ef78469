import ScriptBridge.Bridge.Text
import ScriptBridge.Convert.Text
import ScriptBridge.Proxy.Argument
import ScriptBridge.Text.Lines

/-!
# Output

What scripts write becomes messages, one for each complete line. A line that is not complete waits
until it is, or until the script returns. Lines that are ready while the editor is in use elsewhere
are lost.
-/

namespace ScriptBridge.Proxy

open Foreign (ObjRef Stream)
open Host (Message)

/-- The message for a line of a stream. -/
def message : Stream → String → Message
  | .out, line => .info line
  | .err, line => .error line

/-- The text of a stream that waits. -/
def pending (b : Bridge) : Stream → String
  | .out => b.pendingOut
  | .err => b.pendingErr

/-- The bridge with other text waiting. -/
def setPending (b : Bridge) (s : Stream) (text : String) : Bridge :=
  match s with
  | .out => { b with pendingOut := text }
  | .err => { b with pendingErr := text }

/-- Writes to a stream. -/
def write {ε : Type} (s : Stream) (text : String) : Act ε Unit := do
  let (complete, rest) := Text.splitAtLastFeed ((pending (← get) s).toList ++ text.toList)
  modify fun b => setPending b s (String.ofList rest)
  for line in Text.lines complete do
    Bridge.say (message s (String.ofList line))

/-- Shows what waits in both streams. -/
def flush {ε : Type} : Act ε Unit := do
  let b ← get
  set { b with pendingOut := "", pendingErr := "" }
  for s in [Stream.out, Stream.err] do
    if !(pending b s).isEmpty then Bridge.say (message s (pending b s))

end ScriptBridge.Proxy
