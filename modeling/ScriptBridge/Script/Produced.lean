import ScriptBridge.Script.Build
import ScriptBridge.Script.View

/-!
# What statements produce

A statement produces an object, a host value or an answer. Objects and host values can be kept
under a name.
-/

namespace ScriptBridge.Script

open Foreign (ObjRef Object)
open Host (Value)

/-- What a statement produces. -/
inductive Produced where
  | object (r : ObjRef)
  | value (v : Value)
  /-- A host value that is shown by another answer. -/
  | shown (v : Value) (a : Answer)
  | answer (a : Answer)

/-- Nothing to answer. -/
def Produced.nothing : Produced := .answer .nothing

/-- A truth value. -/
def Produced.bool (b : Bool) : Produced := .answer (.bool b)

/-- A number. -/
def Produced.int (n : Int) : Produced := .answer (.int n)

/-- A text. -/
def Produced.text (s : String) : Produced := .answer (.text s)

/-- Several texts. -/
def Produced.texts (ss : List String) : Produced := .answer (.list (ss.map .text))

/-- What is answered. -/
def Produced.toAnswer (b : Bridge) : Produced → Answer
  | .object r => .object (viewObject b r)
  | .value v => .value (viewValue b.editor.store v)
  | .shown _ a => a
  | .answer a => a

/-- A list of pairs with another value under a name. -/
def assign {α : Type} (name : String) (v : α) (entries : List (String × α)) : List (String × α) :=
  (name, v) :: entries.filter (·.1 ≠ name)

/-- Keeps an object as a variable. -/
def setVariable {ε : Type} (name : String) (r : ObjRef) : Act ε Unit :=
  modify fun b =>
    { b with interpreter := { b.interpreter with
        names := assign name r b.interpreter.names } }

/-- The object that an answer without objects would be to a script. -/
def answerObject : Answer → Object
  | .bool b => .bool b
  | .int n => .int n
  | .text s => .str s
  | _ => .null

/-- Keeps what was produced under a name. An answer is kept only by a library, where it is an
object. -/
def Produced.keep {ε : Type} (p : Produced) (name : String) : Act ε Unit := do
  match p, (← get).interpreter.kind with
  | .object r, _ => setVariable name r
  | .value v, _ | .shown v _, _ =>
    modify fun b => { b with hostNames := assign name v b.hostNames }
  | .answer a, .library => setVariable name (← Bridge.alloc (answerObject a))
  | .answer _, .scripted => pure ()

/-- A statement: its failure can be one of any layer. -/
abbrev Performing := Act Failure

-- A failure is lifted in one step: the inner layers have the higher priorities.
instance : MonadLift (Act Host.LockError) (Act Failure) := ⟨Act.mapError .lock⟩
instance : MonadLift (Act Host.HostError) (Act Failure) := ⟨Act.mapError .host⟩
instance : MonadLift (Act Host.EditorError) (Act Failure) := ⟨Act.mapError .editor⟩
instance : MonadLift (Act BridgeError) (Act Failure) := ⟨Act.mapError .bridge⟩
instance : MonadLift (Act ProxyError) (Act Failure) := ⟨Act.mapError .proxy⟩
instance (priority := 1050) : MonadLift (Act ConvertError) (Act Failure) := ⟨Act.mapError .convert⟩
instance (priority := 1100) : MonadLift (Act ForeignError) (Act Failure) := ⟨Act.mapError .foreign⟩

end ScriptBridge.Script
