import ScriptBridge.Bridge.Text
import ScriptBridge.Decimal.Layout

/-!
# Texts from objects

Keys, string arguments and buffer lines. A line feed inside a buffer line stands for a null
character: it crosses to the interpreter as one and comes back as one, and a line feed in a text
that becomes a line is refused.
-/

namespace ScriptBridge.Convert

open Foreign (ObjRef)

/-- The failure of an object that has no counterpart. -/
def unsupported {α : Type} (r : ObjRef) : Act ConvertError α := do
  Act.fail (.unsupported (← Bridge.typeName r))

/-- The key that an object gives: a text, or a number in decimal. -/
def keyOf (r : ObjRef) : Act ConvertError String := do
  let key ← match ← Bridge.inspect r with
    | .str s => pure s
    | .bytes b => pure (Text.decode b)
    | .int n => pure (toString n.toInt)
    | .bool b => pure (if b then "1" else "0")
    | .float x => pure (Decimal.Layout.shown.text x)
    | _ => Act.fail (.nonStringKey (← Bridge.typeName r))
  if key.isEmpty then Act.fail .emptyKey else pure key

/-- The text of a string argument. -/
def stringOf (r : ObjRef) : Act ConvertError String := do
  match ← Bridge.inspect r with
  | .str s => pure s
  | .bytes b => pure (Text.decode b)
  | _ => unsupported r

/-- A buffer line as scripts see it. -/
def shownLine (line : String) : String :=
  String.ofList (line.toList.map fun c => if c = '\n' then '\x00' else c)

/-- A text of a script as a buffer line holds it. -/
def storedLine (text : String) : String :=
  String.ofList (text.toList.map fun c => if c = '\x00' then '\n' else c)

/-- A new object for a buffer line. -/
def lineToForeign (line : String) : Act ConvertError ObjRef :=
  Bridge.alloc (.str (shownLine line))

/-- A buffer line from an object. -/
def lineFromForeign (r : ObjRef) : Act ConvertError String := do
  let text ← stringOf r
  if text.contains '\n' then Act.fail .newline else pure (storedLine text)

/-- Buffer lines from a string or a sequence of strings. -/
def linesFromForeign (r : ObjRef) : Act ConvertError (List String) := do
  match ← Bridge.inspect r with
  | .str _ | .bytes _ => return [← lineFromForeign r]
  | .list | .tuple | .other _ true =>
    let items ← Bridge.itemsOf r
    items.mapM lineFromForeign
  | _ => unsupported r

/-- A new list for buffer lines. -/
def linesToForeign (lines : List String) : Act ConvertError ObjRef := do
  let items ← lines.mapM lineToForeign
  Bridge.alloc (.list items)

end ScriptBridge.Convert
