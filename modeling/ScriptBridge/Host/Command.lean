import ScriptBridge.Host.Expr.Eval

/-!
# Host commands

A command is a word of ASCII letters and an argument. Blanks and colons may stand in front; a line
that starts with a double quote is a comment.
-/

namespace ScriptBridge.Host

open Eval (fail)

/-- The word of a command and its argument. -/
def splitCommand (s : List Char) : String × String :=
  (String.ofList (s.takeWhile Char.isAlpha),
    String.ofList (Text.trimBlanks (s.dropWhile Char.isAlpha)))

/-- A command line without what may stand in front of the command and without trailing blanks. -/
def commandText (line : String) : List Char :=
  Text.dropBlanksRight (line.toList.dropWhile fun c => c = ' ' || c = '\t' || c = ':')

/-- The number of a buffer. -/
def bufferNumber (s : String) : Eval Nat :=
  match Text.readNatBelow? Text.count32 (Text.trimBlanks s.toList) with
  | some n => pure n
  | none => fail (.badBufferNumber s)

/-- The texts of expressions, each evaluated before the next one. -/
def echoAll (functions : UserFunctions) : List Expr → Eval (List String)
  | [] => pure []
  | e :: es => do
    let v ← e.eval functions
    let text := (← get).store.echo v
    let texts ← echoAll functions es
    pure (text :: texts)

/-- Assigns the value of an expression to a variable. -/
def assign (functions : UserFunctions) (arg : String) : Eval Unit := do
  let s := arg.toList
  if !s.contains '=' then fail (.invalidExpression arg)
  let value ← evalText functions (String.ofList ((s.dropWhile (· ≠ '=')).drop 1))
  let (scope, key) ← Eval.scopeOf (Text.trim (String.ofList (s.takeWhile (· ≠ '='))))
  Eval.store fun s => s.insert scope key value

/-- Removes a variable. -/
def unassign (name : String) : Eval Unit := do
  let (scope, key) ← Eval.scopeOf name
  let old := (← get).store.get? scope key
  Eval.store fun s => s.erase scope key
  if old.isNone then fail (.noSuchVariable name)

/-- Runs one command line. -/
def runCommand (functions : UserFunctions) (line : String) : Eval Unit := do
  let text := commandText line
  if text.isEmpty || text.head? = some '"' then return
  let (word, arg) := splitCommand text
  match word with
  | "echo" | "echom" | "echomsg" =>
    let texts ← echoAll functions (Expr.readAll arg)
    Eval.say (.info (String.intercalate " " texts))
  | "echoe" | "echoerr" =>
    let v ← evalText functions arg
    Eval.say (.error ((← get).store.echo v))
  | "let" => assign functions arg
  | "unl" | "unlet" => unassign arg
  | "cal" | "call" =>
    let _ ← evalText functions arg
  | "new" => Eval.change do
    let b ← Change.addBuffer "" []
    let _ ← Change.splitWindow b
  | "sp" | "split" => Eval.change do
    let _ ← Change.splitWindow (← get).currentBuffer
  | "clo" | "close" => Eval.change do Change.closeWindow (← get).currentWindow
  | "tabnew" => Eval.change do
    let b ← Change.addBuffer "" []
    let _ ← Change.newTab b
  | "tabc" | "tabclose" => Eval.change do Change.closeTab (← get).currentTab
  | "b" | "buffer" =>
    let n ← bufferNumber arg
    Eval.change (Change.setCurrentBuffer n)
  | "bw" | "bwipe" | "bwipeout" =>
    let n ← if arg.isEmpty then pure (← get).currentBuffer else bufferNumber arg
    Eval.change (Change.wipeBuffer n)
  | _ => fail (.notACommand (String.ofList text))

end ScriptBridge.Host
