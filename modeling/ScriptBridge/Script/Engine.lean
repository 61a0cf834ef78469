import ScriptBridge.Script.Log
import ScriptBridge.Script.Run
import ScriptBridge.Decimal.Reading

/-!
# The interpreters

How each interpreter runs and evaluates a source text. Scripts can run scripts, down to a number of
levels.
-/

namespace ScriptBridge.Script

open Foreign (ObjRef Object InterpreterKind)

/-! ### The scripted interpreter -/

/-- The text between two quotes. -/
def between (quote : Char) (s : List Char) : Option String :=
  if 2 ≤ s.length && s.head? = some quote && s.getLast? = some quote then
    some (String.ofList (s.drop 1).dropLast)
  else none

/-- The object that a literal stands for. -/
def literal? (code : String) : Option Object :=
  let s := Text.trimBlanks code.toList
  match String.ofList s with
  | "None" => some .null
  | "True" => some (.bool true)
  | "False" => some (.bool false)
  | _ =>
    ((Text.readInt64? s).map fun n => .int n.toInt) <|>
      ((Decimal.readFloat? s).map .float) <|>
      ((between '\'' s).map .str) <|> ((between '"' s).map .str)

/-- The failure of a source text that is not known. -/
def unknownSource (code : String) : ForeignError :=
  .exception .value ("no stub script for " ++ Text.quoted code)

/-- Notes a source text in the history. -/
def noteSource {ε : Type} (code : String) : Act ε Unit :=
  modify fun b =>
    { b with interpreter := { b.interpreter with history := b.interpreter.history ++ [code] } }

/-- Runs a script that is known. -/
def runKnown (engine : Engine) (code : String) : Content → Act ForeignError ObjRef
  | .body steps => do
    if !(← get).attached then Act.fail .notInitialized
    runScript engine code steps
  | .value v => build v

/-- Runs a source text in the scripted interpreter. -/
def runScripted (engine : Engine) (code : String) : Act ForeignError Unit := do
  noteSource code
  match (← get).interpreter.scripts.lookup code with
  | some script =>
    let _ ← runKnown engine code script
  | none => Act.fail (unknownSource code)

/-- Evaluates a source text in the scripted interpreter. A literal that is no script stands for
itself. -/
def evalScripted (engine : Engine) (code : String) : Act ForeignError ObjRef := do
  noteSource code
  match (← get).interpreter.scripts.lookup code, literal? code with
  | some script, _ => runKnown engine code script
  | none, some x => Bridge.alloc x
  | none, none => Act.fail (unknownSource code)

/-! ### The interpreter of a library -/

/-- The last line of a report on an exception. A missing key is shown as a literal. -/
def exceptionLine? : ForeignError → Option String
  | .exception .key text => some (ExceptionKind.key.name ++ ": " ++ literalText text)
  | .exception kind "" => some kind.name
  | e@(.exception ..) | e@(.absentKey ..) => some e.message
  | .pending | .reported | .notInitialized => none

/-- Shows an exception on the error stream, with the lines of source texts through which it came.
The failure is reported then. -/
def reportException {α : Type} (source : List String) (e : ForeignError) : Act ForeignError α := do
  match exceptionLine? e with
  | some line =>
    let lines := "Traceback (most recent call last):" :: source.map ("    " ++ ·) ++ [line]
    Proxy.write .err (String.join (lines.map (· ++ "\n")))
  | none => pure ()
  Act.fail .reported

/-- Runs a computation of scripts; its exception is shown. -/
def reporting {α : Type} (source : List String) (a : Act ForeignError α) : Act ForeignError α := do
  let result : Except ForeignError α ← Act.attempt a
  match result with
  | .ok x => pure x
  | .error e => reportException source e

/-- Refuses a source text with a null character, and any source text before the interpreter is
started. -/
def demandSource (code : String) : Act ForeignError Unit := do
  if code.contains '\x00' then Act.fail (.exception .value "embedded null character")
  if !(← get).interpreter.initialized then Act.fail .notInitialized

/-- The class of the exception for a failure of the system. -/
def systemClass : Files.SystemError → String
  | .missing => "FileNotFoundError"
  | .directory => "IsADirectoryError"
  | .notDirectory => "NotADirectoryError"
  | .nameTooLong => "OSError"

/-- The exception for a script file that cannot be opened. -/
def notOpened (path : String) (e : Files.SystemError) : ForeignError :=
  .exception (.other (systemClass e))
    ("[Errno " ++ toString e.code ++ "] " ++ e.text ++ ": " ++ literalText path)

/-- Shows that a text between quotes does not end on its line. The quote is the one in front of the
path in the statement that runs a script file. -/
def reportUnterminated {α : Type} (code : String) : Act ForeignError α := do
  let line := String.ofList (code.toList.takeWhile fun c => c ≠ '\n' && c ≠ '\r')
  let lines := ["    " ++ line, marks (Command.openText.length - 1) 1,
    "SyntaxError: unterminated string literal (detected at line 1)"]
  Proxy.write .err (String.join (lines.map (· ++ "\n")))
  Act.fail .reported

/-- Runs a source text that is known; one that is not does nothing. -/
def runSource (engine : Engine) (code : String) (shown : List String) : Act ForeignError Unit := do
  match (← get).interpreter.scripts.lookup code with
  | some script =>
    let _ ← reporting shown (runKnown engine code script)
  | none => pure ()

/-- Runs a source text in the interpreter of a library. The lines of a script file are shown where
an exception came through them. -/
def runLibrary (engine : Engine) (code : String) : Act ForeignError Unit := do
  demandSource code
  match Command.statementPath? code with
  | none => runSource engine code []
  | some path =>
    if path.any fun c => c = '\n' || c = '\r' then reportUnterminated code
    match (← get).interpreter.files.bytes path with
    | .ok bytes =>
      let lines := Text.linesOf (Text.decode bytes)
      runSource engine (String.intercalate "\n" lines) lines
    | .error e => reportException [] (notOpened path e)

/-- The integers that plus signs separate. -/
def summands (s : List Char) : List (List Char) :=
  s.foldr (fun c parts =>
    match parts with
    | part :: rest => if c = '+' then [] :: part :: rest else (c :: part) :: rest
    | [] => [[c]]) [[]]

/-- The object that a literal or a sum of integers stands for. -/
def plainExpression? (code : String) : Option Object :=
  match literal? code with
  | some x => some x
  | none =>
    let parts := (summands code.toList).map fun s => Text.readDigits? (Text.trimBlanks s)
    if parts.all Option.isSome then
      some (.int ((parts.map fun n => ((n.getD 0 : Nat) : Int)).foldl (· + ·) 0))
    else none

/-- Shows that a source text is no expression. -/
def reportSyntax {α : Type} (code : String) : Act ForeignError α := do
  let marks := String.ofList (code.toList.takeWhile Char.isAlphanum |>.map fun _ => '^')
  let marked := if code.isEmpty then "" else "    " ++ marks ++ "\n"
  Proxy.write .err ("    " ++ code ++ "\n" ++ marked ++ "SyntaxError: invalid syntax\n")
  Act.fail .reported

/-- Evaluates a source text in the interpreter of a library. -/
def evalLibrary (engine : Engine) (code : String) : Act ForeignError ObjRef := do
  demandSource code
  match (← get).interpreter.scripts.lookup code, plainExpression? code with
  | some script, _ => reporting [] (runKnown engine code script)
  | none, some x => Bridge.alloc x
  | none, none => reportSyntax code

/-! ### Both -/

/-- An interpreter that runs scripts with the engine of the level below. -/
def engineOver (inner : Engine) : Engine where
  run code := do
    match (← get).interpreter.kind with
    | .scripted => runScripted inner code
    | .library => runLibrary inner code
  eval code := do
    match (← get).interpreter.kind with
    | .scripted => evalScripted inner code
    | .library => evalLibrary inner code

/-- The engine for scripts that nest at most `depth` levels deep; deeper ones break down. -/
def engine : Nat → Engine
  | 0 => { run := fun _ => Act.crash, eval := fun _ => Act.crash }
  | depth + 1 => engineOver (engine depth)

/-- How deep scripts can nest. -/
def maxDepth : Nat := 1000

/-- Runs a statement of the caller. The messages that it leaves are taken. -/
def runTop (s : Step) (b : Bridge) : Entry × List Host.Message × Bridge :=
  match runStep (engine maxDepth) s b with
  | .ok entry b =>
    let (entry, messages) := match b.interpreter.kind with
      | .scripted => (entry, b.editor.messages)
      | .library => written entry b.editor.messages
    (entry, messages, { b with editor := { b.editor with messages := [] } })
  | .error _ b => (.mk .crash [], [], b)

/-- Runs statements of the caller one after another; each outcome with the messages it left. -/
def runAllTop : List Step → Bridge → List (Entry × List Host.Message)
  | [], _ => []
  | s :: rest, b =>
    let (entry, messages, b) := runTop s b
    (entry, messages) :: runAllTop rest b

end ScriptBridge.Script
