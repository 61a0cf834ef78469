import ScriptBridge.Bridge.Command
import ScriptBridge.Config.Arguments
import ScriptBridge.Files

/-!
# Starting the program

The arguments name an rc file, the options come from it, from the environment and from the
arguments again, and each file of the arguments becomes a buffer.
-/

namespace ScriptBridge.Console

open Config (Arguments ArgumentError Options)
open Files (FileError Reading)
open Foreign (Stream)
open Host (Editor Message)

/-- A line that the program prints. -/
structure Printed where
  stream : Stream
  text : String
deriving DecidableEq

/-- A message as it is printed. -/
def Printed.ofMessage : Message → Printed
  | .info text => ⟨.out, text⟩
  | .error text => ⟨.err, text⟩

/-- What the program finds around it. -/
structure Surroundings where
  /-- What an environment variable is set to. -/
  environment : String → Option String
  /-- The user's own rc file. -/
  ownRc : String
  read : String → Reading

/-- The user's own rc file, in the directory for the user's settings if that is named by a whole
path, else in the usual place under the home directory. -/
def ownRcPath (settings : Option String) (home : String) : String :=
  let usual := home ++ "/.config"
  let directory := match settings with
    | some d => if d.startsWith "/" then d else usual
    | none => usual
  directory ++ "/vimpy/vimpyrc"

/-- Why the program ended before it did anything. -/
inductive StartError where
  | arguments (reason : ArgumentError)
  | config (reason : FileError)
deriving DecidableEq

/-- What is printed about a start that failed. -/
def StartError.lines : StartError → List String
  | .arguments reason => ["vimpy: " ++ reason.message, Config.usage]
  | .config reason => ["vimpy: cannot read config: " ++ reason.message]

/-- The text of the rc file that the arguments ask for; the user's own one may be missing. -/
def rcText (s : Surroundings) : Config.RcFile → Except FileError String
  | .skip => .ok ""
  | .file path => (s.read path).text
  | .search =>
    match s.read s.ownRc with
    | .error (.system .directory) => .error (.system .directory)
    | .error (.system _) => .ok ""
    | reading => reading.text

/-- The options of a run, and what is printed about those that were refused. -/
def options (s : Surroundings) (args : Arguments) : Except FileError (Options × List Printed) := do
  let (o, refused) := Options.ofText (← rcText s args.rc)
  let (o, refusedVariables) := o.applyEnvironment s.environment
  let printed := (refused ++ refusedVariables).map fun r => ⟨.err, "vimpy: config " ++ r.text⟩
  return (args.apply o, printed)

/-- Makes a file a buffer. The first one takes over the current buffer. -/
def addFile (e : Editor) (first : Bool) (path : String) (lines : List String) : Editor :=
  if first then
    let id := e.currentBuffer
    let load : Host.Change Unit := do
      Host.Change.renameBuffer id path
      Host.Change.replaceLines id 0 e.lastLine lines
    match load e with
    | .ok _ e | .error _ e => e
  else (e.addBuffer path lines).2

/-- The editor with the files of the arguments. -/
def editorOf (s : Surroundings) (paths : List String) : Editor :=
  (paths.zipIdx).foldl (fun e p => addFile e (p.2 = 0) p.1 (s.read p.1).lines) Editor.new

/-- The bridge of a run. Nothing is linked into the program. -/
def bridgeOf (s : Surroundings) (args : Arguments) (o : Options) : Bridge :=
  { editor := editorOf s args.files
    functions := Host.Functions.empty
    interpreter := { kind := .library, libraryName := o.library, siblings := o.siblings }
    handoff := { mode := o.handoff } }

/-- Starts the program: its arguments, its bridge and what is printed at first. -/
def start (s : Surroundings) (argv : List String) :
    Except StartError (Arguments × Bridge × List Printed) := do
  let args ← (Arguments.parse argv).mapError .arguments
  let (o, printed) ← (options s args).mapError .config
  return (args, bridgeOf s args o, printed)

end ScriptBridge.Console
