import ScriptBridge.Console.Run

/-!
# The program

Reads the files that the arguments name and the command lines of the standard input, and prints
messages as they arise.
-/

open ScriptBridge ScriptBridge.Console ScriptBridge.Files

/-- Reads a file. -/
def readBytes (path : String) : IO Reading := do
  try
    return .ok (← IO.FS.readBinFile path).toList
  catch e =>
    return .error (match e with
      | .noFileOrDirectory .. => .system .missing
      | .inappropriateType _ 20 _ => .system .notDirectory
      | .inappropriateType .. => .system .directory
      | .permissionDenied _ code _ =>
        .other ("Permission denied (os error " ++ toString code ++ ")")
      | e => .other (toString e))

/-- The user's own rc file. -/
def findOwnRc : IO String := do
  return ownRcPath (← IO.getEnv "XDG_CONFIG_HOME") ((← IO.getEnv "HOME").getD "")

/-- The paths that a run reads. -/
def pathsOf (argv : List String) (ownRc : String) : List String :=
  match Config.Arguments.parse argv with
  | .error _ => []
  | .ok args =>
    let rc := match args.rc with
      | .search => [ownRc]
      | .skip => []
      | .file path => [path]
    rc ++ args.files

/-- What the program finds around it. -/
def survey (argv : List String) : IO Surroundings := do
  let ownRc ← findOwnRc
  let readings ← (pathsOf argv ownRc).mapM fun path => do return (path, ← readBytes path)
  let settings ← Config.environmentOptions.filterMapM fun v => do
    return (← IO.getEnv v.1).map (v.1, ·)
  return {
    environment := fun name => settings.lookup name
    ownRc
    read := fun path => (readings.lookup path).getD (.error (.system .missing)) }

/-- Prints lines. -/
def printAll (lines : List Printed) : IO Unit := do
  for line in lines do
    match line.stream with
    | .out => IO.println line.text
    | .err => IO.eprintln line.text
  (← IO.getStdout).flush

/-- Takes the lines that are complete. -/
partial def takeLines (s : State) (bytes : List UInt8) : IO (Continuation × List UInt8) := do
  match cutBytes? bytes with
  | none => return (.more s, bytes)
  | some (line, rest) =>
    let (printed, continuation) := s.consume (endedLine line)
    printAll printed
    match continuation with
    | .more s => takeLines s rest
    | ended => return (ended, rest)

/-- Reads the standard input to its end. -/
partial def readInput (input : IO.FS.Stream) (s : State) (bytes : List UInt8) :
    IO Continuation := do
  let chunk ← input.read 4096
  if chunk.isEmpty then
    let (printed, continuation) := s.consumeAll (inputLines bytes)
    printAll printed
    return continuation
  else
    let (continuation, rest) ← takeLines s (bytes ++ chunk.toList)
    match continuation with
    | .more s => readInput input s rest
    | ended => return ended

/-- Runs the program. -/
def main (argv : List String) : IO UInt32 := do
  let (printed, opened) := opening (← survey argv) argv
  printAll printed
  match opened with
  | .error code => return code.toUInt32
  | .ok state =>
    let (printed, code) := closing (← readInput (← IO.getStdin) state [])
    printAll printed
    return code.toUInt32
