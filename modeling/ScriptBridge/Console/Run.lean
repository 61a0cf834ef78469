import ScriptBridge.Console.Start
import ScriptBridge.Script.Engine

/-!
# Running the program

The commands of the arguments are run first, then the command lines of the input. Messages are
printed after each of them. The input ends early at a command to quit, at bytes that are no text, or
when the program breaks down.
-/

namespace ScriptBridge.Console

open Command (Reader)
open Files (FileError textOf?)

/-- The program between two lines of its input. -/
structure State where
  bridge : Bridge
  reader : Reader := none

/-- How the input goes on. -/
inductive Continuation where
  | more (s : State)
  | last (s : State)
  /-- The program broke down. -/
  | broken

/-- The engine that runs scripts. -/
def engine : Engine := Script.engine Script.maxDepth

/-- Runs a computation and tells the user about its failure; nothing is left of a breakdown. -/
def told (a : Act BridgeError Unit) (b : Bridge) : Option Bridge :=
  match a b with
  | .ok () b => some b
  | .error .crash _ => none
  | .error (.error e) b =>
    match (Session.report e : Act BridgeError Unit) b with
    | .ok () b | .error _ b => some b

/-- Takes the messages of the editor, as they are printed. -/
def drain (b : Bridge) : List Printed × Bridge :=
  (b.editor.messages.map .ofMessage, { b with editor := { b.editor with messages := [] } })

/-- Runs command lines one after another. -/
def runCommands : Bridge → List String → List Printed × Option Bridge
  | b, [] => ([], some b)
  | b, command :: rest =>
    match told (Session.exCommand engine command) b with
    | none => ([], none)
    | some b =>
      let (printed, b) := drain b
      let (more, b?) := runCommands b rest
      (printed ++ more, b?)

/-- Whether a line between commands ends the input. -/
def isQuit (line : String) : Bool :=
  let word := String.ofList ((Text.trimBlanks line.toList).dropWhile (· = ':'))
  word = "q" || word = "quit" || word = "qa" || word = "qall"

/-- Runs what the reader gives. -/
def runRead (input : Except ParseError (Option Command.Input)) : Act BridgeError Unit := do
  match input with
  | .ok (some input) => Session.runInput engine input
  | .ok none => pure ()
  | .error e => Act.fail (.parse e)

/-- Takes a line of the input; none stands for bytes that are no text. -/
def State.consume (s : State) : Option String → List Printed × Continuation
  | none => ([⟨.err, "vimpy: " ++ FileError.notText.message⟩], .last s)
  | some line =>
    if s.reader.isNone && isQuit line then ([], .last s)
    else
      let (input, reader) := s.reader.push line
      match told (runRead input) s.bridge with
      | none => ([], .broken)
      | some b =>
        let (printed, bridge) := drain b
        (printed, .more { bridge, reader })

/-- Ends the program: a body that is still open is run, and the interpreter is shut down. -/
def State.finish (s : State) : Option (List Printed) :=
  (told (runRead (.ok s.reader.finish)) s.bridge).bind fun b =>
    (told Session.shutdown b).map fun b => (drain b).1

/-- Takes lines of the input one after another. -/
def State.consumeAll : State → List (Option String) → List Printed × Continuation
  | s, [] => ([], .last s)
  | s, line :: rest =>
    match s.consume line with
    | (printed, .more s) =>
      let (more, continuation) := s.consumeAll rest
      (printed ++ more, continuation)
    | ended => ended

/-- The end of a run: its exit code and what it printed. -/
structure Result where
  code : Nat
  printed : List Printed
deriving DecidableEq

/-- The exit code of a program that broke down. -/
def brokenCode : Nat := 101

/-- Starts the program and runs the commands of its arguments. What is printed until then, and the
state in which the input is read, or the exit code. -/
def opening (s : Surroundings) (argv : List String) : List Printed × Except Nat State :=
  match start s argv with
  | .error e => (e.lines.map fun line => ⟨.err, line⟩, .error 1)
  | .ok (args, b, printed) =>
    match runCommands b args.commands with
    | (more, none) => (printed ++ more, .error brokenCode)
    | (more, some bridge) => (printed ++ more, .ok { bridge })

/-- What is printed at the end, and the exit code. -/
def closing : Continuation → List Printed × Nat
  | .broken => ([], brokenCode)
  | .more s | .last s =>
    match s.finish with
    | none => ([], brokenCode)
    | some printed => (printed, 0)

/-- Runs the program on the lines of its input. -/
def run (s : Surroundings) (argv : List String) (input : List (Option String)) : Result :=
  match opening s argv with
  | (printed, .error code) => ⟨code, printed⟩
  | (printed, .ok state) =>
    let (during, continuation) := state.consumeAll input
    let (after, code) := closing continuation
    ⟨code, printed ++ during ++ after⟩

/-! ### Lines of bytes -/

/-- The bytes before the first line feed and those after it; nothing if there is none. -/
def cutBytes? : List UInt8 → Option (List UInt8 × List UInt8)
  | [] => none
  | b :: rest =>
    if b = 10 then some ([], rest) else (cutBytes? rest).map fun (line, rest) => (b :: line, rest)

/-- What follows a line feed is shorter. -/
theorem cutBytes?_length {bytes line rest : List UInt8} (h : cutBytes? bytes = some (line, rest)) :
    rest.length < bytes.length := by
  induction bytes generalizing line rest with
  | nil => simp [cutBytes?] at h
  | cons b bs ih =>
    unfold cutBytes? at h
    split at h
    · simp only [Option.some.injEq, Prod.mk.injEq] at h
      simp [h.2]
    · obtain ⟨⟨l, r⟩, hc, hr⟩ := Option.map_eq_some_iff.1 h
      simp only [Prod.mk.injEq] at hr
      have := ih hc
      simp only [List.length_cons]
      rw [← hr.2]
      omega

/-- The text of a line that a line feed ends. -/
def endedLine (bytes : List UInt8) : Option String :=
  (textOf? bytes).map fun text => String.ofList (Text.dropReturn text.toList)

/-- The lines of bytes; none stands for a line that is no text. -/
def inputLines (bytes : List UInt8) : List (Option String) :=
  match h : cutBytes? bytes with
  | some (line, rest) =>
    have := cutBytes?_length h
    endedLine line :: inputLines rest
  | none => if bytes.isEmpty then [] else [textOf? bytes]
termination_by bytes.length

end ScriptBridge.Console
