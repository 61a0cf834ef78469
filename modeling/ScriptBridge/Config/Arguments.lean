import ScriptBridge.Config.Options

/-!
# Command-line arguments

Flags, files and commands in any order. A flag that takes a value takes the next argument whatever
it looks like; after `--` every argument is a file.
-/

namespace ScriptBridge.Config

/-- Which rc file to read. -/
inductive RcFile where
  /-- The one in the user's configuration directory, if it exists. -/
  | search
  | skip
  | file (path : String)
deriving DecidableEq

/-- What the command line asks for. -/
structure Arguments where
  rc : RcFile := .search
  library : Option String := none
  home : Option String := none
  /-- Whether the single-call handoff is asked for. -/
  single : Bool := false
  commands : List String := []
  files : List String := []
deriving DecidableEq

/-- Why a command line was refused. -/
inductive ArgumentError where
  | missingValue (flag : String)
  | unknownOption (text : String)
deriving DecidableEq

/-- The wording of a refused command line. -/
def ArgumentError.message : ArgumentError → String
  | .missingValue flag => flag ++ " requires an argument"
  | .unknownOption text => "unknown option: " ++ text

/-- The summary of the command line. -/
def usage : String :=
  "Usage: vimpy [-u <rcfile>|NONE] [--dll <library>] [--home <dir>] [--single] " ++
    "[-c <excmd>]... [<file>...]"

namespace Arguments

/-- The rc file that a name asks for. -/
def rcOf (name : String) : RcFile := if name = "NONE" then .skip else .file name

/-- Adds a flag that takes a value. -/
def withValue (a : Arguments) (flag value : String) : Arguments :=
  match flag with
  | "-u" => { a with rc := rcOf value }
  | "-c" => { a with commands := a.commands ++ [value] }
  | "--dll" => { a with library := some value }
  | _ => { a with home := some value }

/-- The flags that take a value. -/
def valueFlags : List String := ["-u", "-c", "--dll", "--home"]

/-- Adds the arguments of a command line. -/
def push (a : Arguments) : List String → Except ArgumentError Arguments
  | [] => .ok a
  | arg :: rest =>
    if arg = "--" then .ok { a with files := a.files ++ rest }
    else if arg = "-" ∨ arg.toList.head? ≠ some '-' then
      push { a with files := a.files ++ [arg] } rest
    else if arg ∈ valueFlags then
      match rest with
      | [] => .error (.missingValue arg)
      | value :: rest => push (a.withValue arg value) rest
    else if arg = "--single" then push { a with single := true } rest
    else
      match arg.toList with
      | '-' :: 'c' :: command => push (a.withValue "-c" (String.ofList command)) rest
      | _ => .error (.unknownOption arg)

/-- Reads a command line. -/
def parse (argv : List String) : Except ArgumentError Arguments := ({} : Arguments).push argv

/-- The options with what the command line sets. -/
def apply (a : Arguments) (o : Options) : Options :=
  { o with
    library := a.library.getD o.library
    home := a.home <|> o.home
    handoff := if a.single then .singleCall else o.handoff }

end Arguments

end ScriptBridge.Config
