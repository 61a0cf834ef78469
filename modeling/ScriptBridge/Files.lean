import ScriptBridge.Text.Lines
import ScriptBridge.Text.Utf8

/-!
# Files

What reading a file gives: its bytes, or why there are none. A `Tree` is a snapshot of a file system
in which paths are followed step by step.
-/

namespace ScriptBridge.Files

/-- Why the system does not read a file. -/
inductive SystemError where
  | missing
  | directory
  | notDirectory
  | nameTooLong
deriving DecidableEq

/-- The wording of the system. -/
def SystemError.text : SystemError → String
  | .missing => "No such file or directory"
  | .directory => "Is a directory"
  | .notDirectory => "Not a directory"
  | .nameTooLong => "File name too long"

/-- The number that the system gives to a failure. -/
def SystemError.code : SystemError → Nat
  | .missing => 2
  | .notDirectory => 20
  | .directory => 21
  | .nameTooLong => 36

/-- Why the text of a file could not be read. -/
inductive FileError where
  | system (reason : SystemError)
  | notText
  /-- A failure of the system with a wording of its own. -/
  | other (text : String)
deriving DecidableEq

/-- The wording of a failed reading. -/
def FileError.message : FileError → String
  | .system reason => reason.text ++ " (os error " ++ toString reason.code ++ ")"
  | .notText => "stream did not contain valid UTF-8"
  | .other text => text

/-- The text that bytes encode. -/
def textOf? (bytes : List UInt8) : Option String :=
  if Text.isWellFormed bytes then some (Text.decode bytes) else none

/-- What reading a file gives. -/
abbrev Reading := Except FileError (List UInt8)

/-- The text of a file. -/
def Reading.text (r : Reading) : Except FileError String := do
  match textOf? (← r) with
  | some text => .ok text
  | none => .error .notText

/-- The lines of a file; one that cannot be read has none. -/
def Reading.lines (r : Reading) : List String :=
  match r.text with
  | .ok text => Text.linesOf text
  | .error _ => []

/-! ### Snapshots -/

/-- A snapshot of a file system. Its files and directories are named by the steps from the root; a
directory that holds something need not be named. -/
structure Tree where
  files : List (List String × List UInt8)
  directories : List (List String) := []
  /-- The working directory. -/
  here : List String

/-- What the steps from the root lead to. -/
inductive Place where
  | file (bytes : List UInt8)
  | directory
  | missing

/-- The steps of a path. A slash at its end is a step that stays where it is. -/
def steps (path : String) : List String :=
  let parts := (path.toList.splitBy fun a b => a ≠ '/' && b ≠ '/').map String.ofList
  let names := parts.filter (· ≠ "/")
  if path.endsWith "/" then names ++ ["."] else names

namespace Tree

/-- What is at a place. -/
def place (t : Tree) (here : List String) : Place :=
  match t.files.lookup here with
  | some bytes => .file bytes
  | none =>
    if (t.files.map (·.1) ++ t.directories).any here.isPrefixOf then .directory else .missing

/-- The longest name of a step, in bytes. -/
def maxName : Nat := 255

/-- The longest path, in bytes. -/
def maxPath : Nat := 4095

/-- Where steps lead to. Only from a directory there are steps, also those that stay or go back. -/
def follow (t : Tree) (here : List String) : List String → Except SystemError (List String)
  | [] => .ok here
  | step :: rest =>
    match t.place here with
    | .file _ => .error .notDirectory
    | .missing => .error .missing
    | .directory =>
      if step = "." then t.follow here rest
      else if step = ".." then t.follow here.dropLast rest
      else if maxName < step.utf8ByteSize then .error .nameTooLong
      else t.follow (here ++ [step]) rest

/-- Where a path leads to. -/
def locate (t : Tree) (path : String) : Except SystemError (List String) :=
  if path.isEmpty then .error .missing
  else if maxPath < path.utf8ByteSize then .error .nameTooLong
  else t.follow (if path.startsWith "/" then [] else t.here) (steps path)

/-- The bytes of a file. -/
def bytes (t : Tree) (path : String) : Except SystemError (List UInt8) := do
  match t.place (← t.locate path) with
  | .file bytes => .ok bytes
  | .directory => .error .directory
  | .missing => .error .missing

/-- Reads a file. -/
def read (t : Tree) (path : String) : Reading := (t.bytes path).mapError .system

/-- The snapshot after a file was written. Where there is no room for it, nothing is written. -/
def write (t : Tree) (path : String) (bytes : List UInt8) : Tree :=
  match t.locate path with
  | .error _ => t
  | .ok there =>
    match t.place there with
    | .directory => t
    | _ => { t with files := (there, bytes) :: t.files.filter (·.1 ≠ there) }

/-- The snapshot of a usual system whose working directory holds files. -/
def ofFiles (files : List (String × List UInt8)) : Tree :=
  let here := ["tmp", "work"]
  { files := (["dev", "null"], []) ::
      files.map fun f => (here ++ (steps f.1).filter (· ≠ "."), f.2)
    directories := here ::
      ["bin", "boot", "etc", "home", "lib", "media", "mnt", "opt", "proc", "root", "run", "sbin",
        "srv", "sys", "usr", "var"].map fun name => [name]
    here }

end Tree

end ScriptBridge.Files
