import ScriptBridge.Handoff
import ScriptBridge.Text.Class
import ScriptBridge.Text.Lines

/-!
# Configuration

Options come from an rc text, then from environment variables. A line or a variable that is
refused is reported and changes nothing.
-/

namespace ScriptBridge.Config

open Text (trim)

/-- The settings of a session. -/
structure Options where
  /-- The interpreter library to bind. -/
  library : String := "libpython3.so"
  /-- The home directory of the interpreter. -/
  home : Option String := none
  handoff : HandoffMode := .reentrant
  /-- Interpreter libraries that must not be loaded already. -/
  siblings : List String := []
deriving DecidableEq

/-- Why an rc line or an environment variable was refused. -/
inductive Refusal where
  | unknownDirective (word : String)
  | missingName
  | emptyLibrary
  | unknownMode (text : String)
  | unknownOption (name : String)
deriving DecidableEq

/-- The wording of a refusal. -/
def Refusal.message : Refusal → String
  | .unknownDirective word => "unknown directive: " ++ word
  | .missingName => "set requires an option name"
  | .emptyLibrary => "library name cannot be empty"
  | .unknownMode text => HandoffMode.unknown text
  | .unknownOption name => "unknown option: " ++ name

/-- Where a refused setting stands. -/
inductive Place where
  /-- A line of the rc text, counted from one. -/
  | line (n : Nat)
  | environment (name : String)
deriving DecidableEq

/-- A refused setting. -/
structure Report where
  place : Place
  reason : Refusal
deriving DecidableEq

/-- The line that a report gives; settings of the environment have line zero. -/
def Report.line (r : Report) : Nat :=
  match r.place with
  | .line n => n
  | .environment _ => 0

/-- The wording of a report. -/
def Report.message (r : Report) : String :=
  match r.place with
  | .line _ => r.reason.message
  | .environment v => v ++ ": " ++ r.reason.message

/-- The wording of a report with its line. -/
def Report.text (r : Report) : String := "line " ++ toString r.line ++ ": " ++ r.message

/-- The parts of a text between commas. -/
def splitCommas (s : List Char) : List (List Char) :=
  s.foldr (fun c parts =>
    match parts with
    | part :: rest => if c = ',' then [] :: part :: rest else (c :: part) :: rest
    | [] => [[c]]) [[]]

/-- The names in a list with commas, without blanks around them and without empty ones. -/
def splitNames (s : String) : List String :=
  ((splitCommas s.toList).map Text.trimBlanks).filter (!·.isEmpty) |>.map String.ofList

/-- Sets an option by its name. -/
def Options.set (o : Options) (name value : String) : Except Refusal Options :=
  match name with
  | "library" | "pythondll" =>
    if value.isEmpty then .error .emptyLibrary else .ok { o with library := value }
  | "pythonhome" => .ok { o with home := if value.isEmpty then none else some value }
  | "handoff" =>
    match HandoffMode.ofName? value with
    | some handoff => .ok { o with handoff }
    | none => .error (.unknownMode value)
  | "siblings" => .ok { o with siblings := splitNames value }
  | _ => .error (.unknownOption name)

/-- The characters that separate the words of an rc line. -/
def isSeparator (c : Char) : Bool :=
  c = ' ' || c = '\t' || c = '\n' || c = '\r' || c = '\x0c'

/-- The parts of a text before and after the first character of a kind; the second part is missing
if there is none. -/
def splitFirst (p : Char → Bool) (s : List Char) : List Char × Option (List Char) :=
  match s.dropWhile (!p ·) with
  | [] => (s, none)
  | _ :: rest => (s.takeWhile (!p ·), some rest)

/-- The option name and the value of an assignment. An equals sign separates them if there is one,
else the first separator. -/
def splitAssignment (arg : List Char) : Except Refusal (String × String) :=
  let (name, value) := match splitFirst (· = '=') arg with
    | (n, some v) => (Text.trimBlanks n, Text.trimBlanks v)
    | (_, none) =>
      let (n, v) := splitFirst isSeparator arg
      (n, Text.trimBlanks (v.getD []))
  if name.isEmpty then .error .missingName else .ok (String.ofList name, String.ofList value)

/-- Applies one rc line. Empty lines and comments change nothing. -/
def Options.applyLine (o : Options) (line : List Char) : Except Refusal Options :=
  match Text.trimBlanks line with
  | [] | '"' :: _ | '#' :: _ => .ok o
  | text => do
    let (word, rest) := splitFirst isSeparator text
    let word := String.ofList word
    if word = "set" ∨ word = "se" then
      let (name, value) ← splitAssignment (Text.trimBlanks (rest.getD []))
      o.set name value
    else .error (.unknownDirective word)

/-- Applies rc lines from top to bottom; `n` is the number of the first one. -/
def Options.applyLines (o : Options) (n : Nat) : List (List Char) → Options × List Report
  | [] => (o, [])
  | line :: rest =>
    match o.applyLine line with
    | .ok o => o.applyLines (n + 1) rest
    | .error reason =>
      let (o, reports) := o.applyLines (n + 1) rest
      (o, ⟨.line n, reason⟩ :: reports)

/-- The options that an rc text gives. -/
def Options.ofText (text : String) : Options × List Report :=
  ({} : Options).applyLines 1 (Text.lines text.toList)

/-- The environment variables that set options. -/
def environmentOptions : List (String × String) :=
  [("VIMPY_PYTHONDLL", "library"), ("VIMPY_PYTHONHOME", "pythonhome"), ("VIMPY_HANDOFF", "handoff")]

/-- Applies environment variables, given what each is set to. -/
def Options.applyVariables (o : Options) (value? : String → Option String) :
    List (String × String) → Options × List Report
  | [] => (o, [])
  | (key, name) :: rest =>
    match value? key with
    | none => o.applyVariables value? rest
    | some value =>
      match o.set name value with
      | .ok o => o.applyVariables value? rest
      | .error reason =>
        let (o, reports) := o.applyVariables value? rest
        (o, ⟨.environment key, reason⟩ :: reports)

/-- Applies the environment. -/
def Options.applyEnvironment (o : Options) (value? : String → Option String) :
    Options × List Report :=
  o.applyVariables value? environmentOptions

end ScriptBridge.Config
