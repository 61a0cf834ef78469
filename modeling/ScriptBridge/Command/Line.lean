import ScriptBridge.Error
import ScriptBridge.Host.Editor
import ScriptBridge.Text.Class
import ScriptBridge.Text.Integer

/-!
# Command lines

A command line is an optional line range, a word and an argument. Blanks and colons may stand in
front, blanks around the range and after the word. The word tells scripts, script files and
expressions from commands of the host.
-/

namespace ScriptBridge.Command

open Text (isBlank isDecimalDigit dropBlanks trimBlanks)

/-- One end of a line range. -/
inductive Address where
  | line (n : Nat)
  | cursor
  | last
deriving DecidableEq

/-- The lines a command is given. -/
inductive LineRange where
  | whole
  | single (a : Address)
  | pair (a b : Address)
deriving DecidableEq

/-- What a command does. -/
inductive Kind where
  | script
  | file
  | eval
  /-- A command of the host's own interpreter. -/
  | host
deriving DecidableEq

/-- A command line in its parts. -/
structure Line where
  range : Option LineRange
  kind : Kind
  arg : String
  /-- The whole line. -/
  text : String
deriving DecidableEq

/-- Whether a word is `full` or a start of it with at least `least` characters. -/
def abbreviates (word full : String) (least : Nat) : Bool :=
  least ≤ word.length && word.toList.isPrefixOf full.toList

/-- The kind that a command word names. -/
def Kind.ofWord (word : String) : Kind :=
  if abbreviates word "python" 2 || word = "py3" || abbreviates word "python3" 7 then .script
  else if abbreviates word "pyfile" 3 || abbreviates word "py3file" 4 then .file
  else if abbreviates word "pyeval" 3 || abbreviates word "py3eval" 4 then .eval
  else .host

/-- The text of an address at the front of a line, and what follows it. -/
def splitAddress? (s : List Char) : Option (List Char × List Char) :=
  match s with
  | '.' :: r => some (['.'], r)
  | '$' :: r => some (['$'], r)
  | _ =>
    let digits := s.takeWhile isDecimalDigit
    if digits.isEmpty then none else some (digits, s.dropWhile isDecimalDigit)

/-- The texts of the addresses of a range. -/
inductive RangeText where
  | whole
  | single (a : List Char)
  | pair (a b : List Char)

/-- The text of a range at the front of a line, and what follows it. -/
def splitRange (s : List Char) : Option RangeText × List Char :=
  match s with
  | '%' :: r => (some .whole, r)
  | _ =>
    match splitAddress? s with
    | none => (none, s)
    | some (a, r) =>
      match dropBlanks r with
      | ',' :: t =>
        match splitAddress? (dropBlanks t) with
        | some (b, r) => (some (.pair a b), r)
        | none => (some (.single a), r)
      | _ => (some (.single a), r)

/-- The address that a text names; the digits of a line number have to be ASCII ones, and the
number below `2 ^ 64`. -/
def Address.ofText? (s : List Char) : Option Address :=
  if s = ['.'] then some .cursor
  else if s = ['$'] then some .last
  else (Text.readNatBelow? Text.count64 s).map .line

/-- The range that a text names. -/
def LineRange.ofText? : RangeText → Option LineRange
  | .whole => some .whole
  | .single a => (Address.ofText? a).map .single
  | .pair a b => do some (.pair (← Address.ofText? a) (← Address.ofText? b))

/-- Splits a command line. -/
def Line.parse (text : String) : Except ParseError Line :=
  let s := text.toList.dropWhile fun c => isBlank c || c = ':'
  let (range, s) := splitRange s
  let s := dropBlanks s
  let word := s.takeWhile Char.isAlphanum
  let rest := s.dropWhile Char.isAlphanum
  if !(s.head?.any Char.isAlpha) || rest.contains '\n' then
    .error (.notACommand (Text.trim text))
  else
    let line (range : Option LineRange) : Line :=
      { range, text, kind := Kind.ofWord (String.ofList word)
        arg := String.ofList (trimBlanks rest) }
    match range with
    | none => .ok (line none)
    | some r =>
      match LineRange.ofText? r with
      | some r => .ok (line (some r))
      | none => .error .invalidRange

/-- The line that ends the body of a script given after `<<`; a point if none is named. -/
def Line.marker? (l : Line) : Option String :=
  match l.kind, l.arg.toList with
  | .script, '<' :: '<' :: rest =>
    let marker := trimBlanks rest
    some (if marker.isEmpty then "." else String.ofList marker)
  | _, _ => none

/-- The line that an address names. -/
def Address.resolve (cursor last : Nat) : Address → Nat
  | .line n => n
  | .cursor => cursor
  | .last => last

/-- The first and the last line of a range, in a buffer of `last` lines with the cursor on line
`cursor`. -/
def LineRange.resolveIn (cursor last : Nat) (r : LineRange) : Except ParseError (Nat × Nat) :=
  let (start, stop) := match r with
    | .whole => (1, last)
    | .single a => (a.resolve cursor last, a.resolve cursor last)
    | .pair a b => (a.resolve cursor last, b.resolve cursor last)
  if start = 0 ∨ last < stop ∨ stop < start then .error .invalidRange else .ok (start, stop)

/-- The lines that a range names in the current buffer. -/
def LineRange.resolve (r : LineRange) (e : Host.Editor) : Except ParseError (Nat × Nat) :=
  r.resolveIn e.cursorLine e.lastLine

/-!
### Reading command scripts

A command script is read line by line. A command line that names an end marker opens a body, which
is all lines up to the marker; empty lines and comments between commands give nothing.
-/

/-- A command that is ready to run: its line, and its body if it has one. -/
structure Input where
  line : Line
  body : Option String
deriving DecidableEq

/-- A body that is being collected. -/
structure OpenBody where
  line : Line
  marker : String
  lines : List String
deriving DecidableEq

/-- Where the reader is: between commands, or in a body. -/
abbrev Reader := Option OpenBody

namespace Reader

/-- The command whose body has been collected. -/
def close (b : OpenBody) : Input :=
  { line := b.line, body := some (String.intercalate "\n" b.lines) }

/-- Whether a line between commands gives nothing. -/
def isIgnored (line : String) : Bool :=
  match Text.dropBlanks line.toList with
  | [] => true
  | c :: _ => c = '"'

/-- Takes one line; a command, once one is complete. -/
def push (r : Reader) (line : String) : Except ParseError (Option Input) × Reader :=
  match r with
  | some b =>
    if Text.trimRight line = b.marker then (.ok (some (close b)), none)
    else (.ok none, some { b with lines := b.lines ++ [line] })
  | none =>
    if isIgnored line then (.ok none, none)
    else
      match Line.parse line with
      | .error e => (.error e, none)
      | .ok l =>
        match l.marker? with
        | some marker => (.ok none, some ⟨l, marker, []⟩)
        | none => (.ok (some ⟨l, none⟩), none)

/-- The end of the input: a body that is still open is complete. -/
def finish (r : Reader) : Option Input := r.map close

end Reader

end ScriptBridge.Command
