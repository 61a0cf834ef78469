import ScriptBridge.Host.Store
import ScriptBridge.Decimal.Layout
import ScriptBridge.Text.Quoted

/-!
# Texts of host values

A value has three texts: the one a user sees (`show`), the one a message shows (`echo`, where a
string stands without quotes), and the one for inspection (`debug`). Containers inside a container
are shown by their size, so no text goes deeper than one level.
-/

namespace ScriptBridge.Host

/-- A string between single quotes, with the quotes inside it doubled. -/
def singleQuoted (s : String) : String :=
  "'" ++ String.ofList (s.toList.flatMap fun c => if c = '\'' then ['\'', '\''] else [c]) ++ "'"

/-- The size of a container that is not shown further. -/
def itemCount (openBracket closeBracket : String) (n : Nat) : String :=
  openBracket ++ toString n ++ " items" ++ closeBracket

/-- A value inside a container: the container itself by dots, others by their size. -/
def Store.showInner (s : Store) (within : Value) (v : Value) : String :=
  match v with
  | .null => "v:none"
  | .number n => toString n.toInt
  | .float x => Decimal.Layout.shown.text x
  | .str t => singleQuoted t
  | .func name _ => "function('" ++ name ++ "')"
  | .list l =>
    match within with
    | .list outer => if outer = l then "[...]" else itemCount "[" "]" (s.list l).items.length
    | _ => itemCount "[" "]" (s.list l).items.length
  | .dict d =>
    match within with
    | .dict outer =>
      if outer = d then "\x7b...\x7d"
      else itemCount "\x7b" "\x7d" (s.dict d).entries.length
    | _ => itemCount "\x7b" "\x7d" (s.dict d).entries.length

/-- The text of a list. -/
def Store.showList (s : Store) (l : ListRef) : String :=
  "[" ++ String.intercalate ", " ((s.list l).items.map (s.showInner (.list l))) ++ "]"

/-- The text of a dictionary; keys stand between quotes as they are. -/
def Store.showDict (s : Store) (d : DictRef) : String :=
  "\x7b" ++ String.intercalate ", "
    ((s.dict d).entries.map fun e => "'" ++ e.1 ++ "': " ++ s.showInner (.dict d) e.2) ++ "\x7d"

/-- The text of a value, with strings quoted. -/
def Store.show (s : Store) (v : Value) : String :=
  match v with
  | .list l => s.showList l
  | .dict d => s.showDict d
  | v => s.showInner .null v

/-- The text of a value in a message. -/
def Store.echo (s : Store) (v : Value) : String :=
  match v with
  | .str t => t
  | v => s.show v

/-- The text of a value for inspection. -/
def Store.debug (s : Store) (v : Value) : String :=
  match v with
  | .null => "None"
  | .number n => "Number(" ++ toString n.toInt ++ ")"
  | .float x => "Float(" ++ Decimal.Layout.plain.text x ++ ")"
  | .str t => "Str(" ++ Text.quoted t ++ ")"
  | .list l => "List(" ++ s.showList l ++ ")"
  | .dict d => "Dict(" ++ s.showDict d ++ ")"
  | .func name _ => "Func(" ++ Text.quoted name ++ ")"

/-- The text of a function reference with its bound arguments, for inspection. -/
def Store.debugFunction (s : Store) (name : String) (bound : List Value) : String :=
  "FuncRef \x7b name: " ++ Text.quoted name ++ ", partial: [" ++
    String.intercalate ", " (bound.map s.debug) ++ "] \x7d"

end ScriptBridge.Host
