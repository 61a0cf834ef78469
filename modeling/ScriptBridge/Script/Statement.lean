import ScriptBridge.Error
import ScriptBridge.Foreign.Object

/-!
# Statements

What scripts and their callers do: with objects, with the slots of proxies, with the interpreter,
with conversions, with the session and with the editor. A script names what it works on by terms,
which describe objects and host values and are built anew each time the statement runs.
-/

namespace ScriptBridge.Script

open Host (Lock Scope)
open Foreign (Stream)

/-! ### Terms -/

/-- A description of an object. -/
inductive Term where
  | null
  | bool (b : Bool)
  | int (n : Int)
  | float (x : Float)
  | bytes (b : List UInt8)
  | str (s : String)
  /-- A text in which some places hold half of a character. -/
  | halved (places : List (Option Char))
  | list (items : List Term)
  | tuple (items : List Term)
  | sequence (items : List Term)
  | dict (entries : List (Term × Term))
  | mapping (entries : List (Term × Term))
  | slice (start stop step : Option Int)
  | plain (typeName : String) (text : Option String)
  | set (item : Term)
  /-- The numbers from zero on, short of one. -/
  | counting (n : Int)
  | triples
  | unsized
  /-- A variable of the script. -/
  | var (name : String)
  /-- An attribute of the bridge module. -/
  | member (name : String)
  | module (name : String)
  | stream (s : Stream)
  | attr (object : Term) (name : String)
  | item (object key : Term)
deriving Inhabited

mutual

/-- Whether a term describes the same object each time it is built: an object that cannot change and
that a source text spells out. -/
def Term.isConstant : Term → Bool
  | .null | .bool _ | .int _ | .str _ | .halved _ => true
  | .tuple items => allConstant items
  | _ => false

/-- Whether several terms describe the same objects each time. -/
def allConstant : List Term → Bool
  | [] => true
  | t :: ts => t.isConstant && allConstant ts

end

/-- A description of a host value. -/
inductive HostTerm where
  | null
  | number (n : Int64)
  | float (x : Float)
  | str (s : String)
  | list (items : List HostTerm)
  | dict (entries : List (String × HostTerm))
  | func (name : String) (bound : List HostTerm)
  /-- A host value that was named before. -/
  | var (name : String)
  /-- An empty dictionary with a scope flag. -/
  | scope (s : Scope)
deriving Inhabited

/-! ### Statements -/

/-- An operation of a script on objects. -/
inductive ObjectAction where
  | build (v : Term)
  /-- Forgets a variable. -/
  | drop (name : String)
  | getAttr (o : Term) (name : String)
  | setAttr (o v : Term) (name : String)
  | deleteAttr (o : Term) (name : String)
  | getItem (o k : Term)
  | setItem (o k v : Term)
  | deleteItem (o k : Term)
  | length (o : Term)
  | call (o : Term) (args : List Term) (keywords : List (String × Term))
  | callMethod (o : Term) (args : List Term) (keywords : List (String × Term)) (name : String)
  | iterate (o : Term)
  | contains (o v : Term)
  | repr (o : Term)
  | text (o : Term)
  | typeName (o : Term)
  | debug (o : Term)
  | inspect (o : Term)
  /-- A dictionary with text keys. -/
  | textDict (entries : List (String × Term))
  | identical (a b : Term)
  | validity (o : Term)
  | push (o v : Term)
  | clear (o : Term)
  /-- Prints a text. -/
  | print (text : String)
  /-- Prints the text of an object. -/
  | printObject (o : Term)
  | arguments

/-- A slot of a proxy, called directly. -/
inductive SlotAction where
  | item (o : Term) (i : Int)
  | assignItem (o : Term) (i : Int) (v : Option Term)
  | iterate (o : Term)
  | getAttr (o : Term) (name : String)
  | setAttr (o : Term) (v : Option Term) (name : String)
  | length (o : Term)
  | subscript (o k : Term)
  | call (o : Term) (args : List Term)

/-- A constructor of the interpreter. -/
inductive Constructor where
  | null
  | bool (b : Bool)
  | int (n : Int64)
  | float (x : Float)
  | str (s : String)
  | list (items : List Term)
  | tuple (items : List Term)
  | dict (entries : List (String × Term))

/-- An operation of the interpreter, called directly. -/
inductive RuntimeAction where
  | construct (c : Constructor)
  /-- Whether a weak reference leads back, while the object is held and when it is not. -/
  | weaken (o : Term)
  | isInitialized
  | probe
  | items (o : Term)
  | pairs (o : Term)
  | run (code : String)
  | eval (code : String)
  | name
  | history
  | locks
  /-- Installs an empty module. -/
  | install (name : String)
  /-- Binds a library for the process. -/
  | link (library : String)
  | linked

/-- A conversion. -/
inductive ConversionAction where
  | copy (h : HostTerm)
  | bind (h : HostTerm)
  | strict (o : Term)
  | toHost (o : Term) (skip : Bool)
  | key (o : Term)
  | string (o : Term)
  | lineToForeign (text : String)
  | lineFromForeign (o : Term)
  | linesFromForeign (o : Term)
  | linesToForeign (lines : List String)

/-- An entry point of the session. -/
inductive SessionAction where
  | execute (code : String) (range : Option (Int64 × Int64))
  | evaluate (code : String)
  | command (line : String)
  | source (text : String)
  | runFile (path : String) (range : Option (Int64 × Int64))
  | ensureReady
  | probe
  | lifecycle
  | mode
  | shutdown
  | liveProxies
  | sameEditor

/-- An operation of the host interpreter. -/
inductive ServiceAction where
  | command (line : String)
  | eval (text : String)
  | call (name : String) (args : List HostTerm)
  | resolve (line : String)

/-- An operation on the editor. -/
inductive EditorAction where
  | state
  /-- The destructions since the last time this was asked. -/
  | destroyed
  | addBuffer (name : String) (lines : List String)
  | rename (id : Nat) (name : String)
  | replace (id lo hi : Nat) (lines : List String)
  | insert (id after : Nat) (lines : List String)
  | wipe (id : Nat)
  | split (id : Nat)
  | closeWindow (id : Nat)
  | newTab (id : Nat)
  | closeTab (id : Nat)
  | setCursor (id row col : Nat)
  | setWindow (id : Nat)
  | setTab (id : Nat)
  | setBuffer (id : Nat)
  | numbers (id : Nat)
  | say (text : String)
  | sayError (text : String)
  | messages
  | fresh
  | debug

/-- An operation on host values. -/
inductive ValueAction where
  | debugContents (h : HostTerm)
  | rebuild (h : HostTerm)
  | build (h : HostTerm)
  | readings (h : HostTerm)
  | equal (a b : HostTerm)
  | same (a b : HostTerm)
  | arguments (h : HostTerm) (args : List HostTerm)
  | setLock (h : HostTerm) (lock : Lock)
  | lock (h : HostTerm)
  | length (h : HostTerm)
  | push (h v : HostTerm)
  | getItem (h : HostTerm) (i : Nat)
  | setItem (h : HostTerm) (i : Nat) (v : HostTerm)
  | removeItem (h : HostTerm) (i : Nat)
  | splice (h : HostTerm) (lo hi : Nat) (vs : List HostTerm)
  | extend (h : HostTerm) (vs : List HostTerm)
  | getEntry (h : HostTerm) (key : String)
  | setEntry (h : HostTerm) (key : String) (v : HostTerm)
  | removeEntry (h : HostTerm) (key : String)
  | keys (h : HostTerm)
  /-- Sets a variable of the scope with a letter. -/
  | setVariable (scope : Char) (key : String) (h : HostTerm)
  | scope (scope : Char)

mutual

/-- A statement without its modifiers. -/
inductive Action where
  | object (a : ObjectAction)
  | slot (a : SlotAction)
  | runtime (a : RuntimeAction)
  | conversion (a : ConversionAction)
  | session (a : SessionAction)
  | service (a : ServiceAction)
  | editor (a : EditorAction)
  | value (a : ValueAction)
  /-- Runs statements while the editor is lent out, for writing or for reading. -/
  | lend (exclusive : Bool) (body : List Step)
  /-- Ends the script with a value. -/
  | giveBack (v : Term)
  /-- Ends the script with a failure. -/
  | throw (e : ForeignError)
  /-- Starts the interpreter first if that is possible, and gives it a new source text. -/
  | started (a : Action)
  /-- Writes a script file first. -/
  | saved (path code : String) (a : Action)

/-- A statement: what it does, the name its result is kept under, whether its failure ends the
script, and whether its failure is reported to the user. -/
inductive Step where
  | mk (action : Action) (name : Option String) (raises reported : Bool)

end

instance : Inhabited Step := ⟨.mk (.giveBack .null) none false false⟩

/-- What the interpreter knows under a source text. -/
inductive Content where
  /-- Statements. -/
  | body (steps : List Step)
  /-- An expression. -/
  | value (v : Term)

end ScriptBridge.Script
