import ScriptBridge.Error
import ScriptBridge.Foreign.Reference
import ScriptBridge.Foreign.Slice
import ScriptBridge.Host.Value

/-!
# Objects of the interpreter

Objects are cells that are named by references. A proxy object stands for something of the editor,
which its target names.
-/

namespace ScriptBridge.Foreign

open Host (Value ListRef DictRef Entity)

/-- The classes of proxies. -/
inductive ProxyClass where
  | buffer
  | range
  | window
  | tabPage
  | bufferMap
  | windowList
  | tabList
  | current
  | dictionary
  | list
  | function
  | builtin
  | output
  | method
deriving DecidableEq

namespace ProxyClass

/-- All classes. -/
def all : List ProxyClass :=
  [buffer, range, window, tabPage, bufferMap, windowList, tabList, current, dictionary, list,
    function, builtin, output, method]

/-- The name of a class in its module. -/
def shortName : ProxyClass → String
  | buffer => "buffer"
  | range => "range"
  | window => "window"
  | tabPage => "tabpage"
  | bufferMap => "bufferlist"
  | windowList => "windowlist"
  | tabList => "tabpagelist"
  | current => "currentdata"
  | dictionary => "dictionary"
  | list => "list"
  | function => "function"
  | builtin => "builtin"
  | output => "message"
  | method => "method"

/-- The name of a class with its module. -/
def typeName (c : ProxyClass) : String := "vim." ++ c.shortName

/-- The position of a class among all classes. -/
def index (c : ProxyClass) : Nat := all.idxOf c

/-- Whether positions can be looked up. -/
def isSequence : ProxyClass → Bool
  | buffer | range | list | windowList | tabList => true
  | _ => false

/-- Whether keys can be looked up. -/
def isMapping : ProxyClass → Bool
  | bufferMap | dictionary => true
  | _ => false

/-- Whether the class can be called. -/
def isCallable : ProxyClass → Bool
  | function | builtin | method => true
  | _ => false

/-- Whether the class iterates by itself and not by position. -/
def isIterable (c : ProxyClass) : Bool := c.isMapping

/-- What a class stands for, in the wording for something destroyed. -/
def entityKind : ProxyClass → EntityKind
  | window => .window
  | tabPage => .tabPage
  | _ => .buffer

/-- The methods of a class. -/
def methods : ProxyClass → List String
  | buffer => ["append", "range"]
  | range => ["append"]
  | dictionary => ["keys", "values", "items", "has_key", "get", "update"]
  | list => ["extend"]
  | output => ["write", "writelines", "flush"]
  | _ => []

/-- The attributes that a class lists. -/
def members : ProxyClass → List String
  | buffer => ["name", "number", "vars", "valid"]
  | range => ["start", "end"]
  | window => ["buffer", "cursor", "height", "width", "vars", "number", "tabpage", "valid"]
  | tabPage => ["windows", "window", "number", "vars", "valid"]
  | current => ["buffer", "window", "tabpage", "line", "range"]
  | dictionary => ["locked", "scope"]
  | list => ["locked"]
  | function => ["name"]
  | output => ["softspace", "encoding", "errors", "closed"]
  | _ => []

end ProxyClass

/-- The functions of the module. -/
inductive Builtin where
  | command
  | eval
  | bindEval
deriving DecidableEq

/-- The name of a function of the module. -/
def Builtin.name : Builtin → String
  | .command => "command"
  | .eval => "eval"
  | .bindEval => "bindeval"

/-- The output streams. -/
inductive Stream where
  | out
  | err
deriving DecidableEq

/-- What a proxy stands for. -/
inductive Target where
  | buffer (id : Nat)
  | window (id : Nat)
  | tabPage (id : Nat)
  /-- Lines of a buffer, counted from one, the last one included. -/
  | range (buffer : Nat) (start : Int64) (last : EndRef)
  | buffers
  /-- The windows of a tab page, or of the current one. -/
  | windows (tab : Option Nat)
  | tabPages
  | current
  | dict (d : DictRef)
  | list (l : ListRef)
  | function (name : String) (bound : List Value)
  | builtin (b : Builtin)
  | output (s : Stream)
  | method (receiver : Target) (cls : ProxyClass) (name : String)
  /-- What the proxy stood for has been destroyed. -/
  | invalid
deriving Inhabited

/-- The target of a proxy for an editor entity. -/
def Target.ofEntity : Entity → Target
  | .buffer id => .buffer id
  | .window id => .window id
  | .tabPage id => .tabPage id

/-- The class of a proxy for an editor entity. -/
def ProxyClass.ofEntity : Entity → ProxyClass
  | .buffer _ => .buffer
  | .window _ => .window
  | .tabPage _ => .tabPage

/-- The editor entity that a target names. -/
def Target.entity? : Target → Option Entity
  | .buffer id => some (.buffer id)
  | .window id => some (.window id)
  | .tabPage id => some (.tabPage id)
  | _ => none

/-- Whether a target still names something. -/
def Target.isValid : Target → Bool
  | .invalid => false
  | _ => true

/-- The classes that are objects themselves. -/
inductive ObjectClass where
  | proxy (cls : ProxyClass)
  /-- The exception class of the module. -/
  | error
  /-- A class of the interpreter. -/
  | core (name : String)
  /-- A class that a script defines. A number tells classes of one name apart. -/
  | user (name : String) (number : Nat)
deriving DecidableEq

namespace ObjectClass

/-- The name of a class. -/
def name : ObjectClass → String
  | proxy cls => cls.shortName
  | error => "error"
  | core name | user name _ => name

/-- The name of the module that a class is in. -/
def module : ObjectClass → String
  | proxy _ | error => "vim"
  | core _ => "builtins"
  | user .. => "__main__"

/-- The name of a class with its module. -/
def path (c : ObjectClass) : String := c.module ++ "." ++ c.name

/-- A class of the interpreter is named without its module where objects are shown. -/
def shownPath : ObjectClass → String
  | core name => name
  | c => c.path

/-- The name of a class in error texts: that of a proxy has the module. -/
def label : ObjectClass → String
  | proxy cls => cls.typeName
  | c => c.name

end ObjectClass

/-- What sort of thing a class defines, as it is without an object. -/
inductive DescriptorSort where
  | operation
  | method
  | property
  | field
deriving DecidableEq

/-- What a view of a dictionary shows. -/
inductive DictView where
  | keys
  | values
  | items
deriving DecidableEq

/-- The name of the class of a view. -/
def DictView.className : DictView → String
  | .keys => "dict_keys"
  | .values => "dict_values"
  | .items => "dict_items"

/-- An object. -/
inductive Object where
  | null
  | bool (b : Bool)
  | int (n : Int)
  | float (x : Float)
  | bytes (b : List UInt8)
  | str (s : String)
  /-- A text in which some places hold half of a character. -/
  | halved (places : List (Option Char))
  | list (items : List ObjRef)
  | tuple (items : List ObjRef)
  | dict (entries : List (ObjRef × ObjRef))
  | slice (start stop step : Option Int)
  | proxy (cls : ProxyClass) (target : Target)
  /-- An object of a user class that has keys and items. -/
  | mapping (entries : List (ObjRef × ObjRef))
  /-- An object of a user class that has a length and positions. -/
  | sequence (items : List ObjRef)
  /-- An object of a user class that has nothing but a text, or not even that. -/
  | plain (typeName : String) (text : Option String) (classNumber : Nat)
  | module (name : String) (members : List (String × ObjRef))
  | type (c : ObjectClass)
  /-- An exception of the module's class. -/
  | raised (args : List ObjRef)
  /-- An operation of an object that is built into its class. -/
  | wrapper (owner : ObjRef) (name : String)
  /-- What a class defines, without an object. -/
  | descriptor (definer : ObjectClass) (name : String) (sort : DescriptorSort)
  /-- A method of an object that is built into the interpreter. -/
  | native (owner : ObjRef) (name : String)
  /-- What is left of an iteration. Each type of container has its own type of iterations. -/
  | iterator (typeName : String) (rest : List ObjRef)
  /-- The keys, values or pairs of a dictionary, which follow its changes. -/
  | view (sort : DictView) (dict : ObjRef)
  /-- A function that a script defined in a class. -/
  | function (definer : ObjectClass) (name : String)
  /-- A method of an object that a script defined in the class of the object. -/
  | bound (owner : ObjRef) (name : String)
  /-- The dictionary of what a class defines, which cannot be changed. -/
  | mirror (c : ObjectClass)
  /-- An object of the interpreter of which nothing but its type and its text is known. -/
  | known (typeName text : String)
  | set (items : List ObjRef)
  | counting (c : Counting)
  /-- An object of a user class that has keys, but whose items are no pairs. -/
  | triples (items : List ObjRef)
  /-- An object of a user class that has positions, but no length. -/
  | unsized
deriving Inhabited

/-- The text whose places hold these characters; where there is none, half of one. -/
def Object.ofPlaces (places : List (Option Char)) : Object :=
  if places.all Option.isSome then .str (String.ofList (places.filterMap id)) else .halved places

/-- The places of a text. -/
def Object.places? : Object → Option (List (Option Char))
  | .str s => some (s.toList.map some)
  | .halved places => some places
  | _ => none

/-- A text as the editor sees it: half of a character is a question mark. -/
def mended (places : List (Option Char)) : String := String.ofList (places.map (·.getD '?'))

/-- The objects that an object refers to. -/
def Object.references : Object → List ObjRef
  | .list items | .tuple items | .sequence items | .set items | .triples items | .raised items
  | .iterator _ items => items
  | .wrapper owner _ | .native owner _ | .bound owner _ | .view _ owner => [owner]
  | .dict entries | .mapping entries => entries.flatMap fun e => [e.1, e.2]
  | .module _ members => members.map (·.2)
  | _ => []

/-- What has attributes of its own: an object or a class. -/
inductive Holder where
  | object (r : ObjRef)
  /-- An object; these attributes are fields that its class defines. -/
  | fields (r : ObjRef)
  | class (c : ObjectClass)
deriving DecidableEq

/-- All objects, the ends of all ranges, and the dictionaries that hold the attributes of objects and
classes. -/
structure Objects where
  cells : Array Object := #[]
  ends : Array Int64 := #[]
  dictionaries : List (Holder × ObjRef) := []
deriving Inhabited

namespace Objects

/-- The object that a reference names. -/
def get (o : Objects) (r : ObjRef) : Object := o.cells.getD r.id .null

/-- The objects with another one under a reference. -/
def set (o : Objects) (r : ObjRef) (x : Object) : Objects :=
  { o with cells := o.cells.setIfInBounds r.id x }

/-- A new object. -/
def alloc (o : Objects) (x : Object) : ObjRef × Objects :=
  (⟨o.cells.size⟩, { o with cells := o.cells.push x })

/-- The end of a range. -/
def endOf (o : Objects) (e : EndRef) : Int64 := o.ends.getD e.id 0

/-- A new end of a range. -/
def newEnd (o : Objects) (n : Int64) : EndRef × Objects :=
  (⟨o.ends.size⟩, { o with ends := o.ends.push n })

/-- Moves the end of a range. An end that leaves the 64-bit numbers comes in again from the other
side. -/
def moveEnd (o : Objects) (e : EndRef) (by_ : Int64) : Objects :=
  { o with ends := o.ends.setIfInBounds e.id (o.endOf e + by_) }

/-- The objects with a dictionary that holds the attributes of an object or a class. -/
def withDictionary (o : Objects) (h : Holder) (d : ObjRef) : Objects :=
  { o with dictionaries := (h, d) :: o.dictionaries.filter (·.1 ≠ h) }

/-- The entries of a dictionary. -/
def entries (o : Objects) (d : ObjRef) : List (ObjRef × ObjRef) :=
  match o.get d with
  | .dict entries => entries
  | _ => []

/-- The entries of the dictionary that holds the attributes of an object or a class. -/
def attributes (o : Objects) (h : Holder) : List (ObjRef × ObjRef) :=
  ((o.dictionaries.lookup h).map o.entries).getD []

/-- Whether an object is a text. -/
def isText (o : Objects) (s : String) (r : ObjRef) : Bool :=
  match o.get r with
  | .str t => s == t
  | _ => false

/-- An attribute of an object or a class. -/
def attribute? (o : Objects) (h : Holder) (name : String) : Option ObjRef :=
  ((o.attributes h).find? fun e => o.isText name e.1).map (·.2)

/-- What an object refers to: what it consists of, and the dictionaries of its attributes. -/
def references (o : Objects) (r : ObjRef) : List ObjRef :=
  (o.get r).references ++ (o.dictionaries.lookup (.object r)).toList ++
    (o.dictionaries.lookup (.fields r)).toList

/-- The dictionaries of the attributes of classes. -/
def classDictionaries (o : Objects) : List ObjRef :=
  o.dictionaries.filterMap fun
    | (.class _, d) => some d
    | (.object _, _) | (.fields _, _) => none

/-- The target of a proxy object. -/
def target? (o : Objects) (r : ObjRef) : Option Target :=
  match o.get r with
  | .proxy _ t => some t
  | _ => none

end Objects

end ScriptBridge.Foreign

/-!
### Liveness

An object is alive as long as something refers to it: a root or an object that is alive. Objects
that refer to each other in a circle keep each other alive.
-/

namespace ScriptBridge.Foreign.Objects

/-- Marks references. -/
def mark (marks : Array Bool) (refs : List ObjRef) : Array Bool :=
  refs.foldl (fun m r => m.setIfInBounds r.id true) marks

/-- The objects that roots or marked objects refer to. -/
def referred (o : Objects) (roots : List ObjRef) (marks : Array Bool) : Array Bool :=
  (List.range o.cells.size).foldl
    (fun m i => if marks.getD i false then mark m (o.references ⟨i⟩) else m)
    (mark (Array.replicate o.cells.size false) roots)

/-- Drops objects that nothing marked refers to, until there is none, or at most `n` times. -/
def keepReferred (o : Objects) (roots : List ObjRef) : Nat → Array Bool → Array Bool
  | 0, marks => marks
  | n + 1, marks =>
    let next := (o.referred roots marks).zipWith (· && ·) marks
    if next = marks then marks else o.keepReferred roots n next

/-- The objects that are alive. Each round but the last drops an object, so there are no more
rounds than objects. -/
def alive (o : Objects) (roots : List ObjRef) : Array Bool :=
  o.keepReferred roots (o.cells.size + 1) (Array.replicate o.cells.size true)

/-- Whether an object is alive. -/
def isAlive (o : Objects) (roots : List ObjRef) (r : ObjRef) : Bool :=
  (o.alive roots).getD r.id false

end ScriptBridge.Foreign.Objects
