import ScriptBridge.Script.Call

/-!
# Building what terms describe

Objects are built from the inside out, in the order in which a term names them. Of the objects used
on the way only the one that is built stays in use.
-/

namespace ScriptBridge.Script

open Foreign (ObjRef Object Slice Stream)
open Host (Value)

/-- The object of a variable. -/
def readVariable (name : String) : Act ForeignError ObjRef := do
  match (← get).interpreter.names.lookup name with
  | some r =>
    Bridge.hold r
    pure r
  | none =>
    Act.fail (.exception (.other "NameError") ("name '" ++ name ++ "' is not defined"))

/-- A module that is installed. -/
def readModule (name : String) : Act ForeignError ObjRef := do
  match (← get).interpreter.modules.lookup name with
  | some r =>
    Bridge.hold r
    pure r
  | none => Act.fail (.exception .attribute ("no module named " ++ name))

/-- The name of an output stream. -/
def streamName : Stream → String
  | .out => "stdout"
  | .err => "stderr"

/-- An output stream that is installed. -/
def readStream (s : Stream) : Act ForeignError ObjRef := do
  let i := (← get).interpreter
  match (match s with | .out => i.stdout | .err => i.stderr) with
  | some r =>
    Bridge.hold r
    pure r
  | none => Act.fail (.exception .attribute ("sys." ++ streamName s ++ " is not set"))

/-- A new slice. The scripted interpreter fills in its bounds at once. -/
def newSlice (start stop step : Option Int) : Act ForeignError ObjRef := do
  match (← get).interpreter.kind with
  | .library => Bridge.alloc (.slice start stop step)
  | .scripted =>
    let s ← Act.ofExcept (Slice.unpack start stop step)
    Bridge.alloc (.slice (some s.start) (some s.stop) (some s.step))

/-- Whether two objects are the same constant. -/
def sameConstant : Object → Object → Bool
  | .null, .null => true
  | .bool x, .bool y => x == y
  | .int m, .int n => m == n
  | .str x, .str y => x == y
  | .halved x, .halved y => x == y
  | .tuple xs, .tuple ys => xs = ys
  | _, _ => false

/-- Whether an object is a text that could be a name. -/
def isWord : Object → Bool
  | .str s => s.toList.all fun c => c.isAlphanum || c = '_'
  | _ => false

/-- Builds a constant. In a library's interpreter equal constants of a source text are one object,
and equal words of all source texts. -/
def buildConstant (x : Object) : Act ForeignError ObjRef := do
  let b ← get
  let i := b.interpreter
  let found := (if isWord x then i.words else i.constants).find? fun r =>
    sameConstant x (b.objects.get r)
  match i.kind, found with
  | .scripted, _ => Bridge.alloc x
  | .library, some r =>
    Bridge.hold r
    pure r
  | .library, none =>
    let r ← Bridge.alloc x
    modify fun b =>
      let i := b.interpreter
      if isWord x then { b with interpreter := { i with words := r :: i.words } }
      else { b with interpreter := { i with constants := r :: i.constants } }
    pure r

mutual

/-- Builds an object. -/
def build : Term → Act ForeignError ObjRef
  | .null => buildConstant .null
  | .bool b => buildConstant (.bool b)
  | .int n => buildConstant (.int n)
  | .float x => Bridge.alloc (.float x)
  | .bytes b => Bridge.alloc (.bytes b)
  | .str s => buildConstant (.str s)
  | .halved places => buildConstant (.halved places)
  | .list items => kept do Bridge.alloc (.list (← buildAll items))
  | .tuple items => kept do
    let x := Object.tuple (← buildAll items)
    if allConstant items then buildConstant x else Bridge.alloc x
  | .sequence items => kept do Bridge.alloc (.sequence (← buildAll items))
  | .dict entries => kept do newDict (← buildPairs entries)
  | .mapping entries => kept do Bridge.alloc (.mapping (← buildPairs entries))
  | .slice start stop step => newSlice start stop step
  | .plain typeName text => do
    let number := (← get).objects.cells.size
    Bridge.alloc (.plain typeName text number)
  | .set item => kept do
    let r ← build item
    demandHashable r
    Bridge.alloc (.set [r])
  | .counting n => Bridge.alloc (.counting ⟨0, n, 1⟩)
  | .triples => kept do
    let items ← Bridge.allocAll [.int 1, .int 2, .int 3]
    Bridge.alloc (.triples items)
  | .unsized => Bridge.alloc .unsized
  | .var name => readVariable name
  | .member name => kept do getAttr (← readModule "vim") name
  | .module name => readModule name
  | .stream s => readStream s
  | .attr o name => kept do getAttr (← build o) name
  | .item o k => kept do
    let r ← build o
    let key ← build k
    getItem r key
where
  /-- Only the result stays in use. -/
  kept (a : Act ForeignError ObjRef) : Act ForeignError ObjRef := Bridge.confine (fun r => [r]) a

/-- Builds objects one after another. -/
def buildAll : List Term → Act ForeignError (List ObjRef)
  | [] => pure []
  | t :: ts => do
    let r ← build t
    let rs ← buildAll ts
    pure (r :: rs)

/-- Builds pairs of objects one after another. -/
def buildPairs : List (Term × Term) → Act ForeignError (List (ObjRef × ObjRef))
  | [] => pure []
  | (k, v) :: rest => do
    let k ← build k
    let v ← build v
    let es ← buildPairs rest
    pure ((k, v) :: es)

end

/-- Builds an object if a term is given. -/
def buildOption : Option Term → Act ForeignError (Option ObjRef)
  | none => pure none
  | some t => some <$> build t

/-- Builds objects with names. -/
def buildNamed (entries : List (String × Term)) : Act ForeignError (List (String × ObjRef)) :=
  entries.mapM fun e => do return (e.1, ← build e.2)

mutual

/-- Builds a host value. A name that is not given stands for no value. -/
def buildHost {ε : Type} : HostTerm → Act ε Value
  | .null => pure .null
  | .number n => pure (.number n)
  | .float x => pure (.float x)
  | .str s => pure (.str s)
  | .list items => do return .list (← Bridge.newList (← buildHostAll items))
  | .dict entries => do
    return .dict (← Bridge.newDict (Host.Entries.ofList (← buildHostEntries entries)))
  | .func name bound => do return .func name (← buildHostAll bound)
  | .var name => do return (((← get).hostNames.lookup name).getD .null)
  | .scope s => do return .dict (← Bridge.newDict [] s)

/-- Builds host values one after another. -/
def buildHostAll {ε : Type} : List HostTerm → Act ε (List Value)
  | [] => pure []
  | t :: ts => do
    let v ← buildHost t
    let vs ← buildHostAll ts
    pure (v :: vs)

/-- Builds the entries of a dictionary one after another. -/
def buildHostEntries {ε : Type} : List (String × HostTerm) → Act ε (List (String × Value))
  | [] => pure []
  | (k, t) :: rest => do
    let v ← buildHost t
    let es ← buildHostEntries rest
    pure ((k, v) :: es)

end

end ScriptBridge.Script
