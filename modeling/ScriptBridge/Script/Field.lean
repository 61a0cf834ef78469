import ScriptBridge.Foreign.Feature
import ScriptBridge.Proxy.Call

/-!
# Fields

The values that an object has by the properties and fields of its class, and the dictionaries that
hold the attributes that objects and classes are given.
-/

namespace ScriptBridge.Script

open Foreign (ObjRef Object ObjectClass Holder)

variable {ε : Type}

/-! ### Attributes that are given -/

/-- Puts the attributes of an object or a class into a dictionary. -/
def setDictionary (h : Holder) (d : ObjRef) : Act ε Unit :=
  modify fun b => { b with objects := b.objects.withDictionary h d }

/-- The dictionary that holds the attributes of an object or a class. -/
def dictionaryOf (h : Holder) : Act ε ObjRef := do
  match (← get).objects.dictionaries.lookup h with
  | some d =>
    Bridge.hold d
    pure d
  | none =>
    let d ← Bridge.alloc (.dict [])
    setDictionary h d
    pure d

/-- Gives an attribute to an object or a class. -/
def giveAttribute (h : Holder) (name : String) (v : ObjRef) : Act ε Unit := do
  let d ← dictionaryOf h
  let o := (← get).objects
  let entries := o.attributes h
  if entries.any fun e => o.isText name e.1 then
    Bridge.setObject d (.dict (entries.map fun e => if o.isText name e.1 then (e.1, v) else e))
  else
    let key ← Bridge.alloc (.str name)
    Bridge.setObject d (.dict (entries ++ [(key, v)]))

/-- Takes an attribute from an object or a class; whether there was one. -/
def takeAttribute (h : Holder) (name : String) : Act ε Bool := do
  let d ← dictionaryOf h
  let o := (← get).objects
  let entries := o.attributes h
  let others := entries.filter fun e => !o.isText name e.1
  Bridge.setObject d (.dict others)
  return others.length < entries.length

/-- An attribute that an object or a class was given. -/
def givenAttribute? (h : Holder) (name : String) : Act ε (Option ObjRef) := do
  match (← get).objects.attribute? h name with
  | some v =>
    Bridge.hold v
    pure (some v)
  | none => pure none

/-- Whether the objects of a class have a dictionary of attributes. -/
def hasDictionary (c : ObjectClass) : Bool :=
  match c with
  | .error | .user .. | .core "module" => true
  | _ => false

/-! ### Values of fields -/

/-- A bound of a slice. -/
def newBound (n : Option Int) : Act ε ObjRef :=
  Bridge.alloc (match n with | some n => .int n | none => .null)

/-- The name of what a class defines, with the class. -/
def memberPath (c : ObjectClass) (name : String) : Object := .str (c.name ++ "." ++ name)

/-- The class that defines what objects of a class have under a name. -/
def definerOf (c : ObjectClass) (name : String) : ObjectClass :=
  ((c.feature? name).map (·.1)).getD c

/-- A field of a method or of an operation. -/
def memberField? (x : Object) (name : String) : Act ε (Option ObjRef) := do
  let new (y : Object) : Act ε (Option ObjRef) := some <$> Bridge.alloc y
  let o := (← get).objects
  let classOf (r : ObjRef) : ObjectClass := (o.get r).class .library
  match x, name with
  | .native owner _, "__self__" | .wrapper owner _, "__self__" | .bound owner _, "__self__" =>
    Bridge.hold owner
    pure (some owner)
  | .native _ n, "__name__" | .wrapper _ n, "__name__" | .descriptor _ n _, "__name__" =>
    new (.str n)
  | .native owner n, "__qualname__" =>
    match o.get owner with
    | .type c => new (memberPath c n)
    | _ => new (memberPath (classOf owner) n)
  | .wrapper owner n, "__qualname__" => new (memberPath (definerOf (classOf owner) n) n)
  | .wrapper owner n, "__objclass__" => new (.type (definerOf (classOf owner) n))
  | .descriptor c n _, "__qualname__" => new (memberPath c n)
  | .descriptor c _ _, "__objclass__" => new (.type c)
  | .bound owner n, "__func__" => new (.function (classOf owner) n)
  | _, _ => new .null

/-- A field of an exception. -/
def exceptionField? (r : ObjRef) (args : List ObjRef) (name : String) :
    Act ε (Option ObjRef) := do
  match name, ← givenAttribute? (.fields r) name with
  | "args", _ => some <$> Bridge.alloc (.tuple args)
  | _, some v => pure (some v)
  | "__suppress_context__", none => some <$> Bridge.alloc (.bool false)
  | _, none => some <$> Bridge.alloc .null

/-- The value of a property or field that the class of an object defines. -/
def objectField? (r : ObjRef) (name : String) : Act ε (Option ObjRef) := do
  let x ← Bridge.object r
  let new (y : Object) : Act ε (Option ObjRef) := some <$> Bridge.alloc y
  match x, name with
  | _, "__class__" => new (.type (x.class .library))
  | _, "__dict__" => some <$> dictionaryOf (.object r)
  | _, "__weakref__" => new .null
  | .raised args, _ => exceptionField? r args name
  | .int n, "real" | .int n, "numerator" => new (.int n)
  | .bool b, "real" | .bool b, "numerator" => new (.int (if b then 1 else 0))
  | .int _, "imag" | .bool _, "imag" => new (.int 0)
  | .int _, "denominator" | .bool _, "denominator" => new (.int 1)
  | .float y, "real" => new (.float y)
  | .float _, "imag" => new (.float 0)
  | .slice n _ _, "start" | .slice _ n _, "stop" | .slice _ _ n, "step" => some <$> newBound n
  | .counting c, "start" => new (.int c.start)
  | .counting c, "stop" => new (.int c.stop)
  | .counting c, "step" => new (.int c.step)
  | .module .., "__annotations__" => new (.dict [])
  | x, _ => memberField? x name

/-- A new list or tuple of classes. -/
def newClasses (make : List ObjRef → Object) (cs : List ObjectClass) : Act ε ObjRef := do
  Bridge.alloc (make (← Bridge.allocAll (cs.map .type)))

/-- The value of a property or field that a class has itself. -/
def classField? (c : ObjectClass) (name : String) : Act ε (Option ObjRef) := do
  let new (y : Object) : Act ε (Option ObjRef) := some <$> Bridge.alloc y
  match ← givenAttribute? (.class c) name, name with
  | _, "__class__" => new (.type .meta)
  | _, "__dict__" => new (.mirror c)
  | _, "__mro__" => some <$> newClasses .tuple c.ancestry
  | _, "__bases__" => some <$> newClasses .tuple (c.ancestry.drop 1 |>.take 1)
  | _, "__base__" => new ((c.ancestry[1]?).elim .null .type)
  | _, "__itemsize__" => new (.int 0)
  | _, "__basicsize__" => new (.int (if c = .error then 80 else 24))
  | _, "__dictoffset__" => new (.int (if c = .error then 16 else 0))
  | _, "__weakrefoffset__" => new (.int (if c = .error then 72 else 0))
  | some v, _ => pure (some v)
  | none, "__name__" | none, "__qualname__" => new (.str c.name)
  | none, "__module__" => new (.str c.module)
  | none, "__doc__" => new ((c.definitions.doc).elim .null .str)
  | none, "__annotations__" =>
    if let .core _ := c then return none
    let d ← Bridge.alloc (.dict [])
    giveAttribute (.class c) name d
    pure (some d)
  | none, "__abstractmethods__" => pure none
  | none, _ => new .null

end ScriptBridge.Script
