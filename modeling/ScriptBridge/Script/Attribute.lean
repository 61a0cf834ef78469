import ScriptBridge.Script.Field

/-!
# Attributes

What a script reads from an object by a name. Proxies are asked first. Then the properties and fields
of the class count, then what the object was given, then what else its class has.
-/

namespace ScriptBridge.Script

open Foreign (ObjRef Object ObjectClass Feature Holder InterpreterKind)

variable {α : Type}

/-- A type error. -/
def typeError (text : String) : Act ForeignError α := Act.fail (.exception .type text)

/-- An attribute error. -/
def attributeError (text : String) : Act ForeignError α := Act.fail (.exception .attribute text)

/-- The failure of an object that misses an ability of its type. -/
def refuse (r : ObjRef) (what : String) : Act ForeignError α := do
  typeError ("'" ++ (← Bridge.qualifiedType r) ++ "' object " ++ what)

/-- The kind of the interpreter. -/
def kind {ε : Type} : Act ε InterpreterKind := do return (← get).interpreter.kind

/-- The failure of an attribute that an object does not have. -/
def missingAttribute (r : ObjRef) (name : String) : Act ForeignError α := do
  let missing (what : String) : String := what ++ "' has no attribute '" ++ name ++ "'"
  let text ← match ← Bridge.object r, ← kind with
    | .module m _, .library => pure (missing ("module '" ++ m))
    | .type c, .library => pure (missing ("type object '" ++ c.label))
    | _, _ => do pure (Proxy.noAttribute (← Bridge.qualifiedType r) name)
  Act.fail (.exception .attribute text)

/-! ### What a class has -/

/-- A function of a class, or a method of the class itself. -/
def newFunction (c : ObjectClass) (name : String) : Act ForeignError ObjRef := do
  Bridge.alloc (.native (← Bridge.alloc (.type c)) name)

/-- What an object has under a name by a feature of its class. -/
def objectFeature (r : ObjRef) (name : String) (definer : ObjectClass) :
    Feature → Act ForeignError ObjRef
  | .operation => Bridge.alloc (.wrapper r name)
  | .method => Bridge.alloc (.native r name)
  | .classMethod => do newFunction ((← Bridge.object r).class .library) name
  | .function => newFunction definer name
  | .scripted => Bridge.alloc (.bound r name)
  | .null => Bridge.alloc .null
  | .text s => Bridge.alloc (.str s)
  | .property | .field => do
    match ← objectField? r name with
    | some v => pure v
    | none => missingAttribute r name

/-- What a class has under a name by a feature of a class that it builds on. -/
def classFeature (c : ObjectClass) (name : String) (definer : ObjectClass) (f : Feature) :
    Act ForeignError ObjRef :=
  match f, f.sort? with
  | _, some sort => Bridge.alloc (.descriptor definer name sort)
  | .classMethod, none => newFunction c name
  | .function, none => newFunction definer name
  | .scripted, none => Bridge.alloc (.function definer name)
  | .text s, none => Bridge.alloc (.str s)
  | _, none => Bridge.alloc .null

/-- What the classes that a class builds on were given. -/
def givenByClass? (c : ObjectClass) (name : String) : Act ForeignError (Option ObjRef) := do
  let o := (← get).objects
  match c.ancestry.findSome? fun a => o.attribute? (.class a) name with
  | some v =>
    Bridge.hold v
    pure (some v)
  | none => pure none

/-- The entries of the dictionary of what a class defines and was given. -/
def classEntries (c : ObjectClass) : Act ForeignError (List (ObjRef × ObjRef)) := do
  let o := (← get).objects
  let own ← c.ownNames.mapM fun name => do
    let key ← Bridge.alloc (.str name)
    match o.attribute? (.class c) name, c.definitions.feature? name with
    | some v, _ => pure (key, v)
    | none, some f => do pure (key, ← classFeature c name c f)
    | none, none => do pure (key, ← Bridge.alloc .null)
  let given := (o.attributes (.class c)).filter fun e => !c.ownNames.any fun n => o.isText n e.1
  return own ++ given

/-! ### Reading -/

/-- Reads an attribute of an object of a library that is no class. -/
def instanceAttr (r : ObjRef) (name : String) : Act ForeignError ObjRef := do
  let c := (← Bridge.object r).class .library
  let feature := c.feature? name
  match ← givenByClass? c name, feature with
  | none, some (definer, .property) => objectFeature r name definer .property
  | none, some (definer, .field) => objectFeature r name definer .field
  | given, _ =>
    match ← givenAttribute? (.object r) name, given, feature with
    | some v, _, _ | none, some v, _ => pure v
    | none, none, some (definer, f) => objectFeature r name definer f
    | none, none, none => missingAttribute r name

/-- Reads an attribute of a class. -/
def classAttr (r : ObjRef) (c : ObjectClass) (name : String) : Act ForeignError ObjRef := do
  let onMeta := ObjectClass.meta.feature? name
  if (onMeta.map (·.2.isData)).getD false then
    match ← classField? c name with
    | some v => pure v
    | none => if name = "__annotations__" then missingAttribute r name else attributeError name
  else
    match ← givenByClass? c name, c.feature? name, onMeta with
    | some v, _, _ => pure v
    | none, some (definer, f), _ => classFeature c name definer f
    | none, none, some (definer, f) => objectFeature r name definer f
    | none, none, none => missingAttribute r name

/-- Reads an attribute. -/
def getAttr (r : ObjRef) (name : String) : Act ForeignError ObjRef := do
  match ← Bridge.object r, ← kind with
  | .proxy cls t, interpreter =>
    match ← Proxy.slot (Proxy.getAttr? cls t name), interpreter with
    | some v, _ => pure v
    | none, .library => instanceAttr r name
    | none, .scripted => missingAttribute r name
  | .type c, .library => classAttr r c name
  | .module _ members, .scripted =>
    match members.lookup name with
    | some v =>
      Bridge.hold v
      pure v
    | none => missingAttribute r name
  | _, .library => instanceAttr r name
  | _, .scripted => missingAttribute r name

end ScriptBridge.Script
