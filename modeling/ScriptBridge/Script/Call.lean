import ScriptBridge.Script.Operation

/-!
# Calls

Calls of objects by scripts. In a library's interpreter classes can be called, and the operations
and methods that objects have by their class.
-/

namespace ScriptBridge.Script

open Foreign (ObjRef Object ObjectClass)

/-- The name of the class of an object in failures of its methods: that of a class itself. -/
def methodLabel : Object → String
  | .type c => c.name
  | x => x.typeName .library

/-- Calls an object that is no operation of another one; `command` runs a command line. -/
def callPlain (command : String → Act BridgeError Unit) (r : ObjRef) (args : List ObjRef)
    (keywords : Keywords) : Act ForeignError ObjRef := do
  match ← Bridge.object r, ← kind with
  | .proxy cls t, .scripted => Proxy.slot (Proxy.call command cls t args)
  | .proxy cls t, .library =>
    if !cls.isCallable then refuse r "is not callable"
    else if !keywords.isEmpty then
      Proxy.slot (Act.fail (.type "keyword arguments are not supported"))
    else Proxy.slot (Proxy.call command cls t args)
  | .type c, .library => instantiate c args keywords
  | .native owner name, .library => do
    callMethod (methodLabel (← Bridge.object owner)) owner name args keywords
  | _, _ => refuse r "is not callable"

/-- Calls an operation of an object; `command` runs a command line. -/
def callWrapper (command : String → Act BridgeError Unit) (owner : ObjRef) (name : String)
    (args : List ObjRef) (keywords : Keywords) : Act ForeignError ObjRef := do
  match name with
  | "__call__" => callPlain command owner args keywords
  | "__init__" => prepare owner args keywords
  | _ =>
    if !keywords.isEmpty then typeError ("wrapper " ++ name ++ "() takes no keyword arguments")
    callOperation owner name args

/-- Calls an object; `command` runs a command line. An operation of a class takes the object first,
which belongs to the class. -/
def call (command : String → Act BridgeError Unit) (r : ObjRef) (args : List ObjRef)
    (keywords : Keywords) : Act ForeignError ObjRef := do
  match ← Bridge.object r, args with
  | .wrapper owner name, _ => callWrapper command owner name args keywords
  | .descriptor c name .operation, [] =>
    typeError ("descriptor '" ++ name ++ "' of '" ++ c.label ++ "' object needs an argument")
  | .descriptor c name .operation, owner :: args => do
    if ((← Bridge.object owner).class .library).ancestry.contains c then
      callWrapper command owner name args keywords
    else
      typeError ("descriptor '" ++ name ++ "' requires a '" ++ c.label ++
        "' object but received a '" ++ (← Bridge.qualifiedType owner) ++ "'")
  | .descriptor c name .method, [] =>
    typeError ("unbound method " ++ c.name ++ "." ++ name ++ "() needs an argument")
  | .descriptor c name .method, owner :: args => do
    if ((← Bridge.object owner).class .library).ancestry.contains c then
      callMethod c.name owner name args keywords
    else
      typeError ("descriptor '" ++ name ++ "' for '" ++ c.label ++
        "' objects doesn't apply to a '" ++ (← Bridge.qualifiedType owner) ++ "' object")
  | _, _ => callPlain command r args keywords

end ScriptBridge.Script
