import ScriptBridge.Foreign.Definitions

/-!
# Features

What an object has under a name by its class: the first class of the ancestry that defines the name
decides. Properties and fields come in front of the attributes that an object has of its own, all
other features behind them.
-/

namespace ScriptBridge.Foreign

/-- What a class defines under a name. -/
inductive Feature where
  | operation
  | method
  | classMethod
  | function
  | property
  | field
  /-- A function that a script defined as a method. -/
  | scripted
  | null
  | text (s : String)
deriving DecidableEq

/-- Whether a feature comes in front of what an object has of its own. -/
def Feature.isData : Feature → Bool
  | .property | .field => true
  | _ => false

/-- The sort of the descriptor that stands for a feature without an object. -/
def Feature.sort? : Feature → Option DescriptorSort
  | .operation => some .operation
  | .method => some .method
  | .property => some .property
  | .field => some .field
  | _ => none

/-- What a class defines under a name. -/
def Definitions.feature? (d : Definitions) (name : String) : Option Feature :=
  if d.operations.contains name then some .operation
  else if d.methods.contains name then some .method
  else if d.classMethods.contains name then some .classMethod
  else if d.functions.contains name then some .function
  else if d.properties.contains name then some .property
  else if d.fields.contains name then some .field
  else if d.scripted.contains name then some .scripted
  else match name with
    | "__doc__" => some (d.doc.elim .null .text)
    | "__module__" => d.module.map .text
    | "__hash__" => if d.hashable then none else some .null
    | _ => none

/-- What an object of a class has under a name, with the class that defines it. -/
def ObjectClass.feature? (c : ObjectClass) (name : String) : Option (ObjectClass × Feature) :=
  c.ancestry.findSome? fun a => (a.definitions.feature? name).map (a, ·)

/-- The class of classes. -/
def ObjectClass.meta : ObjectClass := .core "type"

/-- The names that the base of all classes defines, in its order. -/
def baseNames : List String :=
  ["__new__", "__repr__", "__hash__", "__str__", "__getattribute__", "__setattr__", "__delattr__",
    "__lt__", "__le__", "__eq__", "__ne__", "__gt__", "__ge__", "__init__", "__reduce_ex__",
    "__reduce__", "__getstate__", "__subclasshook__", "__init_subclass__", "__format__",
    "__sizeof__", "__dir__", "__class__"]

/-- The names that a class of the bridge or of a script defines itself, in order. -/
def ObjectClass.ownNames : ObjectClass → List String
  | .proxy c => c.operations ++ ["__doc__", "__module__"]
  | .error => ["__module__", "__weakref__", "__doc__"]
  | .user name _ =>
    "__module__" :: scriptedMethods name ++ ["__dict__", "__weakref__", "__doc__"]
  | .core name =>
    let d := coreDefinitions name
    d.operations ++ d.methods ++ d.classMethods ++ d.functions ++ d.properties ++ d.fields ++
      (if d.hashable then [] else ["__hash__"]) ++ ["__doc__"]

/-- The names that an object of a class lists. -/
def ObjectClass.listedNames (c : ObjectClass) : List String :=
  c.ownNames ++ baseNames.filter fun name => !c.ownNames.contains name

end ScriptBridge.Foreign
