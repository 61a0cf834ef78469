import ScriptBridge.Script.Iteration

/-!
# Assignment

What a script gives an object or a class under a name, or takes away. Proxies decide for themselves.
Properties and fields of the class come first; everything else needs a dictionary of attributes,
which only exceptions, modules, the objects of user classes, and classes that can change have.
-/

namespace ScriptBridge.Script

open Foreign (ObjRef Object ObjectClass Feature Holder)

variable {α : Type}

/-- The failure of a property that cannot be given a value. -/
def notWritable (definer : ObjectClass) (name : String) : Act ForeignError α :=
  attributeError ("attribute '" ++ name ++ "' of '" ++ definer.label ++ "' objects is not writable")

/-- The failure of a field that cannot be given a value. -/
def readOnlyField : Act ForeignError α := attributeError "readonly attribute"

/-! ### Properties and fields -/

/-- Changes the class of an object, which no class here allows. -/
def setClass (c : ObjectClass) : Option ObjRef → Act ForeignError Unit
  | none => typeError "can't delete __class__ attribute"
  | some v => do
    match ← Bridge.object v with
    | .type d =>
      if d ≠ c then
        typeError ("__class__ assignment only supported for mutable types or ModuleType " ++
          "subclasses")
    | _ =>
      typeError ("__class__ must be set to a class, not '" ++ (← Bridge.qualifiedType v) ++
        "' object")

/-- Replaces the dictionary of the attributes of an object. -/
def replaceDictionary (r : ObjRef) : Option ObjRef → Act ForeignError Unit
  | none => typeError "cannot delete __dict__"
  | some v => do
    match ← Bridge.object v with
    | .dict _ => setDictionary (.object r) v
    | _ =>
      typeError ("__dict__ must be set to a dictionary, not a '" ++ (← Bridge.qualifiedType v) ++
        "'")

/-- Sets a field of an exception that holds another exception or nothing. -/
def setLinked (r : ObjRef) (name what : String) (v : ObjRef) : Act ForeignError Unit := do
  match ← Bridge.object v with
  | .null | .raised _ => giveAttribute (.fields r) name v
  | _ => typeError ("exception " ++ what ++ " must be None or derive from BaseException")

/-- Sets a property of an exception. A cause that is set hides the context. -/
def setExceptionProperty (r : ObjRef) (name : String) : Option ObjRef → Act ForeignError Unit
  | none => typeError (name ++ " may not be deleted")
  | some v => do
    match name with
    | "args" => Bridge.setObject r (.raised (← iterate v))
    | "__cause__" =>
      setLinked r name "cause" v
      giveAttribute (.fields r) "__suppress_context__" (← Bridge.alloc (.bool true))
    | "__context__" => setLinked r name "context" v
    | _ =>
      match ← Bridge.object v with
      | .null => pure ()
      | _ => typeError (name ++ " must be a traceback or None")

/-- Sets a property of an object, or deletes it. -/
def setProperty (r : ObjRef) (definer : ObjectClass) (name : String) (value : Option ObjRef) :
    Act ForeignError Unit := do
  match name, definer with
  | "__class__", _ => setClass ((← Bridge.object r).class .library) value
  | "__dict__", _ => replaceDictionary r value
  | _, .core "BaseException" => setExceptionProperty r name value
  | _, _ => notWritable definer name

/-- Sets a field of an object, or deletes it. -/
def setField (r : ObjRef) (name : String) (value : Option ObjRef) : Act ForeignError Unit := do
  match name, value with
  | "__suppress_context__", none => typeError "can't delete numeric/char attribute"
  | "__suppress_context__", some v =>
    match ← Bridge.object v with
    | .bool _ => giveAttribute (.fields r) name v
    | _ => typeError "attribute value type must be bool"
  | _, _ => readOnlyField

/-! ### Objects -/

/-- Gives an attribute to an object that has a dictionary of attributes, or takes it away. -/
def setOwn (r : ObjRef) (name : String) : Option ObjRef → Act ForeignError Unit
  | some v => giveAttribute (.object r) name v
  | none => do
    if !(← takeAttribute (.object r) name) then
      attributeError (Proxy.noAttribute (← Bridge.qualifiedType r) name)

/-- Writes an attribute of an object of a library that is no class, or deletes it. -/
def setInstanceAttr (r : ObjRef) (name : String) (value : Option ObjRef) :
    Act ForeignError Unit := do
  let c := (← Bridge.object r).class .library
  let label ← Bridge.qualifiedType r
  match ← givenByClass? c name, c.feature? name with
  | none, some (definer, .property) => setProperty r definer name value
  | none, some (_, .field) => setField r name value
  | given, feature =>
    if hasDictionary c then setOwn r name value
    else if given.isSome || feature.isSome then
      attributeError ("'" ++ label ++ "' object attribute '" ++ name ++ "' is read-only")
    else attributeError (Proxy.noAttribute label name)

/-! ### Classes -/

/-- Sets a property that a class has itself, or deletes it. -/
def setClassProperty (c : ObjectClass) (name : String) (value : Option ObjRef) :
    Act ForeignError Unit := do
  match name, value with
  | "__class__", _ => setClass .meta value
  | "__dict__", _ | "__text_signature__", _ => notWritable .meta name
  | _, none =>
    typeError ("cannot delete '" ++ name ++ "' attribute of immutable type '" ++ c.label ++ "'")
  | "__bases__", some v =>
    typeError ("can only assign tuple to " ++ c.label ++ ".__bases__, not " ++
      (← Bridge.qualifiedType v))
  | "__name__", some v | "__qualname__", some v =>
    if (← Bridge.object v).places?.isSome then giveAttribute (.class c) name v
    else
      typeError ("can only assign string to " ++ c.label ++ "." ++ name ++ ", not '" ++
        (← Bridge.qualifiedType v) ++ "'")
  | _, some v => giveAttribute (.class c) name v

/-- Writes an attribute of a class, or deletes it. The classes of the interpreter stay as they
are. -/
def setClassAttr (r : ObjRef) (c : ObjectClass) (name : String) (value : Option ObjRef) :
    Act ForeignError Unit := do
  match c, ObjectClass.meta.feature? name, value with
  | .core _, _, _ =>
    typeError ("cannot set " ++ literalText name ++ " attribute of immutable type '" ++ c.label ++
      "'")
  | _, some (_, .property), _ => setClassProperty c name value
  | _, some (_, .field), _ => readOnlyField
  | _, _, some v => giveAttribute (.class c) name v
  | _, _, none =>
    let taken ← takeAttribute (.class c) name
    if !taken && (c.definitions.feature? name).isNone then missingAttribute r name

/-- Writes an attribute, or deletes it. -/
def setAttr (r : ObjRef) (name : String) (value : Option ObjRef) : Act ForeignError Unit := do
  match ← Bridge.object r, ← kind with
  | .proxy cls t, _ => Proxy.slot (Proxy.setAttr cls t name value)
  | _, .scripted =>
    attributeError
      ("'" ++ (← Bridge.typeName r) ++ "' object attribute '" ++ name ++ "' is read-only")
  | .type c, .library => setClassAttr r c name value
  | _, .library => setInstanceAttr r name value

end ScriptBridge.Script
