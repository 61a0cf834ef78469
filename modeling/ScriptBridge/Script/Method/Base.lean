import ScriptBridge.Script.Instance

/-!
# Methods of the base of all classes

What every object answers, and what exceptions, classes, iterations and views of dictionaries add.
-/

namespace ScriptBridge.Script

open Foreign (ObjRef Object ObjectClass DictView)

/-- The answer of an operation that an object leaves to the other one. -/
def undecided : Act ForeignError ObjRef :=
  Bridge.alloc (.known "NotImplementedType" "NotImplemented")

/-! ### The base -/

/-- How many arguments a method takes that the base of all classes defines. -/
def baseSignature : String → Signature
  | "__format__" | "__reduce_ex__" => .one
  | _ => .none

/-- The parts from which a proxy could be made again. -/
def reduction (r : ObjRef) : Act ForeignError ObjRef := do
  let text := "<function _reconstructor at " ++ hiddenAddress ++ ">"
  let maker ← Bridge.alloc (.known "function" text)
  let own ← Bridge.alloc (.type ((← Bridge.object r).class .library))
  let base ← Bridge.alloc (.type (.core "object"))
  let parts ← Bridge.alloc (.tuple [own, base, ← Bridge.alloc .null])
  Bridge.alloc (.tuple [maker, parts])

/-- Whether objects of a type have formats besides the empty one. -/
def hasFormats : Object → Bool
  | .int _ | .bool _ | .float _ | .str _ | .halved _ => true
  | _ => false

/-- The text of an object in a format, which is the empty one. -/
def formatted (r format : ObjRef) : Act ForeignError ObjRef := do
  match ← Bridge.object format with
  | .str "" => do Bridge.alloc (.str (← Bridge.textOf r))
  | .str _ | .halved _ =>
    if hasFormats (← Bridge.object r) then unsupported "__format__"
    typeError ("unsupported format string passed to " ++ (← Bridge.qualifiedType r) ++
      ".__format__")
  | .null => typeError "__format__() argument must be str, not None"
  | _ => typeError ("__format__() argument must be str, not " ++ (← Bridge.qualifiedType format))

/-- Makes an object of a class, by a function of the class `definer`. -/
def newInstance (definer : String) (args : List ObjRef) (keywords : Keywords) :
    Act ForeignError ObjRef := do
  match args with
  | [] => typeError (definer ++ ".__new__(): not enough arguments")
  | x :: rest => do
    match ← Bridge.object x with
    | .type c => instantiate c rest keywords
    | _ =>
      typeError (definer ++ ".__new__(X): X is not a type object (" ++
        (← Bridge.qualifiedType x) ++ ")")

/-- Calls a method that the base of all classes defines. -/
def callBaseMethod (r : ObjRef) (name : String) (args : List ObjRef) : Act ForeignError ObjRef := do
  let x ← Bridge.object r
  match name, args with
  | "__format__", [format] => formatted r format
  | "__sizeof__", _ => Bridge.alloc (.int 24)
  | "__dir__", _ => do
    let names := (x.class .library).listedNames
    Bridge.alloc (.list (← Bridge.allocAll (names.map .str)))
  | "__reduce__", _ => reduction r
  | "__reduce_ex__", [protocol] => do
    if (← integerOf protocol) < 2 then reduction r
    else typeError ("cannot pickle '" ++ (← Bridge.qualifiedType r) ++ "' object")
  | _, _ => Bridge.alloc .null

/-! ### Exceptions -/

/-- Adds a note to an exception. -/
def addNote (r note : ObjRef) : Act ForeignError Unit := do
  match (← Bridge.object note).places?, ← givenAttribute? (.object r) "__notes__" with
  | none, _ =>
    typeError ("note must be a str, not '" ++ (← Bridge.qualifiedType note) ++ "'")
  | some _, none => do
    giveAttribute (.object r) "__notes__" (← Bridge.alloc (.list [note]))
  | some _, some notes => do
    match ← Bridge.object notes with
    | .list items => Bridge.setObject notes (.list (items ++ [note]))
    | _ => typeError "Cannot add note: __notes__ is not a list"

/-- Gives an exception the attributes that a dictionary holds. -/
def setState (r state : ObjRef) : Act ForeignError Unit := do
  match ← Bridge.object state with
  | .null => pure ()
  | .dict entries =>
    entries.forM fun e => do
      match (← Bridge.object e.1).places? with
      | some places => setAttr r (Foreign.mended places) (some e.2)
      | none =>
        typeError ("attribute name must be string, not '" ++ (← Bridge.qualifiedType e.1) ++ "'")
  | _ => typeError "state is not a dictionary"

/-- How many arguments a method of exceptions takes. -/
def exceptionSignature : String → Signature
  | "with_traceback" | "add_note" | "__setstate__" => .one
  | name => baseSignature name

/-- Calls a method of an exception. -/
def callExceptionMethod (r : ObjRef) (raisedWith : List ObjRef) (name : String)
    (args : List ObjRef) : Act ForeignError ObjRef := do
  match name, args with
  | "with_traceback", [trace] =>
    match ← Bridge.object trace with
    | .null => pure r
    | _ => typeError "__traceback__ must be a traceback or None"
  | "add_note", [note] => done (addNote r note)
  | "__setstate__", [state] => done (setState r state)
  | "__reduce__", _ => do
    let made ← Bridge.alloc (.type .error)
    let parts ← Bridge.alloc (.tuple raisedWith)
    let given := ((← get).objects.dictionaries.lookup (.object r)).toList
    Bridge.alloc (.tuple ([made, parts] ++ given))
  | _, _ => callBaseMethod r name args

/-! ### Classes -/

/-- How many arguments a method of a class takes. -/
def classSignature : String → Signature
  | "__instancecheck__" | "__subclasscheck__" | "__format__" | "__reduce_ex__" => .one
  | "fromkeys" => .between 1 2
  | "mro" | "__subclasses__" | "__dir__" | "__sizeof__" | "__reduce__" | "__getstate__" => .none
  | _ => .any

/-- Calls a method of a class, or a function that it defines. -/
def callClassMethod (r : ObjRef) (c : ObjectClass) (name : String) (args : List ObjRef)
    (keywords : Keywords) : Act ForeignError ObjRef := do
  let ancestry (x : ObjRef) : Act ForeignError (List ObjectClass) := do
    match ← Bridge.object x with
    | .type d => pure d.ancestry
    | _ => typeError "issubclass() arg 1 must be a class"
  match name, args with
  | "mro", _ => newClasses .list c.ancestry
  | "__new__", args => newInstance c.name args keywords
  | "fromkeys", args => dictFromKeys args
  | "__instancecheck__", [x] => do
    let own := (← Bridge.object x).class .library
    Bridge.alloc (.bool (own.ancestry.contains c))
  | "__subclasscheck__", [x] => do Bridge.alloc (.bool ((← ancestry x).contains c))
  | "__subclasses__", _ => Bridge.alloc (.list [])
  | "__subclasshook__", _ =>
    if !keywords.isEmpty then typeError (name ++ "() takes no keyword arguments")
    undecided
  | "__init_subclass__", _ => Bridge.alloc .null
  | "__dir__", _ | "__sizeof__", _ | "__format__", _ | "__reduce__", _ | "__reduce_ex__", _
  | "__getstate__", _ => callBaseMethod r name args
  | _, _ => unsupported name

/-! ### Iterations and views -/

/-- Calls a method of an iteration. -/
def callIteratorMethod (rest : List ObjRef) (name : String) : Act ForeignError ObjRef := do
  match name with
  | "__length_hint__" => Bridge.alloc (.int rest.length)
  | _ => unsupported name

/-- How many arguments a method of a view takes. -/
def viewSignature : String → Signature
  | "isdisjoint" => .one
  | name => baseSignature name

/-- The name of the type of iterations over a view, backwards or not. -/
def viewIterator (sort : DictView) (reversed : Bool) : String :=
  (if reversed then "dict_reverse" else "dict_") ++
    (match sort with
      | .keys => "key"
      | .values => "value"
      | .items => "item") ++ "iterator"

/-- Calls a method of a view of a dictionary. -/
def callViewMethod (r : ObjRef) (sort : DictView) (name : String) (args : List ObjRef) :
    Act ForeignError ObjRef := do
  let items ← iterate r
  match name, args with
  | "isdisjoint", [x] => do
    let others ← iterate x
    let b ← get
    Bridge.alloc (.bool (items.all fun y => !others.any (b.sameKey y)))
  | "__reversed__", _ => Bridge.alloc (.iterator (viewIterator sort true) items.reverse)
  | _, _ => callBaseMethod r name args

end ScriptBridge.Script
