import ScriptBridge.Script.Method.Base

/-!
# Operations of objects

Which method a call of an object by a name runs: that of the class of the object, or else that of the
base of all classes. The operations that the syntax of scripts uses are called by their names. One
that does not know what to do with an object leaves it to the other one.
-/

namespace ScriptBridge.Script

open Foreign (ObjRef Object ObjectClass)

/-! ### Methods -/

/-- Whether the class of an object defines a method otherwise than the base of all classes. -/
def definesMethod (x : Object) (name : String) : Bool :=
  (((x.class .library).feature? name).map (·.1)) ≠ some (.core "object") && name ≠ "__format__"

/-- How many arguments a method of an object takes. -/
def Signature.ofMethod (x : Object) (name : String) : Signature :=
  match x, definesMethod x name with
  | .type _, _ => classSignature name
  | .raised _, _ => exceptionSignature name
  | .list _, true => listSignature name
  | .tuple _, true => tupleSignature name
  | .counting _, true | .slice .., true => rangeSignature name
  | .dict _, true | .mirror _, true => dictSignature name
  | .set _, true => setSignature name
  | .str _, true | .halved _, true => textSignature name
  | .int _, true | .bool _, true | .float _, true => numberSignature name
  | .bytes _, true => .any
  | .view .., true => viewSignature name
  | _, _ => baseSignature name

/-- Calls a method of an object by what the object is. -/
def runMethod (r : ObjRef) (name : String) (args : List ObjRef) (keywords : Keywords) :
    Act ForeignError ObjRef := do
  let x ← Bridge.object r
  match x, definesMethod x name with
  | .type c, _ => callClassMethod r c name args keywords
  | .raised raisedWith, _ => callExceptionMethod r raisedWith name args
  | .list items, true => callListMethod r items name args keywords
  | .tuple items, true => callTupleMethod items name args
  | .counting c, true => callRangeMethod r c name args
  | .slice start stop step, true => callSliceMethod start stop step name args
  | .dict entries, true => callDictMethod r entries name args keywords
  | .mirror c, true => do
    let entries ← classEntries c
    callDictMethod (← Bridge.alloc (.dict entries)) entries name args keywords
  | .set items, true => callSetMethod r items name args
  | .str s, true => callTextMethod s name args keywords
  | .int n, true => callIntMethod n name args
  | .bool b, true => callIntMethod (if b then 1 else 0) name args
  | .float y, true => callFloatMethod y name
  | .iterator _ rest, true => callIteratorMethod rest name
  | .view sort _, true => callViewMethod r sort name args
  | _, false | .proxy .., _ => callBaseMethod r name args
  | _, true => unsupported name

/-- Calls a method that is built into the interpreter; `label` names the class in failures. -/
def callMethod (label : String) (r : ObjRef) (name : String) (args : List ObjRef)
    (keywords : Keywords) : Act ForeignError ObjRef := do
  (Signature.ofMethod (← Bridge.object r) name).demand label name args keywords
  runMethod r name args keywords

/-! ### Arguments -/

/-- How many arguments an operation takes. -/
def operationArity : String → Nat
  | "__repr__" | "__str__" | "__hash__" | "__len__" | "__iter__" | "__next__" | "__bool__"
  | "__neg__" | "__pos__" | "__abs__" | "__invert__" | "__int__" | "__float__" | "__index__" => 0
  | "__setitem__" | "__setattr__" => 2
  | _ => 1

/-- The wording for a number of arguments that an operation does not take. A blank comes first where
there are several, or where the argument is a count of repetitions. -/
def arityText (counts : Bool) (expected got : Nat) : String :=
  (if counts || 1 < expected then " " else "") ++ "expected " ++ countedArguments expected ++
    ", got " ++ toString got

/-- The name of an attribute of an object, given as another object. -/
def attributeName (r name : ObjRef) : Act ForeignError String := do
  match (← Bridge.object name).places?, ← Bridge.object r with
  | some places, _ => return Foreign.mended places
  | none, .proxy .. => typeError "bad argument type for built-in operation"
  | none, _ =>
    typeError ("attribute name must be string, not '" ++ (← Bridge.qualifiedType name) ++ "'")

/-! ### Sequences -/

/-- How often a sequence is repeated. -/
def repetitions (r : ObjRef) : Act ForeignError Nat := do
  let n ← integerOf r
  if Text.fitsInt64 n then return n.toNat
  Act.fail (.exception .overflow "cannot fit 'int' into an index-sized integer")

/-- A sequence several times over; nothing for other objects. -/
def repeated? (x : Object) (n : Nat) : Option Object :=
  let times {β : Type} (xs : List β) : List β := (List.replicate n xs).flatten
  match x with
  | .list items => some (.list (times items))
  | .tuple items => some (.tuple (times items))
  | .str s => some (.str (String.ofList (times s.toList)))
  | .halved places => some (.halved (times places))
  | .bytes bs => some (.bytes (times bs))
  | _ => none

/-- Two sequences of one type, one behind the other. -/
def joinedTo? : Object → Object → Option Object
  | .list xs, .list ys => some (.list (xs ++ ys))
  | .tuple xs, .tuple ys => some (.tuple (xs ++ ys))
  | .bytes xs, .bytes ys => some (.bytes (xs ++ ys))
  | x, y => do
    let xs ← x.places?
    let ys ← y.places?
    return .ofPlaces (xs ++ ys)

/-- One sequence behind the other. -/
def concatenate (r s : ObjRef) : Act ForeignError ObjRef := do
  let x ← Bridge.object r
  match x, joinedTo? x (← Bridge.object s) with
  | _, some y => Bridge.alloc y
  | .bytes _, none => typeError ("can't concat " ++ (← Bridge.qualifiedType s) ++ " to bytes")
  | _, none =>
    let name ← Bridge.qualifiedType r
    typeError ("can only concatenate " ++ name ++ " (not \"" ++ (← Bridge.qualifiedType s) ++
      "\") to " ++ name)

/-- Whether an object is a sequence that can be put together with others. -/
def isJoinable : Object → Bool
  | .list _ | .tuple _ | .str _ | .halved _ | .bytes _ => true
  | _ => false

/-- The name of the type of iterations over an object. -/
def iteratorName : Object → String
  | .tuple _ => "tuple_iterator"
  | .str s => if s.toList.all (·.toNat < 128) then "str_ascii_iterator" else "str_iterator"
  | .halved _ => "str_iterator"
  | .bytes _ => "bytes_iterator"
  | .counting _ => "range_iterator"
  | .dict _ | .mirror _ => "dict_keyiterator"
  | .set _ => "set_iterator"
  | .view sort _ => viewIterator sort false
  | _ => "list_iterator"

/-- The next item of an iteration. -/
def nextItem (r : ObjRef) : Act ForeignError ObjRef := do
  match ← Bridge.object r with
  | .iterator typeName (x :: rest) =>
    Bridge.hold x
    Bridge.setObject r (.iterator typeName rest)
    pure x
  | _ => Act.fail (.exception (.other "StopIteration") "")

/-! ### Sets and dictionaries -/

/-- The method of sets behind an operation on two sets. -/
def setMethodOf? : String → Option String
  | "__or__" | "__ror__" | "__ior__" => some "union"
  | "__and__" | "__rand__" | "__iand__" => some "intersection"
  | "__sub__" | "__rsub__" | "__isub__" => some "difference"
  | "__xor__" | "__rxor__" | "__ixor__" => some "symmetric_difference"
  | _ => none

/-- Whether an operation changes its object. -/
def changesObject (name : String) : Bool :=
  ["__ior__", "__iand__", "__isub__", "__ixor__", "__iadd__", "__imul__"].contains name

/-- Whether an operation has its object on the right. -/
def isReflected (name : String) : Bool :=
  ["__ror__", "__rand__", "__rsub__", "__rxor__"].contains name

/-- Joins two sets by an operation. -/
def joinSets (r s : ObjRef) (xs ys : List ObjRef) (name method : String) :
    Act ForeignError ObjRef := do
  if changesObject name then
    Bridge.setObject r (.set (← joined method xs [ys]))
    pure r
  else if isReflected name then do Bridge.alloc (.set (← joined method ys [xs]))
  else if r = s && method = "union" then Bridge.alloc (.set xs)
  else do Bridge.alloc (.set (← joined method xs [ys]))

/-- Joins two dictionaries by an operation; the later one has precedence. -/
def joinDicts (r s : ObjRef) (name : String) : Act ForeignError ObjRef := do
  if name = "__ior__" then
    updateDict r "update" [s] []
    pure r
  else
    let (front, behind) := if name = "__ror__" then (s, r) else (r, s)
    let new ← Bridge.alloc (.dict ((← get).objects.entries front))
    updateDict new "update" [behind] []
    pure new

/-! ### Operations -/

/-- Whether two objects are one, as an answer; for the other answer the comparison is left to the
other object. -/
def compareIdentity (r s : ObjRef) (whenSame : Bool) : Act ForeignError ObjRef := do
  if (← get).identical r s then Bridge.alloc (.bool whenSame) else undecided

/-- A comparison of two objects by name. -/
def compareBy (c : Comparison) (r s : ObjRef) : Act ForeignError ObjRef := do
  match ← compareOperation c r s with
  | some truth => Bridge.alloc (.bool truth)
  | none => undecided

/-- An operation with one more object that only some types have. -/
def binaryOperation (r s : ObjRef) (name : String) : Act ForeignError ObjRef := do
  let x ← Bridge.object r
  match x, ← Bridge.object s, name, setMethodOf? name, Comparison.ofName? name with
  | .proxy .., _, "__eq__", _, _ => compareIdentity r s true
  | .proxy .., _, "__ne__", _, _ => compareIdentity r s false
  | _, _, _, _, some c => compareBy c r s
  | .set xs, .set ys, name, some method, _ => joinSets r s xs ys name method
  | .dict _, .dict _, name, some _, _ => joinDicts r s name
  | .dict _, _, "__ior__", _, _ => joinDicts r s name
  | .list _, _, "__iadd__", _, _ => do
    let items ← iterate s
    match ← Bridge.object r with
    | .list old => Bridge.setObject r (.list (old ++ items))
    | _ => pure ()
    pure r
  | x, y, name, _, _ =>
    if name = "__add__" && isJoinable x then concatenate r s
    else if (numeric? x).isSome && (numeric? y).isSome then unsupported name
    else undecided

/-- Calls an operation of an object. -/
def callOperation (r : ObjRef) (name : String) (args : List ObjRef) : Act ForeignError ObjRef := do
  let x ← Bridge.object r
  let values := args.map (← get).objects.get
  match numberOperation? x name values, name, args with
  | some a, _, _ => a
  | none, "__repr__", [] => do Bridge.alloc (.str ((← get).literal r))
  | none, "__str__", [] => do Bridge.alloc (.str (← Bridge.textOf r))
  | none, "__hash__", [] => Bridge.alloc (.int r.id)
  | none, "__bool__", [] => do Bridge.alloc (.bool (← truthOf r))
  | none, "__len__", [] => do Bridge.alloc (.int (← length r))
  | none, "__next__", [] => nextItem r
  | none, "__iter__", [] =>
    match x with
    | .iterator .. => pure r
    | x => do Bridge.alloc (.iterator (iteratorName x) (← iterate r))
  | none, "__getitem__", [k] => getItem r k
  | none, "__contains__", [v] => do Bridge.alloc (.bool (← contains r v))
  | none, "__setitem__", [k, v] => done (setItem r k (some v))
  | none, "__delitem__", [k] => done (setItem r k none)
  | none, "__getattribute__", [n] => do getAttr r (← attributeName r n)
  | none, "__setattr__", [n, v] => do done (setAttr r (← attributeName r n) (some v))
  | none, "__delattr__", [n] => do done (setAttr r (← attributeName r n) none)
  | none, "__mul__", [n] | none, "__rmul__", [n] | none, "__imul__", [n] =>
    if !isJoinable x then undecided
    else match repeated? x (← repetitions n) with
      | some y =>
        if changesObject name then
          Bridge.setObject r y
          pure r
        else Bridge.alloc y
      | none => undecided
  | none, name, args =>
    let expected := operationArity name
    let counts := isJoinable x && ["__mul__", "__rmul__", "__imul__"].contains name
    if args.length ≠ expected then typeError (arityText counts expected args.length)
    match args with
    | [s] => binaryOperation r s name
    | _ => unsupported name

/-! ### Preparing objects -/

/-- Prepares an object as its class asks for. -/
def prepare (r : ObjRef) (args : List ObjRef) (keywords : Keywords) : Act ForeignError ObjRef := do
  let label ← Bridge.qualifiedType r
  let noKeywords : Act ForeignError Unit := do
    if !keywords.isEmpty then typeError (label ++ "() takes no keyword arguments")
  match ← Bridge.object r with
  | .raised _ => do
    noKeywords
    done (Bridge.setObject r (.raised args))
  | .list _ => do
    noKeywords
    demandBetween label args 0 1
    Bridge.setObject r (.list [])
    done do Bridge.setObject r (.list (← givenItems args))
  | .set _ => do
    noKeywords
    demandBetween label args 0 1
    Bridge.setObject r (.set [])
    done do Bridge.setObject r (.set (← distinct (← givenItems args)))
  | .dict _ => done (updateDict r label args keywords)
  | x =>
    match x.class .library, keywords.isEmpty && args.isEmpty with
    | .core _, _ | _, true => Bridge.alloc .null
    | _, false =>
      typeError (label ++ ".__init__() takes exactly one argument (the instance to initialize)")

end ScriptBridge.Script
