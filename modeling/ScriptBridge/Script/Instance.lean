import ScriptBridge.Decimal.Reading
import ScriptBridge.Script.Method.Dictionary
import ScriptBridge.Script.Method.Number
import ScriptBridge.Script.Method.Text

/-!
# New objects of classes

What a class makes of its arguments when it is called. Containers take the items of another object,
numbers and texts what another object says.
-/

namespace ScriptBridge.Script

open Foreign (ObjRef Object ObjectClass Counting)

/-! ### Truth values -/

/-- The truth value of an object: numbers are false if they are zero, and everything with a length if
it is empty. -/
def truthOf (r : ObjRef) : Act ForeignError Bool := do
  match ← Bridge.object r with
  | .null => pure false
  | .bool b => pure b
  | .int n => pure (n != 0)
  | .float x => pure (x != 0)
  | .known .. | .module .. | .type _ | .plain .. | .raised _ | .mapping _ | .triples _ | .unsized =>
    pure true
  | x => do
    let n : Except ForeignError Nat ← Act.attempt (length r)
    match n, x with
    | .ok n, _ => pure (n != 0)
    | .error e, .proxy cls _ =>
      if cls.isSequence || cls.isMapping then Act.fail e else pure true
    | .error _, _ => pure true

/-! ### Numbers -/

/-- The value of a digit, of which there are more than ten in some bases. -/
def digitValue? (base : Nat) (c : Char) : Option Nat :=
  let value :=
    if c.isDigit then c.toNat - '0'.toNat
    else if c.isAlpha then c.toLower.toNat - 'a'.toNat + 10
    else base
  if value < base then some value else none

/-- The value of digits; between two of them there may be one underscore. -/
def readDigitsIn? (base : Nat) : Nat → List Char → Option Nat
  | _, [] => none
  | n, [c] => (digitValue? base c).map (n * base + ·)
  | n, c :: '_' :: rest => (digitValue? base c).bind fun d => readDigitsIn? base (n * base + d) rest
  | n, c :: rest => (digitValue? base c).bind fun d => readDigitsIn? base (n * base + d) rest

/-- A text without the spaces around it. -/
def trimSpaces (s : List Char) : List Char :=
  ((s.dropWhile isSpace).reverse.dropWhile isSpace).reverse

/-- The integer in a text. -/
def readIntegerIn? (base : Nat) (s : List Char) : Option Int :=
  match trimSpaces s with
  | '-' :: s => (readDigitsIn? base 0 s).map fun n => -(n : Int)
  | '+' :: s => (readDigitsIn? base 0 s).map Int.ofNat
  | s => (readDigitsIn? base 0 s).map Int.ofNat

/-- The integer in an object that is a text, given the object. -/
def integerInText (base : Nat) (r : ObjRef) (s : List Char) : Act ForeignError ObjRef := do
  match readIntegerIn? base s with
  | some n => Bridge.alloc (.int n)
  | none =>
    let b ← get
    valueError ("invalid literal for int() with base " ++ toString base ++ ": " ++ b.literal r)

/-- A new integer. -/
def newInteger (args : List ObjRef) : Act ForeignError ObjRef := do
  match args with
  | [] => Bridge.alloc (.int 0)
  | x :: base => do
    let base? ← base.head?.mapM countOf
    match ← Bridge.object x, base? with
    | .str s, base? => integerInText ((base?.map Int.toNat).getD 10) x s.toList
    | .bytes bs, base? =>
      integerInText ((base?.map Int.toNat).getD 10) x (bs.map fun c => Char.ofNat c.toNat)
    | _, some _ => typeError "int() can't convert non-string with explicit base"
    | .int n, none => Bridge.alloc (.int n)
    | .bool b, none => Bridge.alloc (.int (if b then 1 else 0))
    | .float y, none => truncated y
    | _, none =>
      typeError ("int() argument must be a string, a bytes-like object or a real number, not '" ++
        (← Bridge.qualifiedType x) ++ "'")

/-- A new float. -/
def newFloat (args : List ObjRef) : Act ForeignError ObjRef := do
  match args with
  | [] => Bridge.alloc (.float 0)
  | x :: _ => do
    match ← Bridge.object x with
    | .str s =>
      match Decimal.readFloat? (trimSpaces s.toList) with
      | some y => Bridge.alloc (.float y)
      | none => do valueError ("could not convert string to float: " ++ (← get).literal x)
    | y =>
      match numeric? y with
      | some n => Bridge.alloc (.float (toFloat n))
      | none =>
        typeError ("float() argument must be a string or a real number, not '" ++
          (← Bridge.qualifiedType x) ++ "'")

/-! ### Texts and bytes -/

/-- New bytes. -/
def newBytes (args : List ObjRef) : Act ForeignError ObjRef := do
  let byte (r : ObjRef) : Act ForeignError UInt8 := do
    let n ← integerOf r
    if n < 0 || 255 < n then valueError "bytes must be in range(0, 256)"
    return n.toNat.toUInt8
  match args with
  | [] => Bridge.alloc (.bytes [])
  | [x] =>
    match ← Bridge.object x with
    | .bytes bs => Bridge.alloc (.bytes bs)
    | .str _ | .halved _ => typeError "string argument without an encoding"
    | .int n =>
      if n < 0 then valueError "negative count"
      Bridge.alloc (.bytes (List.replicate n.toNat 0))
    | .null | .bool _ | .float _ =>
      typeError ("cannot convert '" ++ (← Bridge.qualifiedType x) ++ "' object to bytes")
    | _ => do Bridge.alloc (.bytes (← (← iterate x).mapM byte))
  | x :: _ =>
    match ← Bridge.object x with
    | .str s => Bridge.alloc (.bytes s.toUTF8.toList)
    | _ => typeError "encoding without a string argument"

/-- A new text. -/
def newString (args : List ObjRef) : Act ForeignError ObjRef := do
  match args with
  | [] => Bridge.alloc (.str "")
  | [x] =>
    match ← Bridge.object x with
    | .str _ | .halved _ => pure x
    | _ => do Bridge.alloc (.str (← Bridge.textOf x))
  | x :: _ =>
    match ← Bridge.object x with
    | .bytes bs => Bridge.alloc (.str (Text.decode bs))
    | .str _ | .halved _ => typeError "decoding str is not supported"
    | _ =>
      typeError ("decoding to str: need a bytes-like object, " ++ (← Bridge.qualifiedType x) ++
        " found")

/-! ### Ranges and slices -/

/-- A new range. -/
def newRange (args : List ObjRef) : Act ForeignError ObjRef := do
  demandBetween "range" args 1 3
  match ← args.mapM integerOf with
  | [start, stop, step] =>
    if step = 0 then valueError "range() arg 3 must not be zero"
    Bridge.alloc (.counting ⟨start, stop, step⟩)
  | [start, stop] => Bridge.alloc (.counting ⟨start, stop, 1⟩)
  | stops => Bridge.alloc (.counting ⟨0, stops.headD 0, 1⟩)

/-- A new slice. -/
def newSliceOf (args : List ObjRef) : Act ForeignError ObjRef := do
  demandBetween "slice" args 1 3
  let b ← get
  match args.map (integer? b) with
  | [stop] => Bridge.alloc (.slice none stop none)
  | bounds => Bridge.alloc (.slice (bounds.getD 0 none) (bounds.getD 1 none) (bounds.getD 2 none))

/-! ### Classes -/

/-- The items with which a container begins. -/
def givenItems : List ObjRef → Act ForeignError (List ObjRef)
  | [] => pure []
  | x :: _ => iterate x

/-- The most arguments of classes that take no names, and none at least. -/
def mostArguments? : String → Option Nat
  | "bool" | "float" | "list" | "tuple" | "set" => some 1
  | _ => none

/-- A new object of a class of the interpreter. -/
def instantiateCore (name : String) (args : List ObjRef) (keywords : Keywords) :
    Act ForeignError ObjRef := do
  let positional := ["bool", "float", "list", "tuple", "set", "range", "slice"]
  if !keywords.isEmpty && positional.contains name then
    typeError (name ++ "() takes no keyword arguments")
  (mostArguments? name).forM (demandBetween name args 0)
  match name, args with
  | "NoneType", [] => Bridge.alloc .null
  | "NoneType", _ | "NotImplementedType", _ :: _ => typeError (name ++ " takes no arguments")
  | "NotImplementedType", [] => Bridge.alloc (.known name "NotImplemented")
  | "object", [] => Bridge.alloc (.known name ("<object object at " ++ hiddenAddress ++ ">"))
  | "object", _ => typeError "object() takes no arguments"
  | "type", [x] => do Bridge.alloc (.type ((← Bridge.object x).class .library))
  | "type", _ => typeError "type() takes 1 or 3 arguments"
  | "bool", _ => do
    let truth ← (args.head?.mapM truthOf)
    Bridge.alloc (.bool (truth.getD false))
  | "int", _ => newInteger args
  | "float", _ => newFloat args
  | "bytes", _ => newBytes args
  | "str", _ => newString args
  | "list", _ => do Bridge.alloc (.list (← givenItems args))
  | "tuple", _ => do
    match args, ← args.head?.mapM Bridge.object with
    | x :: _, some (.tuple _) => pure x
    | _, _ => do Bridge.alloc (.tuple (← givenItems args))
  | "set", _ => do Bridge.alloc (.set (← distinct (← givenItems args)))
  | "dict", _ => do
    let r ← Bridge.alloc (.dict [])
    updateDict r name args keywords
    pure r
  | "range", _ => newRange args
  | "slice", _ => newSliceOf args
  | _, _ => typeError ("cannot create '" ++ name ++ "' instances")

/-- Calls a class. A new proxy stands for nothing, which fails as soon as it is looked at. -/
def instantiate (c : ObjectClass) (args : List ObjRef) (keywords : Keywords) :
    Act ForeignError ObjRef := do
  match c, args, keywords with
  | .proxy _, [], [] => Act.fail (.exception .bridge "proxy object without state")
  | .proxy _, _, _ => typeError (c.label ++ "() takes no arguments")
  | .error, _, [] => Bridge.alloc (.raised args)
  | .error, _, _ :: _ => typeError (c.label ++ "() takes no keyword arguments")
  | .core name, _, _ => instantiateCore name args keywords
  | .user .., _, _ => typeError ("cannot create '" ++ c.label ++ "' instances")

end ScriptBridge.Script
