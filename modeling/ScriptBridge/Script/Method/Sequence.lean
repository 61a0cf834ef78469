import ScriptBridge.Script.Change
import ScriptBridge.Script.Comparison
import ScriptBridge.Script.Signature

/-!
# Methods of sequences

The methods of lists, tuples, ranges and slices.
-/

namespace ScriptBridge.Script

open Foreign (ObjRef Object Counting)

/-- A value error. -/
def valueError {α : Type} (text : String) : Act ForeignError α :=
  Act.fail (.exception .value text)

/-- An answer without a value. -/
def done (a : Act ForeignError Unit) : Act ForeignError ObjRef := do
  a
  Bridge.alloc .null

/-! ### Sorting -/

/-- How long the run is that the items behind one begin with, where `next` tells whether two items
one after the other go on with it. -/
def runLength (next : ObjRef → ObjRef → Except ForeignError Bool) :
    ObjRef → List ObjRef → Except ForeignError Nat
  | _, [] => .ok 0
  | x, y :: rest => do if ← next x y then return (← runLength next y rest) + 1 else return 0

/-- The place for an item among items in order, between two positions: behind all that are not
greater. There are at most `n` steps. -/
def placeFor (less : ObjRef → ObjRef → Except ForeignError Bool) (x : ObjRef)
    (items : List ObjRef) : Nat → Nat → Nat → Except ForeignError Nat
  | 0, low, _ => .ok low
  | n + 1, low, high => do
    if high ≤ low then return low
    let middle := low + (high - low) / 2
    if ← less x (items.getD middle x) then placeFor less x items n low middle
    else placeFor less x items n (middle + 1) high

/-- Items in order, with others put in one after another. -/
def insertAll (less : ObjRef → ObjRef → Except ForeignError Bool) :
    List ObjRef → List ObjRef → Except ForeignError (List ObjRef)
  | items, [] => .ok items
  | items, x :: rest => do
    let place ← placeFor less x items (items.length + 1) 0 items.length
    insertAll less (items.take place ++ x :: items.drop place) rest

/-- Items in order. The run in front is kept, or turned round if it goes down. -/
def sortItems (less : ObjRef → ObjRef → Except ForeignError Bool) :
    List ObjRef → Except ForeignError (List ObjRef)
  | x :: y :: rest => do
    let down ← less y x
    let next (x y : ObjRef) : Except ForeignError Bool := do return (← less y x) == down
    let run ← runLength next y rest
    let front := x :: y :: rest.take run
    insertAll less (if down then front.reverse else front) (rest.drop run)
  | items => .ok items

/-- Sorts a list. -/
def sortList (r : ObjRef) (items : List ObjRef) (args : List ObjRef) (keywords : Keywords) :
    Act ForeignError ObjRef := do
  let given := args.length + keywords.length
  if 2 < given then
    typeError ("sort() takes at most 2 arguments (" ++ toString given ++ " given)")
  if !args.isEmpty then typeError "sort() takes no positional arguments"
  match keywords.find? fun k => k.1 ≠ "key" ∧ k.1 ≠ "reverse" with
  | some k => typeError ("'" ++ k.1 ++ "' is an invalid keyword argument for sort()")
  | none => pure ()
  let backwards ← match keywords.lookup "reverse" with
    | some v => do pure ((← integerOf v) != 0)
    | none => pure false
  let b ← get
  let less (x y : ObjRef) : Except ForeignError Bool := compareObjects b .less x y
  let sorted ← Act.ofExcept (sortItems less (if backwards then items.reverse else items))
  done (Bridge.setObject r (.list (if backwards then sorted.reverse else sorted)))

/-! ### Searching -/

/-- The position of the first item between two positions that equals an object. -/
def findItem? (b : Bridge) (items : List ObjRef) (x : ObjRef) (low high : Nat) : Option Nat :=
  (((items.take high).drop low).findIdx? fun y => b.equal y x).map (low + ·)

/-- How many items equal an object. -/
def countItem (b : Bridge) (items : List ObjRef) (x : ObjRef) : Nat :=
  items.countP fun y => b.equal y x

/-- The position of an object among items. -/
def indexOf (items : List ObjRef) (x : ObjRef) (bounds : List ObjRef) (missing : Act ForeignError Nat) :
    Act ForeignError ObjRef := do
  let (low, high) ← searchBounds items.length bounds
  match findItem? (← get) items x low high with
  | some i => Bridge.alloc (.int i)
  | none => do Bridge.alloc (.int (← missing))

/-! ### Lists -/

/-- How many arguments a method of lists takes. -/
def listSignature : String → Signature
  | "append" | "extend" | "remove" | "count" | "__getitem__" => .one
  | "insert" => .between 2 2
  | "pop" => .between 0 1
  | "index" => .between 1 3
  | "sort" => .any
  | _ => .none

/-- Takes an item out of a list. -/
def popItem (r : ObjRef) (items : List ObjRef) (place : Int) : Act ForeignError ObjRef := do
  let i := if place < 0 then place + items.length else place
  if items.isEmpty then Act.fail (.exception .index "pop from empty list")
  match if 0 ≤ i then items[i.toNat]? else none with
  | some x =>
    Bridge.hold x
    Bridge.setObject r (.list (items.eraseIdx i.toNat))
    pure x
  | none => Act.fail (.exception .index "pop index out of range")

/-- Calls a method of a list. -/
def callListMethod (r : ObjRef) (items : List ObjRef) (name : String) (args : List ObjRef)
    (keywords : Keywords) : Act ForeignError ObjRef := do
  let set (new : List ObjRef) : Act ForeignError ObjRef := done (Bridge.setObject r (.list new))
  match name, args with
  | "append", [x] => set (items ++ [x])
  | "extend", [v] => do
    let new ← iterate v
    set (items ++ new)
  | "clear", _ => set []
  | "copy", _ => Bridge.alloc (.list items)
  | "reverse", _ => set items.reverse
  | "insert", [i, x] =>
    let i ← countOf i
    let place := (if i < 0 then i + items.length else i).toNat
    set (items.take place ++ x :: items.drop place)
  | "pop", [] => popItem r items (-1)
  | "pop", [i] => do popItem r items (← countOf i)
  | "remove", [x] =>
    match findItem? (← get) items x 0 items.length with
    | some i => set (items.eraseIdx i)
    | none => valueError "list.remove(x): x not in list"
  | "index", x :: bounds =>
    let text := (← get).literal x
    indexOf items x bounds (valueError (text ++ " is not in list"))
  | "count", [x] => do Bridge.alloc (.int (countItem (← get) items x))
  | "sort", _ => sortList r items args keywords
  | "__getitem__", [k] => getItem r k
  | "__reversed__", _ => Bridge.alloc (.iterator "list_reverseiterator" items.reverse)
  | "__sizeof__", _ => Bridge.alloc (.int (40 + 8 * (items.length : Int)))
  | _, _ => unsupported name

/-! ### Tuples, ranges and slices -/

/-- How many arguments a method of tuples takes. -/
def tupleSignature : String → Signature
  | "count" => .one
  | "index" => .between 1 3
  | _ => .none

/-- How many arguments a method of ranges or slices takes. -/
def rangeSignature : String → Signature
  | "count" | "index" | "indices" => .one
  | _ => .none

/-- Calls a method of a tuple. -/
def callTupleMethod (items : List ObjRef) (name : String) (args : List ObjRef) :
    Act ForeignError ObjRef := do
  match name, args with
  | "index", x :: bounds => indexOf items x bounds (valueError "tuple.index(x): x not in tuple")
  | "count", [x] => do Bridge.alloc (.int (countItem (← get) items x))
  | "__getnewargs__", _ => do Bridge.alloc (.tuple [← Bridge.alloc (.tuple items)])
  | _, _ => unsupported name

/-- Calls a method of a range. -/
def callRangeMethod (r : ObjRef) (c : Counting) (name : String) (args : List ObjRef) :
    Act ForeignError ObjRef := do
  match name, args with
  | "index", [x] =>
    match integer? (← get) x with
    | some n =>
      if c.contains n then Bridge.alloc (.int ((n - c.start).fdiv c.step))
      else do valueError ((← get).literal x ++ " is not in range")
    | none => valueError "sequence.index(x): x not in sequence"
  | "count", [x] => do
    let found ← contains r x
    Bridge.alloc (.int (if found then 1 else 0))
  | "__reversed__", _ => do
    let numbers ← Bridge.allocAll (c.numbers.reverse.map .int)
    Bridge.alloc (.iterator "range_iterator" numbers)
  | "__reduce__", _ => do
    let parts ← Bridge.allocAll [.int c.start, .int c.stop, .int c.step]
    let made ← Bridge.alloc (.type (.core "range"))
    Bridge.alloc (.tuple [made, ← Bridge.alloc (.tuple parts)])
  | _, _ => unsupported name

/-- Calls a method of a slice. -/
def callSliceMethod (start stop step : Option Int) (name : String) (args : List ObjRef) :
    Act ForeignError ObjRef := do
  match name, args with
  | "indices", [n] =>
    let n ← integerOf n
    if n < 0 then valueError "length should not be negative"
    let part ← Act.ofExcept ((Counting.mk 0 n 1).part start stop step)
    let parts ← Bridge.allocAll [.int part.start, .int part.stop, .int part.step]
    Bridge.alloc (.tuple parts)
  | _, _ => do
    let parts ← [start, stop, step].mapM newBound
    let made ← Bridge.alloc (.type (.core "slice"))
    Bridge.alloc (.tuple [made, ← Bridge.alloc (.tuple parts)])

end ScriptBridge.Script
