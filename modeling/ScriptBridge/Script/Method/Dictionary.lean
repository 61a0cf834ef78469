import ScriptBridge.Script.Method.Sequence

/-!
# Methods of dictionaries and sets

A dictionary hands out views of its keys, its values and its pairs, which follow its changes. Sets
keep the order in which items came.
-/

namespace ScriptBridge.Script

open Foreign (ObjRef Object ObjectClass DictView)

/-! ### Dictionaries -/

/-- How many arguments a method of dictionaries takes. -/
def dictSignature : String → Signature
  | "__getitem__" | "__contains__" => .one
  | "get" | "setdefault" | "pop" | "fromkeys" => .between 1 2
  | "update" => .any
  | _ => .none

/-- The value under a key, if there is one. -/
def findEntry? (entries : List (ObjRef × ObjRef)) (k : ObjRef) :
    Act ForeignError (Option ObjRef) := do
  demandHashable k
  let b ← get
  return (entries.find? fun e => b.sameKey e.1 k).map (·.2)

/-- The pair that an element stands for, by its position. -/
def pairAt (i : Nat) (r : ObjRef) : Act ForeignError (ObjRef × ObjRef) := do
  let element := "dictionary update sequence element #" ++ toString i
  let parts ← itemsOr ("cannot convert " ++ element ++ " to a sequence") r
  match parts with
  | [k, v] => pure (k, v)
  | parts =>
    valueError (element ++ " has length " ++ toString parts.length ++ "; 2 is required")

/-- The entries that an object brings to a dictionary: those of a dictionary, the items under its
keys, or pairs. -/
def broughtEntries (r : ObjRef) : Act ForeignError (List (ObjRef × ObjRef)) := do
  match ← Bridge.object r with
  | .dict entries => pure entries
  | .mirror c => classEntries c
  | .proxy .dictionary _ | .proxy .bufferMap _ | .mapping _ | .triples _ => do
    let keys ← match ← Bridge.object r with
      | .mapping entries => pure (entries.map (·.1))
      | .triples items => pure (items.take 1)
      | _ => iterate r
    keys.mapM fun k => do return (k, ← getItem r k)
  | _ => do
    let elements ← iterate r
    elements.zipIdx.mapM fun e => pairAt e.2 e.1

/-- Puts entries into a dictionary one after another, and named ones last. -/
def updateDict (r : ObjRef) (name : String) (args : List ObjRef) (keywords : Keywords) :
    Act ForeignError Unit := do
  demandBetween name args 0 1
  let new ← match args with
    | x :: _ => broughtEntries x
    | [] => pure []
  let named ← keywords.mapM fun k => do return (← Bridge.alloc (.str k.1), k.2)
  (new ++ named).forM fun e => do
    match ← Bridge.object r with
    | .dict entries => setDictItem r entries e.1 (some e.2)
    | _ => pure ()

/-- A new dictionary with one value under several keys. -/
def dictFromKeys (args : List ObjRef) : Act ForeignError ObjRef := do
  let keys ← match args with
    | x :: _ => iterate x
    | [] => pure []
  let v ← match args[1]? with
    | some v => pure v
    | none => Bridge.alloc .null
  newDict (keys.map fun k => (k, v))

/-- Calls a method of a dictionary. -/
def callDictMethod (r : ObjRef) (entries : List (ObjRef × ObjRef)) (name : String)
    (args : List ObjRef) (keywords : Keywords) : Act ForeignError ObjRef := do
  let given (v : ObjRef) : Act ForeignError ObjRef := do
    Bridge.hold v
    pure v
  let default : Act ForeignError ObjRef :=
    match args[1]? with
    | some v => pure v
    | none => Bridge.alloc .null
  match name, args with
  | "get", k :: _ => do (← findEntry? entries k).elim default given
  | "setdefault", k :: _ =>
    match ← findEntry? entries k with
    | some v => given v
    | none => do
      let v ← default
      setDictItem r entries k (some v)
      pure v
  | "pop", k :: rest =>
    match ← (if entries.isEmpty then pure none else findEntry? entries k), rest with
    | some v, _ =>
      Bridge.hold v
      setDictItem r entries k none
      pure v
    | none, v :: _ => pure v
    | none, [] => missingKey k
  | "popitem", _ =>
    match entries.getLast? with
    | some e =>
      let pair ← Bridge.alloc (.tuple [e.1, e.2])
      Bridge.setObject r (.dict entries.dropLast)
      pure pair
    | none => do missingKey (← Bridge.alloc (.str "popitem(): dictionary is empty"))
  | "keys", _ => Bridge.alloc (.view .keys r)
  | "values", _ => Bridge.alloc (.view .values r)
  | "items", _ => Bridge.alloc (.view .items r)
  | "update", _ => done (updateDict r "update" args keywords)
  | "clear", _ => done (Bridge.setObject r (.dict []))
  | "copy", _ => Bridge.alloc (.dict entries)
  | "__getitem__", [k] => getItem r k
  | "__contains__", [k] => do Bridge.alloc (.bool (← contains r k))
  | "__reversed__", _ =>
    Bridge.alloc (.iterator "dict_reversekeyiterator" (entries.map (·.1)).reverse)
  | _, _ => unsupported name

/-! ### Sets -/

/-- How many arguments a method of sets takes. -/
def setSignature : String → Signature
  | "add" | "discard" | "remove" | "isdisjoint" | "issubset" | "issuperset" | "__contains__"
  | "symmetric_difference" | "symmetric_difference_update" => .one
  | "union" | "update" | "intersection" | "intersection_update" | "difference"
  | "difference_update" => .counted 0 1000
  | _ => .none

/-- The items without those that equal an earlier one. All of them must be possible keys. -/
def distinct (items : List ObjRef) : Act ForeignError (List ObjRef) := do
  items.forM demandHashable
  let b ← get
  return items.foldl (fun xs x => if xs.any fun y => b.sameKey y x then xs else xs ++ [x]) []

/-- The items of a set after it is joined with others by a method. -/
def joined (name : String) (items : List ObjRef) (others : List (List ObjRef)) :
    Act ForeignError (List ObjRef) := do
  let b ← get
  let inSet (ys : List ObjRef) (x : ObjRef) : Bool := ys.any (b.sameKey x)
  match name with
  | "union" | "update" => distinct (items ++ others.flatten)
  | "intersection" | "intersection_update" => return items.filter fun x => others.all (inSet · x)
  | "difference" | "difference_update" =>
    return items.filter fun x => !others.any (inSet · x)
  | _ => do
    let other := others.flatten
    distinct (items.filter (!inSet other ·) ++ other.filter (!inSet items ·))

/-- Calls a method of a set. -/
def callSetMethod (r : ObjRef) (items : List ObjRef) (name : String) (args : List ObjRef) :
    Act ForeignError ObjRef := do
  let set (new : List ObjRef) : Act ForeignError ObjRef := done (Bridge.setObject r (.set new))
  let without (x : ObjRef) : Act ForeignError (List ObjRef) := do
    demandHashable x
    let b ← get
    return items.filter fun y => !b.sameKey y x
  let known ← args.mapM fun x => do
    if ["add", "discard", "remove", "__contains__"].contains name then pure [] else iterate x
  let inSet (b : Bridge) (ys : List ObjRef) (x : ObjRef) : Bool := ys.any (b.sameKey x)
  match name, args with
  | "add", [x] => do set (← distinct (items ++ [x]))
  | "discard", [x] => do set (← without x)
  | "remove", [x] => do
    let others ← without x
    if others.length = items.length then missingKey x
    set others
  | "pop", _ =>
    match items with
    | x :: rest =>
      Bridge.hold x
      Bridge.setObject r (.set rest)
      pure x
    | [] => do missingKey (← Bridge.alloc (.str "pop from an empty set"))
  | "clear", _ => set []
  | "copy", _ => Bridge.alloc (.set items)
  | "__contains__", [x] => do Bridge.alloc (.bool (← contains r x))
  | "isdisjoint", _ => do
    let b ← get
    Bridge.alloc (.bool (items.all fun x => !known.any (inSet b · x)))
  | "issubset", _ => do
    let b ← get
    Bridge.alloc (.bool (items.all fun x => known.all (inSet b · x)))
  | "issuperset", _ => do
    let b ← get
    Bridge.alloc (.bool (known.flatten.all (inSet b items)))
  | name, _ => do
    let new ← joined name items known
    if name.endsWith "update" then set new else Bridge.alloc (.set new)

end ScriptBridge.Script
