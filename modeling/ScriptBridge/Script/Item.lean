import ScriptBridge.Bridge.Sameness
import ScriptBridge.Script.Attribute

/-!
# Items

What is under a key of an object, and how many items an object has. Proxies go through their slots;
the sequences of the interpreter are read by position or by slice. A library's dictionary keeps the
first of equal keys and the last of their values, and refuses keys that can change.
-/

namespace ScriptBridge.Script

open Foreign (ObjRef Object Counting InterpreterKind Slice)

/-! ### Dictionaries -/

variable {α : Type}

/-- The object inside a key, down to a number of levels, that cannot be a part of one. -/
def unhashableIn? (b : Bridge) : Nat → ObjRef → Option ObjRef
  | 0, _ => none
  | depth + 1, r =>
    match b.objects.get r with
    | .tuple items => items.findSome? (unhashableIn? b depth)
    | x => if (x.class .library).definitions.hashable then none else some r

/-- Refuses an object that cannot be a key. -/
def demandHashable (r : ObjRef) : Act ForeignError Unit := do
  let b ← get
  match unhashableIn? b (b.objects.cells.size + 1) r with
  | some inner => typeError ("unhashable type: '" ++ (← Bridge.qualifiedType inner) ++ "'")
  | none => pure ()

/-- The entries with a value under a key: in place of the one that is there, or at the end. -/
def mergeEntry (b : Bridge) (k v : ObjRef) : List (ObjRef × ObjRef) → List (ObjRef × ObjRef)
  | [] => [(k, v)]
  | e :: rest => if b.sameKey e.1 k then (e.1, v) :: rest else e :: mergeEntry b k v rest

/-- A new dictionary. A library keeps the first of equal keys and the last of their values. -/
def newDict (entries : List (ObjRef × ObjRef)) : Act ForeignError ObjRef := do
  let b ← get
  match b.interpreter.kind with
  | .scripted => Bridge.alloc (.dict entries)
  | .library =>
    entries.forM fun e => demandHashable e.1
    Bridge.alloc (.dict (entries.foldl (fun es e => mergeEntry b e.1 e.2 es) []))

/-- The failure of a key that a dictionary does not have. -/
def missingKey (k : ObjRef) : Act ForeignError α := do
  let b ← get
  match b.interpreter.kind with
  | .scripted => Act.fail (.exception .key (b.objects.debug k))
  | .library => Act.fail (.absentKey k (b.literal k))

/-- The value under a key of a dictionary. -/
def dictItem (entries : List (ObjRef × ObjRef)) (k : ObjRef) : Act ForeignError ObjRef := do
  if (← kind) = .library then demandHashable k
  let b ← get
  match entries.find? fun e => b.sameKey e.1 k with
  | some e =>
    Bridge.hold e.2
    pure e.2
  | none => missingKey k

/-- Puts a value under a key of a dictionary, or removes the entry. The scripted interpreter moves
an entry that is replaced to the end and removes what is not there. -/
def setDictItem (r : ObjRef) (entries : List (ObjRef × ObjRef)) (k : ObjRef)
    (value : Option ObjRef) : Act ForeignError Unit := do
  let b ← get
  let others := entries.filter fun e => !b.sameKey e.1 k
  match b.interpreter.kind, value with
  | .scripted, none => Bridge.setObject r (.dict others)
  | .scripted, some v => Bridge.setObject r (.dict (others ++ [(k, v)]))
  | .library, some v =>
    demandHashable k
    Bridge.setObject r (.dict (mergeEntry b k v entries))
  | .library, none =>
    demandHashable k
    if others.length = entries.length then missingKey k
    Bridge.setObject r (.dict others)

/-! ### Sequences and proxies -/

/-- An integer key. -/
def intKey? (b : Bridge) (k : ObjRef) : Option Int :=
  match b.objects.get k with
  | .int n => some n
  | .bool x => some (if x then 1 else 0)
  | _ => none

/-- The name of a sequence in the wording of a position outside of it. -/
def sequenceName : Object → String
  | .str _ | .halved _ => "string"
  | .counting _ => "range object"
  | .bytes _ => "index"
  | .tuple _ => "tuple"
  | _ => "list"

/-- The wording of a key that is no position, by the name of its type. -/
def noPositionText (x : Object) (typeName : String) : String :=
  let among (name : String) : String :=
    name ++ " indices must be integers or slices, not " ++ typeName
  match x with
  | .str _ | .halved _ => "string indices must be integers, not '" ++ typeName ++ "'"
  | .counting _ => among "range"
  | .bytes _ => among "byte"
  | x => among (sequenceName x)

/-- The failure of a position outside a sequence. -/
def outside (x : Object) : InterpreterKind → ForeignError
  | .scripted => .exception .index "index out of range"
  | .library =>
    match x with
    | .bytes _ => .exception .index "index out of range"
    | x => .exception .index (sequenceName x ++ " index out of range")

/-- Refuses a position that no sequence of a library can have. -/
def demandIndex (i : Int) : Act ForeignError Unit := do
  if (← kind) = .library && !Text.fitsInt64 i then
    Act.fail (.exception .index "cannot fit 'int' into an index-sized integer")

/-- The part of a sequence that a slice takes, given the items of the sequence. -/
def pick (x : Object) (items : List ObjRef) (s : Slice) : Object :=
  let take {β : Type} (xs : List β) : List β := (s.positions xs.length).filterMap (xs[·]?)
  match x with
  | .str t => .str (String.ofList (take t.toList))
  | .halved places => .ofPlaces (take places)
  | .bytes bs => .bytes (take bs)
  | .tuple _ => .tuple (take items)
  | _ => .list (take items)

/-- The item of a sequence under a key. -/
def sequenceItem (x : Object) (items : List ObjRef) (k : ObjRef) : Act ForeignError ObjRef := do
  let b ← get
  match intKey? b k, b.objects.get k, b.interpreter.kind with
  | some i, _, kind =>
    demandIndex i
    let j := if i < 0 then i + items.length else i
    match if 0 ≤ j then items[j.toNat]? else none with
    | some r =>
      Bridge.hold r
      pure r
    | none => Act.fail (outside x kind)
  | none, .slice .., .library =>
    match ← Bridge.inspect k with
    | .slice s => Bridge.alloc (pick x items s)
    | _ => Act.fail (outside x .library)
  | none, _, .scripted => typeError "indices must be integers"
  | none, _, .library =>
    typeError (noPositionText x (← Bridge.qualifiedType k))

/-- The number of a range object under a key, or the part of it that a slice takes. -/
def countingItem (c : Counting) (k : ObjRef) : Act ForeignError ObjRef := do
  let b ← get
  match intKey? b k, b.objects.get k with
  | some i, _ =>
    match c.item? i with
    | some n => Bridge.alloc (.int n)
    | none => Act.fail (outside (.counting c) .library)
  | none, .slice start stop step => do
    Bridge.alloc (.counting (← Act.ofExcept (c.part start stop step)))
  | none, _ => typeError (noPositionText (.counting c) (← Bridge.qualifiedType k))

/-- What is under a key. -/
def getItem (r k : ObjRef) : Act ForeignError ObjRef := do
  let x ← Bridge.object r
  match x, ← kind with
  | .proxy cls t, .scripted => Proxy.slot (Proxy.subscript cls t k)
  | .proxy cls t, .library =>
    if cls.isSequence || cls.isMapping then Proxy.slot (Proxy.subscript cls t k)
    else refuse r "is not subscriptable"
  | .dict entries, _ => dictItem entries k
  | .mirror c, _ => do dictItem (← classEntries c) k
  | .list items, _ | .tuple items, _ | .sequence items, _ => sequenceItem x items k
  | .str _, .library | .halved _, .library | .bytes _, .library =>
    sequenceItem x (← Bridge.itemsOf r) k
  | .counting c, .library => countingItem c k
  | .type c, .library => typeError ("type '" ++ c.label ++ "' is not subscriptable")
  | _, _ => refuse r "is not subscriptable"

/-- The length of an object. -/
def length (r : ObjRef) : Act ForeignError Nat := do
  let x ← Bridge.object r
  let none_ : Act ForeignError Nat := do Act.fail (noLength (← Bridge.qualifiedType r))
  match x, ← kind with
  | .proxy cls t, .scripted => Proxy.slot (Proxy.length cls t)
  | .proxy cls t, .library =>
    if cls.isSequence || cls.isMapping then Proxy.slot (Proxy.length cls t) else none_
  | .str s, _ => pure s.length
  | .halved places, _ => pure places.length
  | .bytes b, _ => pure b.length
  | .dict entries, _ | .mapping entries, .scripted => pure entries.length
  | .view _ d, _ => return ((← get).objects.entries d).length
  | .mirror c, _ => do return (← classEntries c).length
  | .set items, .library => pure items.length
  | .counting c, .library =>
    if Text.fitsInt64 c.length then pure c.length else Act.fail Bridge.uncountable
  | x, _ =>
    match x.elements? with
    | some items => pure items.length
    | none => none_

end ScriptBridge.Script
