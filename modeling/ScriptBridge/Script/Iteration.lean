import ScriptBridge.Script.Item

/-!
# Iteration

The items that a script goes through, and whether an object is among them. A text contains its
parts.
-/

namespace ScriptBridge.Script

open Foreign (ObjRef Object DictView ProxyClass Target)

/-- The items of a proxy from a position on, until there is none. There are no more than `n`. -/
def itemsUntilEnd (cls : ProxyClass) (t : Target) : Nat → Int → Act ForeignError (List ObjRef)
  | 0, _ => pure []
  | n + 1, i => do
    let item : Except ForeignError ObjRef ← Act.attempt (Proxy.slot (Proxy.item cls t i))
    match item with
    | .ok r => return r :: (← itemsUntilEnd cls t n (i + 1))
    | .error (.exception .index _) => pure []
    | .error e => Act.fail e

/-- The items of a proxy of a library's interpreter. Its length is asked for first. -/
def iterateProxy (r : ObjRef) (cls : ProxyClass) (t : Target) : Act ForeignError (List ObjRef) := do
  if cls.isIterable then
    let list ← Proxy.slot (Proxy.iterate cls t)
    return ((← Bridge.object list).elements?).getD []
  else if cls.isSequence then
    let n ← Proxy.slot (Proxy.length cls t)
    itemsUntilEnd cls t (n + 1) 0
  else refuse r "is not iterable"

/-- What a view of a dictionary shows of its entries. -/
def viewed (sort : DictView) (entries : List (ObjRef × ObjRef)) : Act ForeignError (List ObjRef) :=
  match sort with
  | .keys => return entries.map (·.1)
  | .values => return entries.map (·.2)
  | .items => entries.mapM fun e => Bridge.alloc (.tuple [e.1, e.2])

/-- The items that iteration goes through. -/
def iterate (r : ObjRef) : Act ForeignError (List ObjRef) := do
  let x ← Bridge.object r
  match x, ← kind with
  | .proxy cls t, .scripted =>
    if cls.isIterable then
      let list ← Proxy.slot (Proxy.iterate cls t)
      return ((← Bridge.object list).elements?).getD []
    else
      let n ← Proxy.slot (Proxy.length cls t)
      (List.range n).mapM fun (i : Nat) => Proxy.slot (Proxy.item cls t i)
  | .proxy cls t, .library => iterateProxy r cls t
  | .dict entries, _ => return entries.map (·.1)
  | .mirror c, _ => do return (← classEntries c).map (·.1)
  | .set items, .library => return items
  | .str _, .library | .halved _, .library | .bytes _, .library | .counting _, .library =>
    Bridge.itemsOf r
  | .iterator typeName rest, _ =>
    Bridge.setObject r (.iterator typeName [])
    return rest
  | .view sort d, _ => viewed sort ((← get).objects.entries d)
  | x, _ =>
    match x.elements? with
    | some items => pure items
    | none => refuse r "is not iterable"

/-! ### Containment -/

/-- Whether items stand one after another in a list. -/
def occursIn {β : Type} [BEq β] (items : List β) : List β → Bool
  | [] => items.isEmpty
  | x :: rest => items.isPrefixOf (x :: rest) || occursIn items rest

/-- Whether bytes contain an object: a part of them, or one of them as a number. -/
def bytesContain (bs : List UInt8) (v : ObjRef) : Act ForeignError Bool := do
  let b ← get
  match b.objects.get v, intKey? b v with
  | .bytes part, _ => return occursIn part bs
  | _, some n =>
    if 0 ≤ n ∧ n < 256 then return bs.contains n.toNat.toUInt8
    else Act.fail (.exception .value "byte must be in range(0, 256)")
  | _, none =>
    typeError ("a bytes-like object is required, not '" ++ (← Bridge.qualifiedType v) ++ "'")

/-- Whether one of the items that iteration goes through equals an object. -/
def iterationContains (r v : ObjRef) : Act ForeignError Bool := do
  let items : Except ForeignError (List ObjRef) ← Act.attempt (iterate r)
  match items with
  | .ok items => do
    let b ← get
    return items.any fun x => b.equal x v
  | .error (.exception .type _) =>
    typeError ("argument of type '" ++ (← Bridge.qualifiedType r) ++ "' is not iterable")
  | .error e => Act.fail e

/-- Whether an object contains another one. -/
def contains (r v : ObjRef) : Act ForeignError Bool := do
  let b ← get
  match b.objects.get r, b.objects.get v with
  | .dict entries, _ =>
    demandHashable v
    return entries.any fun e => b.sameKey e.1 v
  | .set _, .set _ => return false
  | .set items, _ =>
    demandHashable v
    return items.any fun x => b.sameKey x v
  | .bytes bs, _ => bytesContain bs v
  | .counting c, y =>
    match numeric? y with
    | some (.inl n) => return c.contains n
    | _ => iterationContains r v
  | x, y =>
    match x.places?, y.places? with
    | some places, some part => return occursIn part places
    | some _, none =>
      typeError ("'in <string>' requires string as left operand, not " ++
        (← Bridge.qualifiedType v))
    | none, _ => iterationContains r v

end ScriptBridge.Script
