import ScriptBridge.Script.Assignment

/-!
# Changes of items

What a script puts under a key of an object, or takes away. A slice of a list is replaced as a
whole.
-/

namespace ScriptBridge.Script

open Foreign (ObjRef Object Slice)

/-- The items of an object, or the failure of one that has none. -/
def itemsOr (refusal : String) (r : ObjRef) : Act ForeignError (List ObjRef) := do
  let items : Except ForeignError (List ObjRef) ← Act.attempt (iterate r)
  match items with
  | .ok items => pure items
  | .error (.exception .type _) => typeError refusal
  | .error e => Act.fail e

/-- The items of a list after others have taken the places of a slice. A slice in steps of one can
change its length. -/
def splice (items : List ObjRef) (s : Slice) (value : ObjRef) : Act ForeignError (List ObjRef) := do
  match s.contiguous? items.length with
  | some (lo, hi) => do
    let new ← itemsOr "can only assign an iterable" value
    return items.take lo ++ new ++ items.drop hi
  | none => do
    let new ← itemsOr "must assign iterable to extended slice" value
    let positions := s.positions items.length
    if new.length ≠ positions.length then
      Act.fail (.exception .value ("attempt to assign sequence of size " ++ toString new.length ++
        " to extended slice of size " ++ toString positions.length))
    return (positions.zip new).foldl (fun items p => items.set p.1 p.2) items

/-- The items of a list without those that a slice takes. -/
def cutOut (items : List ObjRef) (s : Slice) : List ObjRef :=
  let positions := s.positions items.length
  (items.zipIdx.filter fun p => !positions.contains p.2).map (·.1)

/-- Replaces what a slice takes from a list, or removes it. -/
def setListSlice (r : ObjRef) (items : List ObjRef) (k : ObjRef) (value : Option ObjRef) :
    Act ForeignError Unit := do
  match ← Bridge.inspect k, value with
  | .slice s, some v => do Bridge.setObject r (.list (← splice items s v))
  | .slice s, none => Bridge.setObject r (.list (cutOut items s))
  | _, _ => typeError (noPositionText (.list items) (← Bridge.qualifiedType k))

/-- Replaces the item of a list, or removes it. -/
def setListItem (r : ObjRef) (items : List ObjRef) (k : ObjRef) (value : Option ObjRef) :
    Act ForeignError Unit := do
  let b ← get
  match intKey? b k with
  | some i =>
    demandIndex i
    let i := if i < 0 && b.interpreter.kind = .library then i + items.length else i
    if i < 0 || (items.length : Int) ≤ i then
      match b.interpreter.kind with
      | .scripted => Act.fail (outside (.list items) .scripted)
      | .library => Act.fail (.exception .index "list assignment index out of range")
    match value with
    | some v => Bridge.setObject r (.list (items.set i.toNat v))
    | none => Bridge.setObject r (.list (items.eraseIdx i.toNat))
  | none =>
    match b.interpreter.kind with
    | .scripted => Act.fail (outside (.list items) .scripted)
    | .library => setListSlice r items k value

/-- Whether a library looks for an item of an object by position at all. -/
def mayHavePositions : Object → Bool
  | .null | .bool _ | .int _ | .float _ | .slice .. | .module .. | .type _ | .wrapper ..
  | .descriptor .. | .native .. | .function .. | .bound .. | .iterator .. | .known .. => false
  | _ => true

/-- The failure of an assignment or a deletion under a key. A library words it otherwise where it
looks for a position to delete. -/
def refuseItem (r k : ObjRef) (deleting : Bool) : Act ForeignError Unit := do
  let b ← get
  let position? := if mayHavePositions (b.objects.get r) then intKey? b k else none
  position?.forM demandIndex
  let byPosition := position?.isSome
  match deleting && b.interpreter.kind = .library, byPosition with
  | true, true => refuse r "doesn't support item deletion"
  | true, false => refuse r "does not support item deletion"
  | false, _ => refuse r "does not support item assignment"

/-- Replaces what is under a key, or deletes it. -/
def setItem (r k : ObjRef) (value : Option ObjRef) : Act ForeignError Unit := do
  let refused := refuseItem r k value.isNone
  match ← Bridge.object r, ← kind with
  | .proxy cls t, .scripted => Proxy.slot (Proxy.assign cls t k value)
  | .proxy cls t, .library =>
    if cls.isSequence || cls.isMapping then Proxy.slot (Proxy.assign cls t k value) else refused
  | .dict entries, _ => setDictItem r entries k value
  | .list items, _ => setListItem r items k value
  | _, _ => refused

end ScriptBridge.Script
