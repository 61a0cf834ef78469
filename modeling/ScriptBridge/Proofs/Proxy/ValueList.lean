import ScriptBridge.Proofs.Foreign.Slice
import ScriptBridge.Proofs.Proxy.LineList

/-!
# Lists of values

What a script expects of a list of the editor: a list of values. An item can be put behind the last
one by its index, and only slices in steps of one can be replaced or deleted. An operation that
raises an exception leaves the list as it was.
-/

namespace ScriptBridge.ValueList

open Foreign (Slice)
open Host (Value)

/-- What an operation takes from a list: an item, or a slice. Only a reading operation takes a truth
value, as the index zero or one. -/
inductive Key where
  | at (i : Int)
  | flag (x : Bool)
  | slice (start stop step : Option Int)

/-- An operation on a list. An operand that is not what the operation takes raises an exception. -/
inductive Request where
  | length
  | get (key : Key)
  /-- New items in place of what the key takes. -/
  | set (key : Key) (new : Except ExceptionKind (List Value))
  | delete (key : Key)
  /-- New items behind the last one. -/
  | extend (new : Except ExceptionKind (List Value))
  /-- All items, one after another. -/
  | items

/-- What an operation gives to the script. -/
inductive Given where
  | nothing
  | count (n : Nat)
  | value (v : Value)
  | values (vs : List Value)

/-- The positions from which and up to which a key takes items that can be replaced. -/
def Key.part (len : Nat) : Key → Except ExceptionKind (Nat × Nat)
  | .at i => do
    let n ← LineList.position len i
    return (n, n + 1)
  | .flag _ => .error .type
  | .slice start stop step =>
    if step.getD 1 = 1 then
      let lo := (Slice.first len start 1).toNat
      .ok (lo, max (Slice.last len stop 1).toNat lo)
    else .error .value

/-- Where the new items for a key go. The index behind the last item appends. -/
def Key.place (len : Nat) (key : Key) : Except ExceptionKind (Nat × Nat) :=
  match key with
  | .at i => if i = len then .ok (len, len) else key.part len
  | key => key.part len

/-- The items after new ones have come in place of those from position `lo` up to position `hi`. -/
def replaced (items : List Value) (lo hi : Nat) (new : List Value) : List Value :=
  items.take lo ++ new ++ items.drop hi

/-- What an operation gives, and the items afterwards; or the exception that it raises. -/
def apply (items : List Value) : Request → Except ExceptionKind (Given × List Value)
  | .length => .ok (.count items.length, items)
  | .get (.at i) => do
    let n ← LineList.position items.length i
    return (.value (items.getD n .null), items)
  | .get (.flag x) => do
    let n ← LineList.position items.length (if x then 1 else 0)
    return (.value (items.getD n .null), items)
  | .get (.slice start stop step) =>
    if step = some 0 then .error .value
    else
      let taken := Slice.taken items.length start stop (step.getD 1)
      .ok (.values (taken.filterMap (items[·]?)), items)
  | .set key new => do
    let (lo, hi) ← key.place items.length
    return (.nothing, replaced items lo hi (← new))
  | .delete key => do
    let (lo, hi) ← key.part items.length
    return (.nothing, replaced items lo hi [])
  | .extend new => do return (.value .null, items ++ (← new))
  | .items => .ok (.values items, items)

/-- What an operation comes to, and the items afterwards. An exception leaves them as they were. -/
def step (items : List Value) (q : Request) : Except ExceptionKind Given × List Value :=
  match apply items q with
  | .ok (g, new) => (.ok g, new)
  | .error kind => (.error kind, items)

/-- What several operations come to, one after another, with the items after each of them. -/
def run (items : List Value) : List Request → List (Except ExceptionKind Given × List Value)
  | [] => []
  | q :: rest => step items q :: run (step items q).2 rest

/-- The items after several operations. -/
def after (items : List Value) (qs : List Request) : List Value :=
  qs.foldl (fun items q => (step items q).2) items

variable {items : List Value}

theorem run_append (items : List Value) (qs : List Request) (q : Request) :
    run items (qs ++ [q]) = run items qs ++ [step (after items qs) q] := by
  induction qs generalizing items with
  | nil => rfl
  | cons first rest ih =>
    rw [List.cons_append, run, run, ih]
    rfl

theorem after_append (items : List Value) (qs : List Request) (q : Request) :
    after items (qs ++ [q]) = (step (after items qs) q).2 := by
  unfold after
  rw [List.foldl_append]
  rfl

/-! ### Changes -/

theorem replaced_eq_set {n : Nat} (hn : n < items.length) (v : Value) :
    replaced items n (n + 1) [v] = items.set n v := by
  rw [List.set_eq_take_append_cons_drop, if_pos hn, replaced, List.append_assoc]
  rfl

theorem replaced_end (items : List Value) (new : List Value) :
    replaced items items.length items.length new = items ++ new := by
  rw [replaced, List.take_length, List.drop_length, List.append_nil]

theorem replaced_eq_eraseIdx (items : List Value) (n : Nat) :
    replaced items n (n + 1) [] = items.eraseIdx n := by
  rw [List.eraseIdx_eq_take_drop_succ, replaced, List.append_nil]

/-- A slice in steps of one takes a part that lies inside of the list. -/
theorem slice_part_le (len : Nat) (start stop : Option Int) :
    let lo := (Slice.first len start 1).toNat
    lo ≤ len ∧ lo ≤ max (Slice.last len stop 1).toNat lo ∧
      max (Slice.last len stop 1).toNat lo ≤ len := by
  have hfirst := Slice.first_mem len start 1
  have hlast := Slice.last_mem len stop 1
  dsimp only
  omega

end ScriptBridge.ValueList
