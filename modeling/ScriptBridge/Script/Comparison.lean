import ScriptBridge.Bridge.Sameness
import ScriptBridge.Script.Attribute

/-!
# Comparisons

The order of numbers, texts and bytes, and that of lists and tuples, which the first items that
differ decide. Objects of other types are compared by no more than sameness.
-/

namespace ScriptBridge.Script

open Foreign (ObjRef Object)

/-- A comparison. -/
inductive Comparison where
  | less
  | lessEqual
  | equal
  | unequal
  | greater
  | greaterEqual
deriving DecidableEq

namespace Comparison

/-- The sign of a comparison. -/
def sign : Comparison → String
  | less => "<"
  | lessEqual => "<="
  | equal => "=="
  | unequal => "!="
  | greater => ">"
  | greaterEqual => ">="

/-- The comparison behind the name of an operation. -/
def ofName? : String → Option Comparison
  | "__lt__" => some less
  | "__le__" => some lessEqual
  | "__eq__" => some equal
  | "__ne__" => some unequal
  | "__gt__" => some greater
  | "__ge__" => some greaterEqual
  | _ => none

/-- Whether a comparison holds of things in an order. -/
def holds : Comparison → Ordering → Bool
  | less, o => o.isLT
  | lessEqual, o => o.isLE
  | equal, o => o.isEq
  | unequal, o => o.isNe
  | greater, o => o.isGT
  | greaterEqual, o => o.isGE

/-- Whether a comparison asks for sameness only. -/
def isSameness : Comparison → Bool
  | equal | unequal => true
  | _ => false

end Comparison

/-- A number as a float. -/
def toFloat : Int ⊕ Float → Float
  | .inl n => Float.ofInt n
  | .inr x => x

/-- The order of two numbers; none if one of them is no number. -/
def orderNumbers : Int ⊕ Float → Int ⊕ Float → Option Ordering
  | .inl m, .inl n => some (compare m n)
  | x, y =>
    if numericEqual x y then some .eq
    else if toFloat x < toFloat y then some .lt
    else if toFloat y < toFloat x then some .gt
    else none

/-- The order of texts by their places; half of a character is behind what is below it. -/
def orderPlaces (xs ys : List (Option Char)) : Ordering :=
  let code (c : Option Char) : Nat := (c.map (·.toNat)).getD halfCode
  compareOfLessAndEq (xs.map code) (ys.map code)

/-- The failure of a comparison of objects of two types that have no order. -/
def notOrdered (c : Comparison) (left right : String) : ForeignError :=
  .exception .type ("'" ++ c.sign ++ "' not supported between instances of '" ++ left ++ "' and '" ++
    right ++ "'")

/-- The failure of a comparison of two objects that have no order. -/
def unordered (b : Bridge) (c : Comparison) (r s : ObjRef) : ForeignError :=
  let name (r : ObjRef) : String := (b.objects.get r).qualifiedType .library
  notOrdered c (name r) (name s)

/-- Whether a comparison holds of two objects that are both sequences: the first items that differ
decide, given how items are compared, or else the lengths. -/
def compareItems (b : Bridge) (inner : ObjRef → ObjRef → Except ForeignError Bool)
    (c : Comparison) : List ObjRef → List ObjRef → Except ForeignError Bool
  | x :: xs, y :: ys =>
    if b.equal x y then compareItems b inner c xs ys
    else if c.isSameness then .ok (c.holds .lt)
    else inner x y
  | [], [] => .ok (c.holds .eq)
  | [], _ :: _ => .ok (c.holds .lt)
  | _ :: _, [] => .ok (c.holds .gt)

/-- Whether a comparison holds of the bounds of two slices: the first that differ decide. -/
def compareBounds (c : Comparison) :
    List (Option Int) → List (Option Int) → Except ForeignError Bool
  | m :: ms, n :: ns =>
    let name (m : Option Int) : String := if m.isSome then "int" else "NoneType"
    if m = n then compareBounds c ms ns
    else match m, n, c.isSameness with
      | _, _, true => .ok (c.holds .lt)
      | some m, some n, false => .ok (c.holds (compare m n))
      | m, n, false => .error (notOrdered c (name m) (name n))
  | _, _ => .ok (c.holds .eq)

/-- Whether a comparison holds of two objects, down to a number of levels. -/
def compareWithin (b : Bridge) (c : Comparison) : Nat → ObjRef → ObjRef → Except ForeignError Bool
  | 0, r, s => .error (unordered b c r s)
  | depth + 1, r, s =>
    let items := compareItems b (compareWithin b c depth) c
    match b.objects.get r, b.objects.get s with
    | .list xs, .list ys | .tuple xs, .tuple ys => items xs ys
    | .bytes xs, .bytes ys => .ok (c.holds (compareOfLessAndEq xs ys))
    | .slice i j k, .slice x y z => compareBounds c [i, j, k] [x, y, z]
    | .set xs, .set ys =>
      let inSet (zs : List ObjRef) (x : ObjRef) : Bool := zs.any (b.equal x)
      let below := xs.all (inSet ys)
      let above := ys.all (inSet xs)
      .ok (match c with
        | .less => below && !above
        | .lessEqual => below
        | .greater => above && !below
        | .greaterEqual => above
        | .equal => below && above
        | .unequal => !(below && above))
    | x, y =>
      match numeric? x, numeric? y, x.places?, y.places? with
      | some m, some n, _, _ =>
        .ok (match orderNumbers m n with
          | some o => c.holds o
          | none => c = .unequal)
      | _, _, some xs, some ys => .ok (c.holds (orderPlaces xs ys))
      | _, _, _, _ =>
        if c.isSameness then .ok (c.holds (if b.equal r s then .eq else .lt))
        else .error (unordered b c r s)

/-- Whether a comparison holds of two objects. -/
def compareObjects (b : Bridge) (c : Comparison) (r s : ObjRef) : Except ForeignError Bool :=
  compareWithin b c (b.objects.cells.size + 1) r s

/-- Whether a type decides a comparison with an object by itself: that is of the same sort, or the
other one is an integer where this one is a float. -/
def decides (b : Bridge) (c : Comparison) (r s : ObjRef) : Bool :=
  match b.objects.get r, b.objects.get s with
  | .list _, .list _ | .tuple _, .tuple _ | .bytes _, .bytes _ | .set _, .set _ => true
  | .float _, y => (numeric? y).isSome
  | .int _, .int _ | .int _, .bool _ | .bool _, .int _ | .bool _, .bool _ => true
  | .slice .., .slice .. => true
  | .dict _, .dict _ | .counting _, .counting _ => c.isSameness
  | x, y => x.places?.isSome && y.places?.isSome

/-- A comparison as an operation of an object. -/
def compareOperation (c : Comparison) (r s : ObjRef) : Act ForeignError (Option Bool) := do
  let b ← get
  if decides b c r s then some <$> Act.ofExcept (compareObjects b c r s)
  else if c.isSameness && b.identical r s then return some (c = .equal)
  else return none

end ScriptBridge.Script
