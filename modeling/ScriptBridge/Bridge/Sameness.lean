import ScriptBridge.Bridge.State
import ScriptBridge.Decimal.Shortest

/-!
# Sameness

When objects are equal, when they are the same key of a dictionary, and when two references name
what scripts take for one object.
-/

namespace ScriptBridge

open Foreign (ObjRef Object)

/-- An object as a number. -/
def numeric? : Object → Option (Int ⊕ Float)
  | .int n => some (.inl n)
  | .bool b => some (.inl (if b then 1 else 0))
  | .float x => some (.inr x)
  | _ => none

/-- Whether two numbers are equal. None is rounded for that. -/
def numericEqual : Int ⊕ Float → Int ⊕ Float → Bool
  | .inl a, .inl b => a == b
  | .inr a, .inr b => a == b
  | .inl a, .inr b | .inr b, .inl a => Decimal.isInteger b a

namespace Bridge

/-- Whether two objects of a library's interpreter are equal, down to a number of levels. -/
def equalWithin (b : Bridge) : Nat → ObjRef → ObjRef → Bool
  | 0, _, _ => false
  | depth + 1, r, s =>
    let inner := equalWithin b depth
    let items (xs ys : List ObjRef) : Bool :=
      xs.length == ys.length && (xs.zip ys).all fun p => inner p.1 p.2
    r = s ||
      match b.objects.get r, b.objects.get s with
      | .null, .null => true
      | .str x, .str y => x == y
      | .halved x, .halved y => x == y
      | .bytes x, .bytes y => x == y
      | .type x, .type y => x = y
      | .counting x, .counting y => x.same y
      | .slice i j k, .slice x y z => i = x ∧ j = y ∧ k = z
      | .set xs, .set ys => xs.length == ys.length && xs.all fun x => ys.any (inner x)
      | .dict xs, .dict ys =>
        xs.length == ys.length && xs.all fun x => ys.any fun y => inner x.1 y.1 && inner x.2 y.2
      | .list xs, .list ys | .tuple xs, .tuple ys => items xs ys
      | x, y =>
        match numeric? x, numeric? y with
        | some m, some n => numericEqual m n
        | _, _ => false

/-- Whether two objects of a library's interpreter are equal. -/
def equal (b : Bridge) (r s : ObjRef) : Bool := b.equalWithin (b.objects.cells.size + 1) r s

/-- Whether two objects are the same key of a dictionary. -/
def sameKey (b : Bridge) (r s : ObjRef) : Bool :=
  match b.interpreter.kind with
  | .library => b.equal r s
  | .scripted =>
    r = s ||
      match b.objects.get r, b.objects.get s with
      | .str x, .str y => x == y
      | .bytes x, .bytes y => x == y
      | .int m, .int n => m == n
      | _, _ => false

/-- Whether a script sees two references as one object. A library has small and empty objects that
do not change only once. -/
def identical (b : Bridge) (r s : ObjRef) : Bool :=
  r = s || (b.interpreter.kind = .library &&
    match b.objects.get r, b.objects.get s with
    | .null, .null => true
    | .bool x, .bool y => x == y
    | .int m, .int n => m == n && -5 ≤ m && m ≤ 256
    | .str x, .str y => x == y && x.length ≤ 1 && x.toList.all (·.toNat < 0x100)
    | .bytes x, .bytes y => x == y && x.length ≤ 1
    | .tuple [], .tuple [] => true
    | .type x, .type y => x = y
    | _, _ => false)

end Bridge

end ScriptBridge
