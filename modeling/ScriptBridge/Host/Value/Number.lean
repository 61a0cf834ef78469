import ScriptBridge.Host.Store
import ScriptBridge.Text.Class
import ScriptBridge.Text.Integer

/-!
# Values as numbers and truth values

How a value counts where a number or a truth value is asked for, and when two values are equal.
-/

namespace ScriptBridge.Host

/-- The number a value stands for: a float is cut off and held within 64 bits, a string is read as
an integer. -/
def Value.asNumber? : Value → Option Int64
  | .number n => some n
  | .float x => some x.toInt64
  | .str s => Text.readInt64? (Text.trimBlanks s.toList)
  | _ => .none

/-- Whether a value counts as true. -/
def Store.isTruthy (s : Store) : Value → Bool
  | .null => false
  | .number n => n != 0
  | .float x => x != 0.0
  | .str t => ((Text.readInt64? (Text.trimBlanks t.toList)).map (· != 0)).getD false
  | .list l => !(s.list l).items.isEmpty
  | .dict d => !(s.dict d).entries.isEmpty
  | .func .. => true

/-- Equality of values, given equality of the containers in them. -/
def Value.agree (lists : ListRef → ListRef → Bool) (dicts : DictRef → DictRef → Bool) :
    Value → Value → Bool
  | .null, .null => true
  | .number a, .number b => a == b
  | .float a, .float b => a == b
  | .str a, .str b => a == b
  | .list a, .list b => lists a b
  | .dict a, .dict b => dicts a b
  | .func a as, .func b bs => a == b && agreeAll as bs
  | _, _ => false
where
  /-- Equality of two sequences of values. -/
  agreeAll : List Value → List Value → Bool
    | [], [] => true
    | a :: as, b :: bs => Value.agree lists dicts a b && agreeAll as bs
    | _, _ => false

/-- Equality of entries in key order, given equality of values. -/
def Entries.agree (values : Value → Value → Bool) :
    List (String × Value) → List (String × Value) → Bool
  | [], [] => true
  | a :: as, b :: bs => a.1 == b.1 && values a.2 b.2 && agree values as bs
  | _, _ => false

/-- Equality of sequences, given equality of values. -/
def agreeItems (values : Value → Value → Bool) : List Value → List Value → Bool
  | [], [] => true
  | a :: as, b :: bs => values a b && agreeItems values as bs
  | _, _ => false

/-- Structural equality down to a number of nested containers. A container equals itself without
being looked into. -/
def Store.equalWithin (s : Store) : Nat → Value → Value → Bool
  | 0 => fun _ _ => false
  | depth + 1 => Value.agree
      (fun a b => a = b || agreeItems (s.equalWithin depth) (s.list a).items (s.list b).items)
      (fun a b =>
        a = b || Entries.agree (s.equalWithin depth) (s.dict a).entries (s.dict b).entries)

/-- Structural equality. A comparison that does not come back to a pair of containers it is still
at goes through each pair at most once, which bounds its depth. -/
def Store.equal (s : Store) (a b : Value) : Bool :=
  s.equalWithin (s.lists.size * s.lists.size + s.dicts.size * s.dicts.size + 1) a b

end ScriptBridge.Host
