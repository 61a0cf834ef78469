import ScriptBridge.Script.Method.Sequence
import ScriptBridge.Decimal.Shortest

/-!
# Methods and operations of numbers

Integers of any size, and the plain operations of floats. An operation leaves other operands to
them.
-/

namespace ScriptBridge.Script

open Foreign (ObjRef Object)

/-- The failure of a division by zero. -/
def zeroDivision {α : Type} (text : String) : Act ForeignError α :=
  Act.fail (.exception (.other "ZeroDivisionError") text)

/-- The number of binary digits of a natural number, given a bound on it. -/
def bitLength (n : Nat) : Nat := if n = 0 then 0 else Nat.log2 n + 1

/-! ### Methods -/

/-- How many arguments a method of numbers takes. -/
def numberSignature : String → Signature
  | "__round__" => .between 0 1
  | "__format__" => .one
  | "to_bytes" => .any
  | _ => .none

/-- Calls a method of an integer. -/
def callIntMethod (n : Int) (name : String) (args : List ObjRef) : Act ForeignError ObjRef := do
  match name, args with
  | "conjugate", _ | "__trunc__", _ | "__floor__", _ | "__ceil__", _ | "__round__", [] =>
    Bridge.alloc (.int n)
  | "__round__", [digits] => do
    if 0 ≤ (← integerOf digits) then Bridge.alloc (.int n) else unsupported name
  | "bit_length", _ => Bridge.alloc (.int (bitLength n.natAbs))
  | "bit_count", _ => Bridge.alloc (.int ((Nat.toDigits 2 n.natAbs).countP (· = '1')))
  | "as_integer_ratio", _ => do Bridge.alloc (.tuple (← Bridge.allocAll [.int n, .int 1]))
  | "__getnewargs__", _ => do Bridge.alloc (.tuple (← Bridge.allocAll [.int n]))
  | _, _ => unsupported name

/-- Whether a float is a whole number. -/
def isWhole (x : Float) : Bool := x == x.floor && !(x - x).isNaN

/-- A float without what is behind its point. -/
def truncated (x : Float) : Act ForeignError ObjRef := do
  if x.isNaN then valueError "cannot convert float NaN to integer"
  else if x.isInf then
    Act.fail (.exception .overflow "cannot convert float infinity to integer")
  else Bridge.alloc (.int (Decimal.wholePart x))

/-- Calls a method of a float. -/
def callFloatMethod (x : Float) (name : String) : Act ForeignError ObjRef := do
  match name with
  | "conjugate" => Bridge.alloc (.float x)
  | "is_integer" => Bridge.alloc (.bool (isWhole x))
  | "__trunc__" => truncated x
  | "__floor__" => truncated x.floor
  | "__ceil__" => truncated x.ceil
  | "__getnewargs__" => do Bridge.alloc (.tuple (← Bridge.allocAll [.float x]))
  | _ => unsupported name

/-! ### Operations -/

/-- The value of an operation on one integer. -/
def unaryInt? (n : Int) : String → Option Object
  | "__neg__" => some (.int (-n))
  | "__pos__" | "__int__" | "__index__" => some (.int n)
  | "__abs__" => some (.int n.natAbs)
  | "__invert__" => some (.int (-n - 1))
  | "__bool__" => some (.bool (n ≠ 0))
  | "__float__" => some (.float (Float.ofInt n))
  | "__hash__" =>
    let h := n.natAbs % 2305843009213693951
    some (.int (if n < 0 then (if h = 1 then -2 else -h) else h))
  | _ => none

/-- The value of an operation on one float. -/
def unaryFloat? (x : Float) : String → Option Object
  | "__neg__" => some (.float (-x))
  | "__pos__" | "__float__" => some (.float x)
  | "__abs__" => some (.float x.abs)
  | "__bool__" => some (.bool (x != 0))
  | _ => none

/-- The value of an operation on two integers; an error is a division by zero. -/
def binaryInt? (m n : Int) : String → Option (Except String Object)
  | "__add__" => some (.ok (.int (m + n)))
  | "__sub__" => some (.ok (.int (m - n)))
  | "__mul__" => some (.ok (.int (m * n)))
  | "__floordiv__" =>
    some (if n = 0 then .error "integer division or modulo by zero" else .ok (.int (m.fdiv n)))
  | "__mod__" =>
    some (if n = 0 then .error "integer division or modulo by zero" else .ok (.int (m.fmod n)))
  | "__truediv__" =>
    some (if n = 0 then .error "division by zero"
      else .ok (.float (Float.ofInt m / Float.ofInt n)))
  | _ => none

/-- The value of an operation on two floats; an error is a division by zero. -/
def binaryFloat? (x y : Float) : String → Option (Except String Object)
  | "__add__" => some (.ok (.float (x + y)))
  | "__sub__" => some (.ok (.float (x - y)))
  | "__mul__" => some (.ok (.float (x * y)))
  | "__truediv__" =>
    some (if y == 0 then .error "float division by zero" else .ok (.float (x / y)))
  | _ => none

/-- The name of an operation from the side of its second operand, and the operation. -/
def reflected? (name : String) : Option String :=
  (["add", "sub", "mul", "floordiv", "mod", "truediv"].find? fun n =>
    name = "__r" ++ n ++ "__").map fun n => "__" ++ n ++ "__"

/-- The value of an operation on two numbers; nothing if it is left to the other operand. -/
def binaryNumber? (x y : Object) (name : String) : Option (Except String Object) :=
  match numeric? x, numeric? y with
  | some (.inl m), some (.inl n) => binaryInt? m n name
  | some (.inr u), some v => binaryFloat? u (toFloat v) name
  | _, _ => none

/-- An operation of a number; nothing if there is none of that name with such arguments. -/
def numberOperation? (x : Object) (name : String) (args : List Object) :
    Option (Act ForeignError ObjRef) :=
  let answer : Except String Object → Act ForeignError ObjRef
    | .ok y => Bridge.alloc y
    | .error text => zeroDivision text
  match numeric? x, args, reflected? name with
  | some (.inl n), [], _ => (unaryInt? n name).map Bridge.alloc
  | some (.inr u), [], _ =>
    if name = "__int__" then some (truncated u) else (unaryFloat? u name).map Bridge.alloc
  | some _, [y], none => (binaryNumber? x y name).map answer
  | some (.inl _), [y], some name =>
    match numeric? y with
    | some (.inl _) => (binaryNumber? y x name).map answer
    | _ => none
  | some (.inr u), [y], some name =>
    match numeric? y with
    | some v => (binaryFloat? (toFloat v) u name).map answer
    | none => none
  | _, _, _ => none

end ScriptBridge.Script
